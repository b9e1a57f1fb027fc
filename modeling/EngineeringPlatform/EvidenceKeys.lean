import EngineeringPlatform.EvidenceSystem
namespace EngineeringPlatform.Evidence
open Checked EngineeringPlatform.SourceControl Integration KeyLocks SharedWorkers TransitionRuns

def EvidenceTables.keys (t : EvidenceTables) : List EvidenceKey :=
  t.validations.map (fun row => .content row.workItemId row.referenceHash) ++
    t.validations.map (fun row => .validation row.id) ++ t.receipts.map (fun row => .receipt row.messageId) ++
    t.requests.map (fun row => .request row.messageId) ++ t.evidence.map (fun row => .snapshot row.snapshot) ++
    t.evidence.map (fun row => .evidence row.id)

def EvidenceWrite.inserts : EvidenceWrite → List EvidenceKey
  | .validation row => [.content row.workItemId row.referenceHash,.validation row.id]
  | .receipt row => [.receipt row.messageId]
  | .request row => [.request row.messageId]
  | .evidence row => [.snapshot row.snapshot,.evidence row.id]
  | .updatedRequest _ | .item _ => []

-- A changed request is locked, and an item belongs to evidence of its transaction.
def EvidenceWrite.needs : EvidenceWrite → List EvidenceKey
  | .updatedRequest row => [.request row.messageId]
  | .item row => [.evidence row.evidenceId]
  | write => write.inserts

theorem update_same_key {rows : List EvidenceRequest} {new : EvidenceRequest} :
    (KeyedRows.update EvidenceRequest.messageId rows new.messageId fun _ => new).map
      (fun row => EvidenceKey.request row.messageId) = rows.map fun row => EvidenceKey.request row.messageId := by
  unfold KeyedRows.update
  rw [List.map_map]
  refine List.map_congr_left fun row _ => ?_
  dsimp only [Function.comp]
  split
  · rename_i same
    rw [same]
  · rfl

def evidenceSchema : Schema EvidenceTables EvidenceWrite EvidenceKey where
  apply := EvidenceTables.apply
  keys := EvidenceTables.keys
  inserts := EvidenceWrite.inserts
  needs := EvidenceWrite.needs
  covered write := by
    cases write with
    | updatedRequest => exact List.nil_subset _
    | item => exact List.nil_subset _
    | _ => exact List.Subset.refl _
  applied t write := by
    cases write with
    | updatedRequest row =>
      simp only [EvidenceTables.keys,EvidenceTables.apply,EvidenceWrite.inserts,List.append_nil,update_same_key]
      exact List.Perm.refl _
    | item row =>
      simp only [EvidenceTables.keys,EvidenceTables.apply,EvidenceWrite.inserts,List.append_nil]
      exact List.Perm.refl _
    | _ =>
      rw [List.perm_iff_count]
      intro key
      simp only [EvidenceTables.keys,EvidenceTables.apply,EvidenceWrite.inserts,List.map_append,List.map_cons,
        List.map_nil,List.count_append,List.count_cons,List.count_nil]
      omega

abbrev Pending (s : EvidenceStore) (transaction : Transaction) : Prop :=
  evidenceSchema.Pending s.locks s.tables transaction.id transaction.writes

theorem find_absent {κ ρ : Type} [DecidableEq κ] {key : ρ → κ} {rows : List ρ} {k : κ} :
    KeyedRows.find key rows k = none ↔ k ∉ rows.map key := by
  unfold KeyedRows.find
  simp [List.find?_eq_none]

section
variable {t : EvidenceTables}

theorem content_key : t.externalValidationByHash workItemId referenceHash = none ↔
    EvidenceKey.content workItemId referenceHash ∉ t.keys := by
  unfold EvidenceTables.externalValidationByHash
  rw [find_absent]
  simp [EvidenceTables.keys,ExternalValidationRow.content]

theorem validation_key {id : Uuid} : t.externalValidationById id = none ↔ EvidenceKey.validation id ∉ t.keys := by
  unfold EvidenceTables.externalValidationById
  rw [find_absent]
  simp [EvidenceTables.keys]

theorem receipt_key : t.externalValidationReceipt messageId = none ↔ EvidenceKey.receipt messageId ∉ t.keys := by
  unfold EvidenceTables.externalValidationReceipt
  rw [find_absent]
  simp [EvidenceTables.keys]

theorem request_key : t.evidenceRequest messageId = none ↔ EvidenceKey.request messageId ∉ t.keys := by
  unfold EvidenceTables.evidenceRequest
  rw [find_absent]
  simp [EvidenceTables.keys]

theorem snapshot_key {snapshot : Uuid × String} :
    t.integrationBaselineEvidenceBySnapshot snapshot = none ↔ EvidenceKey.snapshot snapshot ∉ t.keys := by
  unfold EvidenceTables.integrationBaselineEvidenceBySnapshot
  rw [find_absent]
  simp [EvidenceTables.keys]

theorem evidence_key {id : Uuid} : t.integrationBaselineEvidenceById id = none ↔ EvidenceKey.evidence id ∉ t.keys := by
  unfold EvidenceTables.integrationBaselineEvidenceById
  rw [find_absent]
  simp [EvidenceTables.keys]

end

-- The unique constraints, one by one.
structure UniqueKeys (t : EvidenceTables) : Prop where
  contents : KeyedRows.Unique ExternalValidationRow.content t.validations
  validations : KeyedRows.Unique ExternalValidationRow.id t.validations
  receipts : KeyedRows.Unique ExternalValidationReceipt.messageId t.receipts
  requests : KeyedRows.Unique EvidenceRequest.messageId t.requests
  snapshots : KeyedRows.Unique EvidenceHeader.snapshot t.evidence
  evidence : KeyedRows.Unique EvidenceHeader.id t.evidence

theorem unique_of_keys {κ ρ : Type} {key : ρ → κ} {rows : List ρ} {name : κ → EvidenceKey}
    (nodup : (rows.map fun row => name (key row)).Nodup) : KeyedRows.Unique key rows := by
  have named : rows.map (fun row => name (key row)) = (rows.map key).map name := by
    rw [List.map_map]
    rfl
  rw [named] at nodup
  exact nodup.of_map name

theorem keys_unique {t : EvidenceTables} (nodup : t.keys.Nodup) : UniqueKeys t := by
  unfold EvidenceTables.keys at nodup
  have first := List.nodup_append.mp nodup
  have second := List.nodup_append.mp first.1
  have third := List.nodup_append.mp second.1
  have fourth := List.nodup_append.mp third.1
  have fifth := List.nodup_append.mp fourth.1
  exact ⟨@unique_of_keys _ _ _ _ (fun pair => .content pair.1 pair.2) fifth.1,unique_of_keys fifth.2.1,
    unique_of_keys fourth.2.1,unique_of_keys third.2.1,unique_of_keys second.2.1,unique_of_keys first.2.1⟩

theorem appended {τ ω ρ : Type} {apply : τ → ω → τ} {rows : τ → List ρ} {written : ω → Option ρ} {tables : τ}
    {writes : List ω} (one : ∀ tables write, rows (apply tables write) = rows tables ++ (written write).toList) :
    rows (writes.foldl apply tables) = rows tables ++ writes.filterMap written := by
  induction writes generalizing tables with
  | nil => simp
  | cons write rest ih =>
    rw [List.foldl_cons,ih,one,List.append_assoc,List.filterMap_cons]
    cases written write <;> rfl

-- What a list of writes inserts, table by table.
def validationsOf (writes : List EvidenceWrite) : List ExternalValidationRow :=
  writes.filterMap fun | .validation row => some row | _ => none
def receiptsOf (writes : List EvidenceWrite) : List ExternalValidationReceipt :=
  writes.filterMap fun | .receipt row => some row | _ => none
def itemsOf (writes : List EvidenceWrite) : List EvidenceItemRow :=
  writes.filterMap fun | .item row => some row | _ => none

section
variable {t : EvidenceTables} {writes : List EvidenceWrite}

theorem applyAll_validations : (t.applyAll writes).validations = t.validations ++ validationsOf writes :=
  appended fun _ write => by cases write <;> simp [EvidenceTables.apply]

theorem applyAll_receipts : (t.applyAll writes).receipts = t.receipts ++ receiptsOf writes :=
  appended fun _ write => by cases write <;> simp [EvidenceTables.apply]

theorem applyAll_evidence : (t.applyAll writes).evidence = t.evidence ++ evidenceOf writes :=
  appended fun _ write => by cases write <;> simp [EvidenceTables.apply]

theorem applyAll_items : (t.applyAll writes).items = t.items ++ itemsOf writes :=
  appended fun _ write => by cases write <;> simp [EvidenceTables.apply]

end

-- A request that no write names is left as it is.
theorem applyAll_request {t : EvidenceTables} {writes : List EvidenceWrite}
    (apart : ∀ write ∈ writes, EvidenceKey.request messageId ∉ write.needs) :
    (t.applyAll writes).evidenceRequest messageId = t.evidenceRequest messageId := by
  induction writes generalizing t with
  | nil => rfl
  | cons write rest ih =>
    refine (ih fun other member => apart other (List.mem_cons_of_mem _ member)).trans ?_
    have here := apart write List.mem_cons_self
    cases write with
    | request row =>
      have differs : ¬row.messageId = messageId := fun same => here (by simp [EvidenceWrite.needs,EvidenceWrite.inserts,same])
      unfold EvidenceTables.evidenceRequest EvidenceTables.apply KeyedRows.find
      simp [List.find?_append,differs]
    | updatedRequest row =>
      have differs : messageId ≠ row.messageId := fun same => here (by simp [EvidenceWrite.needs,same])
      exact (KeyedRows.find_replace rfl messageId).trans (if_neg differs)
    | _ => rfl

theorem updated_request {t : EvidenceTables} {row : EvidenceRequest} (found : (t.evidenceRequest row.messageId).isSome) :
    (t.apply (.updatedRequest row)).evidenceRequest row.messageId = some row := by
  obtain ⟨old,stored⟩ := Option.isSome_iff_exists.mp found
  refine (KeyedRows.find_replace rfl row.messageId).trans ?_
  rw [if_pos rfl]
  exact congrArg (Option.map fun _ => row) stored

end EngineeringPlatform.Evidence
