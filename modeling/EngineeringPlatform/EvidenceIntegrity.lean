import EngineeringPlatform.EvidenceIdempotence
namespace EngineeringPlatform.Evidence
open Checked EngineeringPlatform.SourceControl Integration KeyLocks SharedWorkers TransitionRuns

section
variable (texts : EvidenceTexts) (s : EvidenceStore)

-- While the evidence was generated, the work item's merge request was proven merged
-- with what the item records.
def ItemEvidenced (header : EvidenceHeader) (item : IntegrationBaselineEvidenceItem) : Prop :=
  ∃ span ∈ s.spans, span.evidenceId = header.id ∧ ∃ moment m, span.began ≤ moment ∧ moment ≤ span.ended ∧
    s.moments[moment]? = some m ∧
    Proves m header.subject.requirementId item.workItemId item.integrationMergeRequestBindingId
      item.integrationMergeRequestIid item.repositoryId item.taskBranch item.taskCommitSha item.integrationMergeCommitSha

structure EvidenceIntegrity : Prop where
  one : ∀ first ∈ s.tables.evidence, ∀ second ∈ s.tables.evidence, first.snapshot = second.snapshot → first = second
  processed : ∀ request ∈ s.tables.requests, request.state = .processed →
    ∃ header ∈ s.tables.evidence, header.snapshot = request.snapshot
  reads : ∀ header ∈ s.tables.evidence, ∃ evidence, evidenceFromRows texts s.tables s.mergeRequests header = .ok evidence ∧
    EvidenceRead texts s.tables header evidence ∧
    canonicalIntegrationBaselineHash texts header.id header.subject evidence.items = .ok header.evidenceHash ∧
    ∀ item ∈ evidence.items, ItemEvidenced s header item

end

-- All of the evidence but its currentness, which is of the moment it is read.
structure SameEvidence (one two : IntegrationBaselineEvidence) : Prop where
  id : one.id = two.id
  subject : one.subject = two.subject
  evidenceHash : one.evidenceHash = two.evidenceHash
  items : one.items = two.items
  generated : one.generatedBy = two.generatedBy ∧ one.generatedAt = two.generatedAt

section
variable {texts : EvidenceTexts} {storable : ExternalValidationReference → Bool} {s next : EvidenceStore} {g : Generation}
  {transaction : Transaction}

theorem itemFromRow_ok {row : EvidenceItemRow} {stored : ExternalValidationRow} (ran : itemFromRow texts row stored = .ok item) :
    item.workItemId = row.workItemId ∧ item.integrationMergeRequestBindingId = row.integrationMergeRequestBindingId ∧
      item.integrationMergeRequestIid = row.integrationMergeRequestIid ∧ item.repositoryId = row.repositoryId ∧
      item.taskBranch = row.taskBranch ∧ item.taskCommitSha = row.taskCommitSha ∧
      item.integrationMergeCommitSha = row.integrationMergeCommitSha := by
  unfold itemFromRow at ran
  obtain ⟨artifacts,_,ran⟩ := bind_ok.mp ran
  obtain ⟨validation,_,ran⟩ := bind_ok.mp ran
  unfold IntegrationBaselineEvidenceItem.modelValidate at ran
  obtain ⟨_,ran⟩ := require_bind_ok.mp ran
  obtain ⟨_,ran⟩ := require_bind_ok.mp ran
  obtain ⟨_,ran⟩ := require_bind_ok.mp ran
  cases pure_ok.mp ran
  exact ⟨rfl,rfl,rfl,rfl,rfl,rfl,rfl⟩

theorem mem_integrationBaselineEvidenceItems {t : EvidenceTables} {evidenceId : Uuid} {pair : EvidenceItemRow × ExternalValidationRow}
    (member : pair ∈ t.integrationBaselineEvidenceItems evidenceId) : pair.1 ∈ t.items ∧ pair.1.evidenceId = evidenceId := by
  unfold EvidenceTables.integrationBaselineEvidenceItems at member
  obtain ⟨row,there,joined⟩ := List.mem_filterMap.mp ((List.mergeSort_perm _ _).mem_iff.mp member)
  obtain ⟨validation,_,rfl⟩ := Option.map_eq_some_iff.mp joined
  exact ⟨List.mem_of_mem_filter there,of_decide_eq_true (List.mem_filter.mp there).2⟩

theorem StoreValid.items_evidenced (valid : StoreValid texts s) (stored : header ∈ s.tables.evidence)
    (read : EvidenceRead texts s.tables header evidence) : ∀ item ∈ evidence.items, ItemEvidenced s header item := by
  intro item member
  obtain ⟨pair,joined,ran⟩ := mapM_ok read.items item member
  obtain ⟨row,same⟩ := mem_integrationBaselineEvidenceItems joined
  obtain ⟨span,there,of,moment,m,began,ended,at',proves⟩ := valid.proven pair.1 row
  obtain ⟨header',stored',id,requirement⟩ := (valid.tables.items pair.1 row).header
  have own : header' = header :=
    List.inj_on_of_nodup_map (keys_unique valid.tables.keys).evidence stored' stored (id.trans same)
  obtain ⟨workItem,binding,iid,repository,branch,head,merge⟩ := itemFromRow_ok ran
  refine ⟨span,there,of.trans same,moment,m,began,ended,at',?_⟩
  rw [workItem,binding,iid,repository,branch,head,merge,←own,requirement]
  exact proves

theorem StoreValid.integrity (valid : StoreValid texts s) : EvidenceIntegrity texts s := by
  refine ⟨fun first one second two same => ?_,fun request member done => ?_,fun header stored => ?_⟩
  · exact List.inj_on_of_nodup_map (keys_unique valid.tables.keys).snapshots one two same
  · exact valid.tables.processed request.messageId request
      (KeyedRows.find_of_mem (keys_unique valid.tables.keys).requests member) done
  · obtain ⟨evidence,ran⟩ := (valid.tables.readable header stored).read s.mergeRequests
    obtain ⟨read,hashed⟩ := evidenceFromRows_read ran
    rw [read.id,read.subject,read.evidenceHash] at hashed
    exact ⟨evidence,ran,read,hashed,valid.items_evidenced stored read⟩

-- What has been read of evidence is read of it ever after.
theorem EvidenceRead.grown (valid : StoreValid texts s) (grown : Grows s next) (stored : header ∈ s.tables.evidence)
    (read : EvidenceRead texts s.tables header evidence) : EvidenceRead texts next.tables header evidence :=
  read.later (items_kept (grown.items header stored) grown.validations fun row member =>
    (valid.tables.items row (List.mem_of_mem_filter member)).validation)

theorem EvidenceRead.same {t : EvidenceTables} (one : EvidenceRead texts t header first)
    (two : EvidenceRead texts t header second) : SameEvidence first second := by
  refine ⟨one.id.trans two.id.symm,one.subject.trans two.subject.symm,one.evidenceHash.trans two.evidenceHash.symm,?_,
    one.generated.1.trans two.generated.1.symm,one.generated.2.trans two.generated.2.symm⟩
  exact Except.ok.inj (one.items.symm.trans two.items)

-- The evidence a generation answers is that of its request's snapshot.
structure Generates (texts : EvidenceTexts) (t : EvidenceTables) (g : Generation) (evidence : IntegrationBaselineEvidence) :
    Prop where
  generates : ∃ request header, t.evidenceRequest g.messageId = some request ∧ header ∈ t.evidence ∧
    header.snapshot = request.snapshot ∧ EvidenceRead texts t header evidence

theorem Evidenced.snapshot {before : List EvidenceWrite} (evidenced : Evidenced texts s began pair header before) :
    header.snapshot = pair.row.snapshot := by
  cases evidenced with
  | found stored snapshot => exact snapshot
  | generated items subject proven =>
    unfold EvidenceHeader.snapshot EvidenceRequest.snapshot
    rw [subject]

theorem Evidenced.inserted {before : List EvidenceWrite} (evidenced : Evidenced texts s began pair header before)
    (written : transaction.writes = before ++ [.updatedRequest last]) : header ∈ (transaction.view s).evidence := by
  cases evidenced with
  | found stored snapshot => exact evidence_view.subset stored
  | generated items subject proven =>
    unfold Transaction.view
    rw [applyAll_evidence,written,generated_evidence rfl]
    exact List.mem_append_right _ List.mem_cons_self

theorem GenerationDone.generates (done : GenerationDone texts s g transaction (.evidence evidence)) :
    Generates texts (transaction.view s) g evidence := by
  cases done with
  | @replayed request header _ none locked stored snapshot read =>
    refine ⟨request,header,?_,?_,snapshot,?_⟩ <;> unfold Transaction.view <;> rw [none]
    · exact locked
    · exact stored
    · exact read
  | @stored pair header _ claimed before now written evidenced readable read =>
    refine ⟨pair.row.complete now,header,?_,evidenced.inserted written,evidenced.snapshot,read⟩
    have last : transaction.view s = (s.tables.applyAll before).apply (.updatedRequest (pair.row.complete now)) := by
      unfold Transaction.view EvidenceTables.applyAll
      rw [written,List.foldl_append]
      rfl
    rw [last,show g.messageId = (pair.row.complete now).messageId from claimed.messageId.symm]
    refine updated_request ?_
    rw [show (pair.row.complete now).messageId = g.messageId from claimed.messageId,evidenced.request claimed]
    rfl

theorem generated_generates {worker : EvidenceWorker} (knows : Knows texts s worker)
    (ran : evidenceProgress texts storable s worker event = some done)
    (answered : done.answered = some (.generated g (.evidence evidence))) : Generates texts done.store.tables g evidence := by
  generalize same : done.store = store
  have came := answering ran answered
  rw [same] at came
  cases came with
  | generated live => exact GenerationDone.generates (knows.facts _ rfl live).2

theorem answers_generates {s next : EvidenceSystem} (valid : (evidenceContract texts storable).Valid s)
    (step : Enabled (evidenceProgram texts storable).advance s label next)
    (answered : answers texts storable s label = some (.generated g (.evidence evidence))) :
    ∃ request header, next.store.tables.evidenceRequest g.messageId = some request ∧ header ∈ next.store.tables.evidence ∧
      header.snapshot = request.snapshot ∧ EvidenceRead texts next.store.tables header evidence := by
  cases label with
  | act worker event =>
    obtain ⟨done,ran,answered⟩ := Option.bind_eq_some_iff.mp answered
    obtain ⟨result,acted,rfl⟩ := Option.map_eq_some_iff.mp step
    obtain ⟨done',ran',rfl⟩ := Option.map_eq_some_iff.mp acted
    cases ran.symm.trans ran'
    exact (generated_generates (valid.holds worker) ran answered).generates
  | transact => cases answered
  | crash => cases answered

-- Any two answers to requests of one snapshot, at any two moments of a run.
theorem evidence_integrity
    (first : Runs (Enabled (evidenceProgram texts storable).advance) evidenceInitial labels one)
    (step : Enabled (evidenceProgram texts storable).advance one label two)
    (later : Runs (Enabled (evidenceProgram texts storable).advance) two rest three)
    (last : Enabled (evidenceProgram texts storable).advance three label' four) :
    EvidenceIntegrity texts two.store ∧
    (∀ header ∈ two.store.tables.evidence, header ∈ four.store.tables.evidence ∧
      ∀ earlier now, evidenceFromRows texts two.store.tables two.store.mergeRequests header = .ok earlier →
        evidenceFromRows texts four.store.tables four.store.mergeRequests header = .ok now → SameEvidence earlier now) ∧
    ∀ g g' evidence evidence' request request',
      answers texts storable one label = some (.generated g (.evidence evidence)) →
      answers texts storable three label' = some (.generated g' (.evidence evidence')) →
      four.store.tables.evidenceRequest g.messageId = some request →
      four.store.tables.evidenceRequest g'.messageId = some request' →
      request.snapshot = request'.snapshot → SameEvidence evidence evidence' := by
  let contract := evidenceContract texts storable
  have validOne : contract.Valid one := contract.runs_valid first (contract.initial_valid initial_valid)
  have validTwo : contract.Valid two := contract.preserved _ _ _ validOne step
  have validThree : contract.Valid three := contract.runs_valid later validTwo
  have validFour : contract.Valid four := contract.preserved _ _ _ validThree last
  have grown : Grows two.store four.store := contract.runs_rely Grows.refl (fun _ _ _ => Grows.trans) (later.snoc last) validTwo
  refine ⟨validTwo.store.integrity,fun header stored => ⟨grown.evidence.subset stored,fun earlier now early late => ?_⟩,?_⟩
  · exact ((evidenceFromRows_read early).1.grown validTwo.store grown stored).same (evidenceFromRows_read late).1
  · intro g g' evidence evidence' request request' answered answered' found found' same
    obtain ⟨own,header,locked,stored,snapshot,read⟩ := answers_generates validOne step answered
    obtain ⟨own',header',locked',stored',snapshot',read'⟩ := answers_generates validThree last answered'
    obtain ⟨row,locked,kept⟩ := grown.requests _ _ locked
    cases found.symm.trans locked
    cases found'.symm.trans locked'
    have one : header = header' := by
      refine List.inj_on_of_nodup_map (keys_unique validFour.store.tables.keys).snapshots
        (grown.evidence.subset stored) stored' ?_
      rw [snapshot,snapshot',←same]
      unfold EvidenceRequest.snapshot
      rw [kept.subject]
    subst one
    exact (read.grown validTwo.store grown stored).same read'

end

def sampleTexts : EvidenceTexts := ⟨fun _ => sampleHash,some,id,id⟩

def sampleRequest (messageId : Uuid) : IntegrationBaselineRequestEnvelope where
  messageId := messageId
  payloadHash := sampleHash
  deliverySnapshotId := 80
  deliverySnapshotHash := sampleHash
  requirementId := 1
  requirementVersion := 2
  requiredWorkItemSetVersion := 1
  requiredWorkItemSetHash := sampleHash
  workItemIds := [10]
  requestedBy := "owner"
  attempts := 1

def statements (count : Nat) (now : Time) (evidenceId : Uuid) : List EvidenceLabel :=
  List.replicate count (.act 0 (.statement ⟨now,evidenceId,none⟩))

-- A validation is accepted, two requests for one snapshot are stored, and evidence is
-- generated for the first of them.
def sampleGeneration : List EvidenceLabel :=
  [.transact (.mergeRequests sampleMergeRequests),.act 0 (.deliver sampleValidation)] ++ statements 7 140 0 ++
    [.act 0 (.request (sampleRequest 91))] ++ statements 3 150 0 ++ [.act 0 (.request (sampleRequest 92))] ++
    statements 3 150 0 ++ [.act 0 (.generate ⟨91,"relay",true⟩)] ++ statements 11 160 95

abbrev sampleProgram := evidenceProgram sampleTexts fun _ => true

theorem sample_generates : (execute sampleProgram.advance evidenceInitial (sampleGeneration ++ statements 1 160 95)).any
    (fun s => s.store.tables.evidence.length = 1 ∧ s.store.tables.items.length = 1) = true := by
  decide +kernel

theorem evidence_integrity_once : ∃ next : EvidenceSystem, next.store.tables.evidence.length = 1 ∧
    next.store.tables.items.length = 1 ∧ EvidenceIntegrity sampleTexts next.store := by
  obtain ⟨next,ran,stored⟩ := (Option.any_eq_true _ _).mp sample_generates
  obtain ⟨middle,first,rest⟩ := (execute_exact.mp ran).split
  cases rest with
  | cons taken done =>
    cases done
    have integrity := (evidence_integrity first taken .nil (show Enabled sampleProgram.advance next (.crash 0) _ from rfl)).1
    simp only [decide_eq_true_eq] at stored
    exact ⟨next,stored.1,stored.2,integrity⟩

end EngineeringPlatform.Evidence
