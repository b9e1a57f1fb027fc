import EngineeringPlatform.EvidenceInvariant
namespace EngineeringPlatform.Evidence
open Checked EngineeringPlatform.SourceControl Integration KeyLocks SharedWorkers TransitionRuns

section
variable (texts : EvidenceTexts) (s : EvidenceStore) (d : Delivery)

-- The binding that the row of this delivery refers to.
def Bound (workspaceId : Uuid) : Prop :=
  ∃ binding ∈ s.mergeRequests.bindings, (d.validationRow texts workspaceId).references binding = true

-- What a delivery has inserted before it comes to its receipt.
def Tried (writes : List EvidenceWrite) : Prop :=
  writes = [] ∨ ∃ workspaceId, writes = [.validation (d.validationRow texts workspaceId)] ∧ Bound texts s d workspaceId

-- The validation a delivery takes for canonical: the row it has inserted, the one under
-- its own id, or the one with its content.
inductive Chosen : List EvidenceWrite → ExternalValidationRow → Prop where
  | own (workspaceId : Uuid) (bound : Bound texts s d workspaceId) :
    Chosen [.validation (d.validationRow texts workspaceId)] (d.validationRow texts workspaceId)
  | sameId (stored : row ∈ s.tables.validations) (hash : row.referenceHash = d.referenceHash texts)
    (fingerprint : row.requestFingerprint = d.requestFingerprint texts) : Chosen [] row
  | sameContent (workspaceId : Uuid) (bound : Bound texts s d workspaceId) (stored : row ∈ s.tables.validations)
    (content : row.content = (d.envelope.workItemId,d.referenceHash texts)) : Chosen [] row

-- The answer that a receipt of the message records.
inductive Recorded (t : EvidenceTables) : Answer → Prop where
  | accepted (stored : receipt ∈ t.receipts) (message : receipt.messageId = d.messageId)
    (same : d.Matches texts receipt) (outcome : receipt.outcome = .accepted canonicalId)
    (found : t.externalValidationById canonicalId = some row) (read : validationFromRow texts row = .ok validation) :
    Recorded t (.accepted validation)
  | rejected (stored : receipt ∈ t.receipts) (message : receipt.messageId = d.messageId)
    (same : d.Matches texts receipt) (outcome : receipt.outcome = .rejected) : Recorded t .rejected

inductive Committing (writes : List EvidenceWrite) : Answer → Prop where
  | replayed (tried : Tried texts s d writes) (recorded : Recorded texts d s.tables answer) : Committing writes answer
  | accepted (before : List EvidenceWrite) (now : Time)
    (inserted : writes = before ++ [.receipt (d.receiptRow texts (.accepted canonical.id) now)])
    (chosen : Chosen texts s d before canonical) (describes : d.Describes texts canonical)
    (read : validationFromRow texts canonical = .ok validation) : Committing writes (.accepted validation)
  | rejected (before : List EvidenceWrite) (now : Time)
    (inserted : writes = before ++ [.receipt (d.receiptRow texts .rejected now)]) (tried : Tried texts s d before) :
    Committing writes .rejected

def Answerable : Prop := ∃ receipt ∈ s.tables.receipts, receipt.messageId = d.messageId

def DeliveryFacts (writes : List EvidenceWrite) : DeliveryPhase → Prop
  | .receipt | .validationById | .context => writes = []
  | .insertValidation workspaceId => writes = [] ∧ Bound texts s d workspaceId
  | .lostById | .lostByHash => writes = [] ∧ (∃ workspaceId, Bound texts s d workspaceId) ∧
      ∃ row ∈ s.tables.validations, row.content = (d.envelope.workItemId,d.referenceHash texts)
  | .insertReceipt canonical => Chosen texts s d writes canonical
  | .reading canonical => ∃ before now, writes = before ++ [.receipt (d.receiptRow texts (.accepted canonical.id) now)] ∧
      Chosen texts s d before canonical ∧ d.Describes texts canonical
  | .lostReceipt | .lostRejection => Tried texts s d writes ∧ Answerable s d
  | .rejection | .insertRejection => Tried texts s d writes
  | .committing answer => Committing texts s d writes answer

end

variable {texts : EvidenceTexts} {storable : ExternalValidationReference → Bool} {s next : EvidenceStore} {d : Delivery}
  {transaction : Transaction} {writes : List EvidenceWrite} {t : EvidenceTables} {keys : List EvidenceKey}

section
variable (grown : Grows s next)
include grown

theorem Bound.later (bound : Bound texts s d workspaceId) : Bound texts next d workspaceId := by
  obtain ⟨binding,member,references⟩ := bound
  obtain ⟨supersededAt,member'⟩ := grown.bindings binding member
  exact ⟨_,member',references⟩

theorem Tried.later (tried : Tried texts s d writes) : Tried texts next d writes := by
  rcases tried with none | ⟨workspaceId,one,bound⟩
  · exact .inl none
  · exact .inr ⟨workspaceId,one,bound.later grown⟩

theorem Chosen.later (chosen : Chosen texts s d writes row) :
    Chosen texts next d writes row := by
  cases chosen with
  | own workspaceId bound => exact .own workspaceId (bound.later grown)
  | sameId stored hash fingerprint => exact .sameId (grown.validations.subset stored) hash fingerprint
  | sameContent workspaceId bound stored content =>
    exact .sameContent workspaceId (bound.later grown) (grown.validations.subset stored) content

omit grown in
theorem Recorded.later {t' : EvidenceTables} (receipts : t.receipts <+: t'.receipts)
    (validations : t.validations <+: t'.validations) (recorded : Recorded texts d t answer) :
    Recorded texts d t' answer := by
  cases recorded with
  | accepted stored message same outcome found read =>
    exact .accepted (receipts.subset stored) message same outcome (found_earlier validations found) read
  | rejected stored message same outcome => exact .rejected (receipts.subset stored) message same outcome

theorem Committing.later (committing : Committing texts s d writes answer) :
    Committing texts next d writes answer := by
  cases committing with
  | replayed tried recorded => exact .replayed (tried.later grown) (recorded.later grown.receipts grown.validations)
  | accepted before now inserted chosen describes read =>
    exact .accepted before now inserted (chosen.later grown) describes read
  | rejected before now inserted tried => exact .rejected before now inserted (tried.later grown)

theorem DeliveryFacts.later {phase : DeliveryPhase}
    (facts : DeliveryFacts texts s d writes phase) : DeliveryFacts texts next d writes phase := by
  have answerable : Answerable s d → Answerable next d := fun ⟨receipt,stored,message⟩ =>
    ⟨receipt,grown.receipts.subset stored,message⟩
  cases phase with
  | receipt => exact facts
  | validationById => exact facts
  | context => exact facts
  | insertValidation workspaceId => exact ⟨facts.1,facts.2.later grown⟩
  | lostById | lostByHash =>
    obtain ⟨none,⟨workspaceId,bound⟩,row,stored,content⟩ := facts
    exact ⟨none,⟨workspaceId,bound.later grown⟩,row,grown.validations.subset stored,content⟩
  | insertReceipt canonical => exact Chosen.later grown facts
  | reading canonical =>
    obtain ⟨before,now,inserted,chosen,describes⟩ := facts
    exact ⟨before,now,inserted,chosen.later grown,describes⟩
  | lostReceipt | lostRejection => exact ⟨facts.1.later grown,answerable facts.2⟩
  | rejection | insertRejection => exact Tried.later grown facts
  | committing answer => exact Committing.later grown facts

end

theorem Chosen.tried (chosen : Chosen texts s d writes row) : Tried texts s d writes := by
  cases chosen with
  | own workspaceId bound => exact .inr ⟨workspaceId,rfl,bound⟩
  | sameId => exact .inl rfl
  | sameContent => exact .inl rfl

-- The rows of a delivery that has come to its commit.
theorem Tried.validations (tried : Tried texts s d writes) :
    ∀ row ∈ validationsOf writes, ∃ workspaceId, row = d.validationRow texts workspaceId ∧ Bound texts s d workspaceId := by
  intro row member
  rcases tried with rfl | ⟨workspaceId,rfl,bound⟩
  · cases member
  · simp only [validationsOf,List.filterMap_cons,List.filterMap_nil,List.mem_singleton] at member
    exact ⟨workspaceId,member,bound⟩

theorem Tried.others (tried : Tried texts s d writes) :
    receiptsOf writes = [] ∧ evidenceOf writes = [] ∧ itemsOf writes = [] := by
  rcases tried with rfl | ⟨workspaceId,rfl,_⟩ <;> exact ⟨rfl,rfl,rfl⟩

-- What a delivery commits: its validation, if it has inserted one, and its receipt,
-- if it has not found one.
theorem delivery_ready {before : List EvidenceWrite} {receipts : List ExternalValidationReceipt}
    (tried : Tried texts s d before) (written : transaction.writes = before ++ receipts.map .receipt)
    (ready : prepared texts d.envelope = .ok d)
    (valid : ∀ receipt ∈ receipts, ReceiptValid texts (transaction.view s) receipt)
    (answered : ∃ receipt ∈ (transaction.view s).receipts, receipt.messageId = d.messageId ∧
      receipt.requestFingerprint = d.requestFingerprint texts) :
    Ready texts s transaction := by
  have own : receiptsOf (receipts.map .receipt) = receipts ∧ validationsOf (receipts.map .receipt) = [] ∧
      evidenceOf (receipts.map .receipt) = [] ∧ itemsOf (receipts.map .receipt) = [] := by
    unfold receiptsOf validationsOf evidenceOf itemsOf
    simp [List.filterMap_map]
  obtain ⟨noReceipts,noEvidence,noItems⟩ := tried.others
  have requests : (transaction.view s).evidenceRequest = s.tables.evidenceRequest := by
    funext messageId
    refine applyAll_request fun write member needed => ?_
    rw [written] at member
    rcases List.mem_append.mp member with earlier | receipt
    · rcases tried with rfl | ⟨workspaceId,rfl,_⟩
      · cases earlier
      · cases List.mem_singleton.mp earlier
        simp [EvidenceWrite.needs,EvidenceWrite.inserts] at needed
    · obtain ⟨receipt,_,rfl⟩ := List.mem_map.mp receipt
      simp [EvidenceWrite.needs,EvidenceWrite.inserts] at needed
  have validations : validationsOf transaction.writes = validationsOf before := by
    rw [written]
    unfold validationsOf at own ⊢
    rw [List.filterMap_append,own.2.1,List.append_nil]
  have receipts' : receiptsOf transaction.writes = receipts := by
    rw [written]
    unfold receiptsOf at own noReceipts ⊢
    rw [List.filterMap_append,own.1,noReceipts,List.nil_append]
  have evidence : evidenceOf transaction.writes = [] := by
    rw [written]
    unfold evidenceOf at own noEvidence ⊢
    rw [List.filterMap_append,own.2.2.1,noEvidence,List.nil_append]
  have items : itemsOf transaction.writes = [] := by
    rw [written]
    unfold itemsOf at own noItems ⊢
    rw [List.filterMap_append,own.2.2.2,noItems,List.nil_append]
  refine ⟨?_,?_,?_,?_,?_,?_⟩
  · rw [validations]
    intro row member
    obtain ⟨workspaceId,rfl,bound⟩ := tried.validations row member
    exact ⟨⟨d,workspaceId,ready,rfl⟩,bound,answered⟩
  · rw [receipts']
    exact valid
  · rw [items]
    intro row member
    cases member
  · rw [evidence]
    intro header member
    cases member
  · rw [requests]
    exact .refl .refl _
  · rw [requests]
    exact fun messageId row found _ => .inl found

theorem Chosen.stored {more : List EvidenceWrite} (chosen : Chosen texts s d writes row) :
    row ∈ (s.tables.applyAll (writes ++ more)).validations := by
  rw [applyAll_validations]
  cases chosen with
  | own => exact List.mem_append_right _ List.mem_cons_self
  | sameId stored => exact List.mem_append_left _ stored
  | sameContent _ _ stored => exact List.mem_append_left _ stored

theorem Committing.ready (committing : Committing texts s d transaction.writes answer)
    (prepared : prepared texts d.envelope = .ok d) : Ready texts s transaction := by
  have own (before : List EvidenceWrite) (outcome : ReceiptOutcome) (now : Time)
      (inserted : transaction.writes = before ++ [.receipt (d.receiptRow texts outcome now)]) :
      d.receiptRow texts outcome now ∈ (transaction.view s).receipts := by
    rw [Transaction.view,applyAll_receipts,inserted]
    unfold receiptsOf
    simp
  cases committing with
  | replayed tried recorded =>
    have answered : ∃ receipt ∈ s.tables.receipts, receipt.messageId = d.messageId ∧ d.Matches texts receipt := by
      cases recorded with
      | accepted stored message same => exact ⟨_,stored,message,same⟩
      | rejected stored message same => exact ⟨_,stored,message,same⟩
    obtain ⟨receipt,stored,message,same⟩ := answered
    refine @delivery_ready _ _ _ _ transaction.writes [] tried (by simp) prepared (fun _ member => by cases member) ?_
    exact ⟨receipt,receipts_view.subset stored,message,same.1⟩
  | @accepted canonical _ before now inserted chosen describes read =>
    refine @delivery_ready _ _ _ _ before [d.receiptRow texts (.accepted canonical.id) now] chosen.tried inserted prepared ?_ ?_
    · intro receipt member
      cases List.mem_singleton.mp member
      refine ⟨⟨d,prepared,rfl,?_⟩⟩
      rintro canonicalId same
      cases same
      refine ⟨canonical,_,?_,rfl,describes,read⟩
      rw [Transaction.view,inserted]
      exact chosen.stored
    · exact ⟨_,own before _ now inserted,rfl,rfl⟩
  | rejected before now inserted tried =>
    refine @delivery_ready _ _ _ _ before [d.receiptRow texts .rejected now] tried inserted prepared ?_ ?_
    · intro receipt member
      cases List.mem_singleton.mp member
      exact ⟨⟨d,prepared,rfl,fun canonicalId same => by cases same⟩⟩
    · exact ⟨_,own before _ now inserted,rfl,rfl⟩

section
variable {π : Type} {next' : π}

theorem holding_goes {keys' : List EvidenceKey} {writes' : List EvidenceWrite} {goal : π} :
    Reply.holding s transaction keys writes goal = .goes keys' writes' next' ↔
      (∀ key ∈ keys, s.locks.Free transaction.id key) ∧ keys = keys' ∧ writes = writes' ∧ goal = next' := by
  unfold Reply.holding
  split
  · rename_i free
    simp only [Reply.goes.injEq]
    exact ⟨fun same => ⟨free,same⟩,fun both => both.2⟩
  · rename_i taken
    simp only [reduceCtorEq,false_iff]
    exact fun both => taken both.1

theorem holding_raises {goal : π} :
    Reply.holding s transaction keys writes goal ≠ .raises error := by
  unfold Reply.holding
  split <;> simp

theorem checked_goes {α : Type} {result : Except EvidenceError α} {rest : α → Reply π}
    :
    Reply.checked result rest = .goes keys writes next' ↔ ∃ value, result = .ok value ∧ rest value = .goes keys writes next' := by
  cases result <;> simp [Reply.checked]

theorem checked_raises {α : Type} {result : Except EvidenceError α} {rest : α → Reply π} :
    Reply.checked result rest = .raises error ↔
      result = .error error ∨ ∃ value, result = .ok value ∧ rest value = .raises error := by
  cases result <;> simp [Reply.checked]

end

-- A statement that takes no key and writes nothing.
theorem pending_read (pending : Pending s transaction) : Pending (s.take transaction []) (transaction.write []) := by
  refine pending.write (fun _ member => by cases member) List.nodup_nil fun _ member => by cases member

theorem pending_insert (pending : Pending s transaction) {write : EvidenceWrite}
    (needs : write.needs = write.inserts) (distinct : write.inserts.Nodup)
    (fresh : ∀ key ∈ write.inserts, key ∉ (transaction.view s).keys) :
    Pending (s.take transaction write.inserts) (transaction.write [write]) := by
  refine pending.write (fun other member key needed => ?_) ?_ ?_
  · cases List.mem_singleton.mp member
    exact .inl (needs ▸ needed)
  · rw [List.flatMap_cons,List.flatMap_nil,List.append_nil]
    exact distinct
  · intro key member
    rw [List.flatMap_cons,List.flatMap_nil,List.append_nil] at member
    exact fresh key member

theorem Tried.receipt (tried : Tried texts s d writes) (messageId : Uuid) :
    (s.tables.applyAll writes).externalValidationReceipt messageId = s.tables.externalValidationReceipt messageId := by
  unfold EvidenceTables.externalValidationReceipt
  rw [applyAll_receipts,tried.others.1,List.append_nil]

theorem receipt_stored (found : t.externalValidationReceipt messageId = some receipt) :
    receipt ∈ t.receipts ∧ receipt.messageId = messageId := KeyedRows.find_some found

theorem receipt_found (keys : t.keys.Nodup) (stored : receipt ∈ t.receipts)
    (message : receipt.messageId = messageId) : t.externalValidationReceipt messageId = some receipt :=
  message ▸ KeyedRows.find_of_mem (keys_unique keys).receipts stored

-- A canonical validation is found where its receipt is stored.
theorem canonical_found (valid : StoreValid texts s) {receipt : ExternalValidationReceipt}
    (stored : receipt ∈ s.tables.receipts) (outcome : receipt.outcome = .accepted canonicalId)
    (found : (s.tables.applyAll writes).externalValidationById canonicalId = some row) :
    s.tables.externalValidationById canonicalId = some row := by
  obtain ⟨d,_,_,names⟩ := (valid.tables.receipts receipt stored).delivered
  obtain ⟨row',_,member,rfl,_⟩ := names canonicalId outcome
  have own := KeyedRows.find_of_mem (keys_unique valid.tables.keys).validations member
  have same : (s.tables.applyAll writes).externalValidationById row'.id = some row' := by
    refine found_earlier ?_ own
    rw [applyAll_validations]
    exact List.prefix_append _ _
  cases same.symm.trans found
  exact own

theorem replayed_recorded (valid : StoreValid texts s) (tried : Tried texts s d writes)
    (ran : validationFromReceipt texts (s.tables.applyAll writes) d = .ok (some validation)) :
    Recorded texts d s.tables (.accepted validation) := by
  unfold validationFromReceipt at ran
  rw [tried.receipt] at ran
  split at ran
  · cases ran
  · rename_i receipt found
    obtain ⟨same,ran⟩ := require_bind_ok.mp ran
    obtain ⟨stored,message⟩ := receipt_stored found
    split at ran
    · cases ran
    · rename_i canonicalId outcome
      obtain ⟨row,there,ran⟩ := orRaise_bind_ok.mp ran
      obtain ⟨_,ran⟩ := require_bind_ok.mp ran
      cases read : validationFromRow texts row with
      | error error =>
        rw [read] at ran
        cases ran
      | ok validation' =>
        rw [read] at ran
        cases ran
        exact .accepted stored message same outcome (canonical_found valid stored outcome there) read

theorem sameRejection_goes {existing : ExternalValidationReceipt} {next' : DeliveryPhase}
    (ran : d.sameRejection texts existing = .goes keys writes next') :
    d.Matches texts existing ∧ existing.outcome = .rejected ∧ keys = [] ∧ writes = [] ∧ next' = .committing .rejected := by
  unfold Delivery.sameRejection at ran
  split at ran
  · rename_i same
    cases ran
    exact ⟨same.1,same.2,rfl,rfl,rfl⟩
  · cases ran

theorem sameValidation_goes {existing : ExternalValidationRow} {next' : DeliveryPhase}
    (ran : d.sameValidation texts existing = .goes keys writes next') :
    existing.referenceHash = d.referenceHash texts ∧ existing.requestFingerprint = d.requestFingerprint texts ∧
      keys = [] ∧ writes = [] ∧ next' = .insertReceipt existing := by
  unfold Delivery.sameValidation at ran
  split at ran
  · rename_i same
    cases ran
    exact ⟨same.1,same.2,rfl,rfl,rfl⟩
  · cases ran

theorem validateIntegrationContext_ok {context : Option IntegrationContext} {envelope : ExternalValidationRequestEnvelope}
    (ran : validateIntegrationContext context envelope = .ok found) :
    context = some found ∧ found.binding.requirementId = envelope.requirementId ∧
      found.binding.workItemId = envelope.workItemId ∧
      found.binding.id = envelope.integrationMergeRequestBindingId := by
  unfold validateIntegrationContext at ran
  simp only [orRaise_bind_ok,require_bind_ok,pure_ok] at ran
  obtain ⟨context',rfl,⟨requirement,workItem,_,binding⟩,_,_,_,_,_,rfl⟩ := ran
  exact ⟨rfl,requirement,workItem,binding⟩

theorem context_binding {m : MergeRequests} (found : m.integrationEvidenceContext workItemId = some context) :
    context.binding ∈ m.bindings := by
  unfold MergeRequests.integrationEvidenceContext at found
  obtain ⟨binding,there,found⟩ := Option.bind_eq_some_iff.mp found
  obtain ⟨branch,_,found⟩ := Option.bind_eq_some_iff.mp found
  cases found
  exact List.mem_of_find?_eq_some there

-- What a transaction knows once it goes on.
abbrev Goes (texts : EvidenceTexts) (s : EvidenceStore) (d : Delivery) (transaction : Transaction)
    (keys : List EvidenceKey) (writes : List EvidenceWrite) (phase : DeliveryPhase) : Prop :=
  (∀ key ∈ keys, s.locks.Free transaction.id key) ∧ Pending (s.take transaction keys) (transaction.write writes) ∧
    DeliveryFacts texts s d (transaction.write writes).writes phase

theorem goes_read (pending : Pending s transaction) (facts : DeliveryFacts texts s d transaction.writes phase) :
    Goes texts s d transaction [] [] phase := by
  refine ⟨(fun _ member => by cases member),pending_read pending,?_⟩
  change DeliveryFacts texts s d (transaction.writes ++ []) phase
  rw [List.append_nil]
  exact facts

-- The loser of the INSERT of a receipt reads the receipt it has lost to.
theorem receipt_goes {inserted lost : DeliveryPhase} (pending : Pending s transaction)
    (tried : Tried texts s d transaction.writes)
    (ran : d.insertExternalValidationReceipt texts outcome now transaction s inserted lost = .goes keys writes next')
    (answered : Answerable s d → DeliveryFacts texts s d transaction.writes lost)
    (known : DeliveryFacts texts s d (transaction.writes ++ [.receipt (d.receiptRow texts outcome now)]) inserted) :
    Goes texts s d transaction keys writes next' := by
  unfold Delivery.insertExternalValidationReceipt at ran
  rw [show (transaction.view s).externalValidationReceipt d.messageId = s.tables.externalValidationReceipt d.messageId
    from tried.receipt _] at ran
  split at ran
  · rename_i stored found
    cases ran
    exact goes_read pending (answered ⟨stored,receipt_stored found⟩)
  · rename_i absent
    obtain ⟨free,rfl,rfl,rfl⟩ := holding_goes.mp ran
    refine ⟨free,?_,known⟩
    refine @pending_insert _ _ pending (.receipt (d.receiptRow texts outcome now)) rfl (List.nodup_singleton _) ?_
    intro key member
    cases List.mem_singleton.mp member
    exact receipt_key.mp ((tried.receipt _).trans absent)

-- What the delivery comes to know by a statement.
theorem delivery_goes (valid : StoreValid texts s) (pending : Pending s transaction)
    (facts : DeliveryFacts texts s d transaction.writes phase)
    (ran : d.statement texts storable now transaction s phase = .goes keys writes next') :
    Goes texts s d transaction keys writes next' := by
  cases phase with
  | receipt =>
    obtain ⟨replayed,read,ran⟩ := checked_goes.mp ran
    have tried : Tried texts s d transaction.writes := .inl facts
    cases replayed with
    | none =>
      cases ran
      exact goes_read pending facts
    | some validation =>
      cases ran
      exact goes_read pending (.replayed tried (replayed_recorded valid tried read))
  | validationById =>
    dsimp only [Delivery.statement] at ran
    split at ran
    · rename_i existing found
      obtain ⟨hash,fingerprint,rfl,rfl,rfl⟩ := sameValidation_goes ran
      refine goes_read pending ?_
      have facts : transaction.writes = [] := facts
      unfold Transaction.view at found
      rw [facts] at found ⊢
      exact .sameId (KeyedRows.find_some found).1 hash fingerprint
    · cases ran
      exact goes_read pending facts
  | context =>
    obtain ⟨context,read,ran⟩ := checked_goes.mp ran
    obtain ⟨there,requirement,workItem,binding⟩ := validateIntegrationContext_ok read
    cases ran
    refine goes_read pending ⟨facts,context.binding,context_binding there,?_⟩
    unfold ExternalValidationRow.references
    simp [Delivery.validationRow,requirement,workItem,binding]
  | insertValidation workspaceId =>
    obtain ⟨empty,bound⟩ := facts
    dsimp only [Delivery.statement,Delivery.insertExternalValidation] at ran
    split at ran
    · split at ran
      · rename_i row found
        cases ran
        refine goes_read pending ⟨empty,⟨workspaceId,bound⟩,row,?_⟩
        unfold Transaction.view at found
        rw [empty] at found
        exact KeyedRows.find_some found
      · rename_i content
        split at ran
        · rename_i id
          split at ran
          · obtain ⟨free,rfl,rfl,rfl⟩ := holding_goes.mp ran
            refine ⟨free,?_,?_⟩
            · refine @pending_insert _ _ pending (.validation (d.validationRow texts workspaceId)) rfl ?_ ?_
              · simp [EvidenceWrite.inserts]
              · intro key member
                rcases List.mem_cons.mp member with rfl | member
                · exact content_key.mp content
                · cases List.mem_singleton.mp member
                  exact validation_key.mp id
            · change Chosen texts s d (transaction.writes ++ _) _
              rw [empty]
              exact .own workspaceId bound
          · cases ran
        · split at ran <;> cases ran
    · cases ran
  | lostById =>
    obtain ⟨empty,bound,content⟩ := facts
    dsimp only [Delivery.statement] at ran
    split at ran
    · rename_i existing found
      obtain ⟨hash,fingerprint,rfl,rfl,rfl⟩ := sameValidation_goes ran
      refine goes_read pending ?_
      unfold Transaction.view at found
      rw [empty] at found ⊢
      exact .sameId (KeyedRows.find_some found).1 hash fingerprint
    · cases ran
      exact goes_read pending ⟨empty,bound,content⟩
  | lostByHash =>
    obtain ⟨empty,⟨workspaceId,bound⟩,_⟩ := facts
    dsimp only [Delivery.statement] at ran
    split at ran
    · rename_i existing found
      cases ran
      refine goes_read pending ?_
      unfold Transaction.view at found
      rw [empty] at found ⊢
      obtain ⟨stored,content⟩ := KeyedRows.find_some found
      exact .sameContent workspaceId bound stored content
    · cases ran
  | insertReceipt canonical =>
    have chosen : Chosen texts s d transaction.writes canonical := facts
    dsimp only [Delivery.statement] at ran
    split at ran
    · rename_i describes
      exact receipt_goes pending chosen.tried ran (fun answered => ⟨chosen.tried,answered⟩)
        ⟨transaction.writes,now,rfl,chosen,describes⟩
    · cases ran
  | reading canonical =>
    obtain ⟨before,now,inserted,chosen,describes⟩ := facts
    obtain ⟨validation,read,ran⟩ := checked_goes.mp ran
    cases ran
    exact goes_read pending (.accepted before now inserted chosen describes read)
  | lostReceipt =>
    obtain ⟨tried,_⟩ := facts
    obtain ⟨replayed,read,ran⟩ := checked_goes.mp ran
    cases replayed with
    | none => cases ran
    | some validation =>
      cases ran
      exact goes_read pending (.replayed tried (replayed_recorded valid tried read))
  | rejection =>
    have tried : Tried texts s d transaction.writes := facts
    dsimp only [Delivery.statement] at ran
    split at ran
    · rename_i existing found
      obtain ⟨same,outcome,rfl,rfl,rfl⟩ := sameRejection_goes ran
      obtain ⟨stored,message⟩ := receipt_stored ((tried.receipt _).symm.trans found)
      exact goes_read pending (.replayed tried (.rejected stored message same outcome))
    · cases ran
      exact goes_read pending tried
  | insertRejection =>
    have tried : Tried texts s d transaction.writes := facts
    exact receipt_goes pending tried ran (fun answered => ⟨tried,answered⟩) (.rejected transaction.writes now rfl tried)
  | lostRejection =>
    obtain ⟨tried,_⟩ := facts
    dsimp only [Delivery.statement] at ran
    split at ran
    · rename_i existing found
      obtain ⟨same,outcome,rfl,rfl,rfl⟩ := sameRejection_goes ran
      obtain ⟨stored,message⟩ := receipt_stored ((tried.receipt _).symm.trans found)
      exact goes_read pending (.replayed tried (.rejected stored message same outcome))
    · cases ran
  | committing answer =>
    cases ran
    exact goes_read pending facts

-- Checks that raise one exception only.
def RaisesOnly {α : Type} (wanted : EvidenceError) (result : Except EvidenceError α) : Prop :=
  ∀ error, result = .error error → error = wanted

section
variable {α β : Type} {wanted : EvidenceError}

theorem raisesOnly_ok {value : α} : RaisesOnly wanted (.ok value) := raises_pure

theorem raisesOnly_require {condition : Prop} [Decidable condition] :
    RaisesOnly wanted (require condition wanted : Except EvidenceError PUnit) :=
  fun _ raised => (require_error.mp raised).2.symm

theorem raisesOnly_orRaise {value : Option α} : RaisesOnly wanted (orRaise value wanted) := raises_orRaise rfl

theorem RaisesOnly.bind {first : Except EvidenceError α} {rest : α → Except EvidenceError β} (one : RaisesOnly wanted first)
    (others : ∀ value, RaisesOnly wanted (rest value)) : RaisesOnly wanted (first >>= rest) := Raises.bind one others

theorem raisesOnly_mapM {check : α → Except EvidenceError β} (one : ∀ value, RaisesOnly wanted (check value))
    (values : List α) : RaisesOnly wanted (values.mapM check) := raises_mapM one values

end

theorem requiredText_invalid (value : String) : RaisesOnly .invalid (requiredText value) :=
  raisesOnly_require.bind fun _ => raisesOnly_ok

theorem artifact_invalid (item : ArtifactReference) : RaisesOnly .invalid item.modelValidate :=
  (requiredText_invalid _).bind fun _ => (requiredText_invalid _).bind fun _ =>
    raisesOnly_require.bind fun _ => raisesOnly_ok

theorem validation_invalid (given : ExternalValidationReference) :
    RaisesOnly .invalid (ExternalValidationReference.modelValidate texts given) :=
  raisesOnly_require.bind fun _ => raisesOnly_orRaise.bind fun _ => (requiredText_invalid _).bind fun _ =>
    (requiredText_invalid _).bind fun _ => raisesOnly_require.bind fun _ => raisesOnly_ok

theorem validationFromRow_invalid (row : ExternalValidationRow) : RaisesOnly .invalid (validationFromRow texts row) :=
  (raisesOnly_mapM artifact_invalid _).bind fun _ => validation_invalid _

theorem context_stale (context : Option IntegrationContext) (envelope : ExternalValidationRequestEnvelope) :
    RaisesOnly .stale (validateIntegrationContext context envelope) :=
  raisesOnly_orRaise.bind fun _ => raisesOnly_require.bind fun _ => raisesOnly_orRaise.bind fun _ =>
    raisesOnly_require.bind fun _ => raisesOnly_require.bind fun _ => raisesOnly_require.bind fun _ => raisesOnly_ok

-- EvidenceStale leaves accept_external_validation before a receipt is inserted.
theorem delivery_stale (facts : DeliveryFacts texts s d transaction.writes phase) (accepting : phase.accepting = true)
    (ran : d.statement texts storable now transaction s phase = .raises .stale) : Tried texts s d transaction.writes := by
  cases phase with
  | receipt => exact .inl facts
  | validationById => exact .inl facts
  | context => exact .inl facts
  | insertValidation => exact .inl facts.1
  | lostById | lostByHash => exact .inl facts.1
  | insertReceipt canonical => exact Chosen.tried facts
  | reading canonical =>
    rcases checked_raises.mp ran with raised | ⟨_,_,ran⟩
    · cases validationFromRow_invalid canonical _ raised
    · cases ran
  | lostReceipt => exact facts.1
  | rejection | insertRejection | lostRejection | committing => cases accepting

end EngineeringPlatform.Evidence
