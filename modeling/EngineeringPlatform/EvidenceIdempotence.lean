import EngineeringPlatform.EvidenceRuns
import EngineeringPlatform.CollisionFree
import Mathlib.Tactic.DeriveCountable
namespace EngineeringPlatform.Evidence
open Checked EngineeringPlatform.SourceControl Integration KeyLocks SharedWorkers TransitionRuns

section
variable (texts : EvidenceTexts) (storable : ExternalValidationReference → Bool)

-- Once a message has a receipt: content that does not validate is refused before the
-- receipt is read; the INSERT of the validation must not come to a row of the
-- message's id that the conflict clause does not name; and the rejection of a
-- delivery that found the merge request unproven must not come to an acceptance.
def idempotent (s : EvidenceStore) : EvidenceWorker → EvidenceEvent → Prop
  | .idle,.deliver envelope => (s.tables.externalValidationReceipt envelope.messageId).isSome →
      (prepared texts envelope).isOk
  | .delivering d _ (.insertValidation _),_ => (s.tables.externalValidationReceipt d.messageId).isSome →
      storable d.validation ∧
        ((s.tables.externalValidationByHash d.envelope.workItemId (d.referenceHash texts)).isSome ∨
          s.tables.externalValidationById d.messageId = none)
  | .delivering d _ .rejection,_ | .delivering d _ .lostRejection,_ =>
      ∀ receipt ∈ s.tables.externalValidationReceipt d.messageId, d.Matches texts receipt → receipt.outcome = .rejected
  | _,_ => True

instance (s : EvidenceStore) (worker : EvidenceWorker) (event : EvidenceEvent) :
    Decidable (idempotent texts storable s worker event) := by
  unfold idempotent
  split <;> infer_instance

def idempotentProgram : Program EvidenceStore EvidenceWorker EvidenceChange EvidenceEvent :=
  (evidenceProgram texts storable).restrict (fun _ _ => True) (idempotent texts storable)

end

variable {other : Delivery} {t : EvidenceTables}

section
variable {texts : EvidenceTexts} {storable : ExternalValidationReference → Bool} {s next : EvidenceStore}
  {transaction : Transaction} {d : Delivery}

-- Without collisions the fingerprint of a message is its content.
theorem same_content (hashes : Function.Injective texts.canonicalHash)
    (ready : prepared texts d.envelope = .ok d) (ready' : prepared texts other.envelope = .ok other)
    (same : d.requestFingerprint texts = other.requestFingerprint texts) :
    d.envelope.content = other.envelope.content ∧ d.validation = other.validation := by
  have content : d.envelope.content = other.envelope.content := CanonicalPayload.request.inj (hashes same)
  have given : d.envelope.validation = other.envelope.validation :=
    (congrArg ExternalValidationRequestEnvelope.validation content :)
  have one := (prepared_ok ready).2
  have two := (prepared_ok ready').2
  rw [given] at one
  exact ⟨content,Except.ok.inj (one.symm.trans two)⟩

theorem matches_content (hashes : Function.Injective texts.canonicalHash)
    (ready : prepared texts d.envelope = .ok d) (ready' : prepared texts other.envelope = .ok other)
    (same : receipt = other.receiptRow texts outcome now) :
    d.Matches texts receipt ↔ d.envelope.content = other.envelope.content := by
  subst same
  constructor
  · rintro ⟨fingerprint,_,_⟩
    exact (same_content hashes ready ready' fingerprint.symm).1
  · intro content
    refine ⟨?_,(congrArg ExternalValidationRequestEnvelope.requirementId content).symm,
      (congrArg ExternalValidationRequestEnvelope.workItemId content).symm⟩
    exact congrArg (fun envelope => texts.canonicalHash (.request envelope)) content.symm

theorem describes_same {row : ExternalValidationRow}
    (content : d.envelope.content = other.envelope.content) (validation : d.validation = other.validation) :
    d.Describes texts row ↔ other.Describes texts row := by
  unfold Delivery.Describes Delivery.referenceHash
  have requirement : d.envelope.requirementId = other.envelope.requirementId :=
    (congrArg ExternalValidationRequestEnvelope.requirementId content :)
  have workItem : d.envelope.workItemId = other.envelope.workItemId :=
    (congrArg ExternalValidationRequestEnvelope.workItemId content :)
  rw [validation,requirement,workItem]

-- What the receipt of a message answers to a delivery of it.
theorem receipt_answers (hashes : Function.Injective texts.canonicalHash) (valid : StoreValid texts s)
    (ready : prepared texts d.envelope = .ok d) {writes : List EvidenceWrite} (tried : Tried texts s d writes)
    (unique : KeyedRows.Unique ExternalValidationRow.id (s.tables.applyAll writes).validations)
    (found : s.tables.externalValidationReceipt d.messageId = some receipt) (raised :
      validationFromReceipt texts (s.tables.applyAll writes) d = .error error) :
    error = .messageConflict ∧ ¬d.Matches texts receipt ∨ error = .stale ∧ d.Matches texts receipt ∧
      receipt.outcome = .rejected := by
  unfold validationFromReceipt at raised
  rw [tried.receipt,found] at raised
  dsimp only at raised
  by_cases same : d.Matches texts receipt
  · rw [require,if_pos same] at raised
    simp only [bind,Except.bind] at raised
    obtain ⟨other,ready',row,names⟩ := (valid.tables.receipts receipt (receipt_stored found).1).delivered
    cases outcome : receipt.outcome with
    | rejected =>
      rw [outcome] at raised
      cases raised
      exact .inr ⟨rfl,same,rfl⟩
    | accepted canonicalId =>
      rw [outcome] at raised
      obtain ⟨canonical,validation,member,id,describes,read⟩ := names canonicalId outcome
      have there : (s.tables.applyAll writes).externalValidationById canonicalId = some canonical := by
        rw [←id]
        refine KeyedRows.find_of_mem unique ?_
        rw [applyAll_validations]
        exact List.mem_append_left _ member
      have content := (matches_content hashes ready ready' row).mp same
      have fingerprint : d.requestFingerprint texts = other.requestFingerprint texts :=
        congrArg (fun envelope => texts.canonicalHash (.request envelope)) content
      have describes' := (describes_same content (same_content hashes ready ready' fingerprint).2).mpr describes
      simp only [there,orRaise,require,if_pos describes',read,Except.map] at raised
      cases raised
  · rw [require,if_neg same] at raised
    cases raised
    exact .inl ⟨rfl,same⟩

-- The validation under the message's own id is that of the message's receipt.
theorem own_validation (hashes : Function.Injective texts.canonicalHash) (valid : StoreValid texts s)
    (ready : prepared texts d.envelope = .ok d) (found : s.tables.externalValidationReceipt d.messageId = some receipt)
    (same : d.Matches texts receipt) (stored : row ∈ s.tables.validations) (id : row.id = d.messageId) :
    row.requestFingerprint = d.requestFingerprint texts ∧ d.Describes texts row := by
  have there := valid.tables.validations row stored
  obtain ⟨receipt',stored',message,fingerprint⟩ := there.answered
  have one : receipt' = receipt := by
    have other := receipt_found valid.tables.keys stored' (message.trans id)
    exact Option.some.inj (other.symm.trans found)
  subst one
  obtain ⟨other,workspaceId,ready',rfl⟩ := there.written
  have equal : d.requestFingerprint texts = other.requestFingerprint texts := same.1.symm.trans fingerprint
  obtain ⟨content,validation⟩ := same_content hashes ready ready' equal
  exact ⟨equal.symm,(describes_same content validation).mpr ⟨rfl,rfl,rfl⟩⟩

-- A validation of the same content in another message's name is of the requirement.
theorem content_describes (hashes : Function.Injective texts.canonicalHash) (valid : StoreValid texts s)
    (ready : prepared texts d.envelope = .ok d) (bound : Bound texts s d workspaceId) (stored : row ∈ s.tables.validations)
    (content : row.content = (d.envelope.workItemId,d.referenceHash texts)) : d.Describes texts row := by
  have there := valid.tables.validations row stored
  obtain ⟨binding,member,references⟩ := there.bound
  obtain ⟨binding',member',references'⟩ := bound
  obtain ⟨other,_,ready',rfl⟩ := there.written
  obtain ⟨workItem,hash⟩ := Prod.mk.inj content
  refine ⟨hash,?_,workItem⟩
  have payload := hashes hash
  simp only [CanonicalPayload.validation.injEq] at payload
  have named : other.validation.integrationMergeRequestBindingId = d.validation.integrationMergeRequestBindingId :=
    payload.2.2.1
  unfold ExternalValidationRow.references at references references'
  simp only [Bool.decide_and,Bool.and_eq_true,decide_eq_true_eq] at references references'
  have given (one : Delivery) (ok : prepared texts one.envelope = .ok one) :
      one.validation.integrationMergeRequestBindingId = one.envelope.integrationMergeRequestBindingId := by
    have read := (prepared_ok ok).2
    unfold ExternalValidationReference.modelValidate at read
    obtain ⟨_,read⟩ := require_bind_ok.mp read
    obtain ⟨_,_,read⟩ := orRaise_bind_ok.mp read
    obtain ⟨_,_,read⟩ := bind_ok.mp read
    obtain ⟨_,_,read⟩ := bind_ok.mp read
    obtain ⟨_,read⟩ := require_bind_ok.mp read
    rw [←pure_ok.mp read]
    rfl
  have same : binding = binding' := by
    refine List.inj_on_of_nodup_map valid.bindings member member' (references.1.trans (Eq.trans ?_ references'.1.symm))
    exact (given other ready').symm.trans (named.trans (given d ready))
  rw [←same] at references'
  exact references.2.2.1.symm.trans references'.2.2.1

theorem Chosen.describes (hashes : Function.Injective texts.canonicalHash) (valid : StoreValid texts s)
    (ready : prepared texts d.envelope = .ok d) {writes : List EvidenceWrite} (chosen : Chosen texts s d writes row) :
    d.Describes texts row := by
  cases chosen with
  | own workspaceId bound => exact ⟨rfl,rfl,rfl⟩
  | sameId stored hash fingerprint =>
    obtain ⟨other,workspaceId,ready',rfl⟩ := (valid.tables.validations row stored).written
    obtain ⟨content,validation⟩ := same_content hashes ready ready' fingerprint.symm
    exact (describes_same content validation).mpr ⟨rfl,rfl,rfl⟩
  | sameContent workspaceId bound stored content => exact content_describes hashes valid ready bound stored content

theorem sameValidation_raises {existing : ExternalValidationRow} (ran : d.sameValidation texts existing = .raises error) :
    error = .messageConflict ∧
      ¬(existing.referenceHash = d.referenceHash texts ∧ existing.requestFingerprint = d.requestFingerprint texts) := by
  unfold Delivery.sameValidation at ran
  split at ran
  · cases ran
  · rename_i differs
    cases ran
    exact ⟨rfl,differs⟩

theorem sameRejection_raises {existing : ExternalValidationReceipt} (ran : d.sameRejection texts existing = .raises error) :
    error = .messageConflict ∧ ¬(d.Matches texts existing ∧ existing.outcome = .rejected) := by
  unfold Delivery.sameRejection at ran
  split at ran
  · cases ran
  · rename_i differs
    cases ran
    exact ⟨rfl,differs⟩

theorem insertReceipt_raises {inserted lost : DeliveryPhase} :
    d.insertExternalValidationReceipt texts outcome now transaction s inserted lost ≠ .raises error := by
  unfold Delivery.insertExternalValidationReceipt
  split
  · simp
  · exact holding_raises

-- The receipt of a message is there: an exception is a conflict of contents.
theorem delivery_raises (hashes : Function.Injective texts.canonicalHash) (valid : StoreValid texts s)
    (pending : Pending s transaction) (ready : prepared texts d.envelope = .ok d)
    (facts : DeliveryFacts texts s d transaction.writes phase)
    (allowed : idempotent texts storable s (.delivering d transaction phase) (.statement input))
    (found : s.tables.externalValidationReceipt d.messageId = some receipt)
    (ran : d.statement texts storable now transaction s phase = .raises error)
    (final : ¬(error = .stale ∧ phase.accepting = true)) : error = .messageConflict ∧ ¬d.Matches texts receipt := by
  have unique : KeyedRows.Unique ExternalValidationRow.id (s.tables.applyAll transaction.writes).validations :=
    (keys_unique (t := transaction.view s) pending.unique).validations
  have replay (tried : Tried texts s d transaction.writes) (accepting : phase.accepting = true)
      (raised : validationFromReceipt texts (transaction.view s) d = .error error) :
      error = .messageConflict ∧ ¬d.Matches texts receipt := by
    rcases receipt_answers hashes valid ready tried unique found raised with conflict | ⟨stale,_⟩
    · exact conflict
    · exact absurd ⟨stale,accepting⟩ final
  have own {existing : ExternalValidationRow} (tried : transaction.writes = [])
      (there : (transaction.view s).externalValidationById d.messageId = some existing)
      (raised : d.sameValidation texts existing = .raises error) :
      error = .messageConflict ∧ ¬d.Matches texts receipt := by
    obtain ⟨conflict,differs⟩ := sameValidation_raises raised
    refine ⟨conflict,fun same => differs ?_⟩
    unfold Transaction.view at there
    rw [tried] at there
    obtain ⟨stored,id⟩ := KeyedRows.find_some there
    obtain ⟨fingerprint,describes⟩ := own_validation hashes valid ready found same stored id
    exact ⟨describes.1,fingerprint⟩
  have rejecting {existing : ExternalValidationReceipt} (tried : Tried texts s d transaction.writes)
      (there : (transaction.view s).externalValidationReceipt d.messageId = some existing)
      (refused : ∀ receipt ∈ s.tables.externalValidationReceipt d.messageId, d.Matches texts receipt → receipt.outcome = .rejected)
      (raised : d.sameRejection texts existing = .raises error) :
      error = .messageConflict ∧ ¬d.Matches texts receipt := by
    obtain ⟨conflict,differs⟩ := sameRejection_raises raised
    cases found.symm.trans ((tried.receipt d.messageId).symm.trans there)
    exact ⟨conflict,fun same => differs ⟨same,refused receipt found same⟩⟩
  cases phase with
  | receipt =>
    rcases checked_raises.mp ran with raised | ⟨replayed,_,ran⟩
    · exact replay (.inl facts) rfl raised
    · cases replayed <;> cases ran
  | validationById =>
    dsimp only [Delivery.statement] at ran
    split at ran
    · rename_i existing there
      exact own facts there ran
    · cases ran
  | context =>
    rcases checked_raises.mp ran with raised | ⟨_,_,ran⟩
    · exact absurd ⟨context_stale _ _ _ raised,rfl⟩ final
    · cases ran
  | insertValidation workspaceId =>
    obtain ⟨empty,binding,member,references⟩ := facts
    obtain ⟨taken,free⟩ := allowed (Option.isSome_iff_exists.mpr ⟨receipt,found⟩)
    dsimp only [Delivery.statement,Delivery.insertExternalValidation] at ran
    unfold Transaction.view at ran
    rw [empty,if_pos taken] at ran
    split at ran
    · cases ran
    · rename_i noContent
      rcases free with content | id
      · change s.tables.externalValidationByHash d.envelope.workItemId (d.referenceHash texts) = none at noContent
        rw [noContent] at content
        cases content
      · split at ran
        · rw [if_pos (List.any_eq_true.mpr ⟨binding,member,references⟩)] at ran
          exact absurd ran holding_raises
        · rename_i present
          cases id.symm.trans present
  | lostById =>
    dsimp only [Delivery.statement] at ran
    split at ran
    · rename_i existing there
      exact own facts.1 there ran
    · cases ran
  | lostByHash =>
    obtain ⟨empty,_,row,stored,content⟩ := facts
    dsimp only [Delivery.statement] at ran
    split at ran
    · cases ran
    · rename_i absent
      unfold Transaction.view at absent
      rw [empty] at absent
      exact absurd content (KeyedRows.find_none absent row stored)
  | insertReceipt canonical =>
    dsimp only [Delivery.statement] at ran
    rw [if_pos (Chosen.describes hashes valid ready facts)] at ran
    exact absurd ran insertReceipt_raises
  | reading canonical =>
    obtain ⟨before,now,inserted,_⟩ := facts
    have member : EvidenceWrite.receipt (d.receiptRow texts (.accepted canonical.id) now) ∈ transaction.writes := by
      rw [inserted]
      exact List.mem_append_right _ List.mem_cons_self
    have absent : s.tables.externalValidationReceipt d.messageId = none :=
      receipt_key.mpr (pending.absent member List.mem_cons_self)
    cases absent.symm.trans found
  | lostReceipt =>
    obtain ⟨tried,_⟩ := facts
    rcases checked_raises.mp ran with raised | ⟨replayed,read,ran⟩
    · exact replay tried rfl raised
    · cases replayed with
      | some validation => cases ran
      | none =>
        unfold validationFromReceipt at read
        rw [show (transaction.view s).externalValidationReceipt d.messageId = some receipt from
          (tried.receipt d.messageId).trans found] at read
        obtain ⟨_,read⟩ := require_bind_ok.mp read
        split at read
        · cases read
        · obtain ⟨canonical,_,read⟩ := orRaise_bind_ok.mp read
          obtain ⟨_,read⟩ := require_bind_ok.mp read
          cases done : validationFromRow texts canonical <;> rw [done] at read <;> cases read
  | rejection =>
    dsimp only [Delivery.statement] at ran
    split at ran
    · rename_i existing there
      exact rejecting facts there allowed ran
    · cases ran
  | insertRejection => exact absurd ran insertReceipt_raises
  | lostRejection =>
    dsimp only [Delivery.statement] at ran
    split at ran
    · rename_i existing there
      exact rejecting facts.1 there allowed ran
    · rename_i absent
      cases (absent.symm.trans (facts.1.receipt d.messageId)).trans found
  | committing => cases ran

-- A committed answer is recorded.
theorem Committing.recorded (pending : Pending s transaction)
    (committing : Committing texts s d transaction.writes answer) : Recorded texts d (transaction.view s) answer := by
  have inserted {before : List EvidenceWrite} {outcome : ReceiptOutcome} {now : Time}
      (written : transaction.writes = before ++ [.receipt (d.receiptRow texts outcome now)]) :
      d.receiptRow texts outcome now ∈ (transaction.view s).receipts := by
    unfold Transaction.view
    rw [applyAll_receipts,written]
    unfold receiptsOf
    simp
  cases committing with
  | replayed tried recorded => exact recorded.later receipts_view validations_view
  | @accepted canonical _ before now written chosen describes read =>
    refine .accepted (inserted written) rfl ⟨rfl,rfl,rfl⟩ rfl ?_ read
    refine KeyedRows.find_of_mem (keys_unique (t := transaction.view s) pending.unique).validations ?_
    unfold Transaction.view
    rw [written]
    exact chosen.stored
  | rejected before now written tried => exact .rejected (inserted written) rfl ⟨rfl,rfl,rfl⟩ rfl

-- The transaction of a message that has its receipt inserts none.
theorem Committing.replays (pending : Pending s transaction)
    (committing : Committing texts s d transaction.writes answer)
    (found : s.tables.externalValidationReceipt d.messageId = some receipt) :
    (transaction.view s).receipts = s.tables.receipts := by
  have never {before : List EvidenceWrite} {outcome : ReceiptOutcome} {now : Time}
      (written : transaction.writes = before ++ [.receipt (d.receiptRow texts outcome now)]) : False := by
    have member : EvidenceWrite.receipt (d.receiptRow texts outcome now) ∈ transaction.writes := by
      rw [written]
      exact List.mem_append_right _ List.mem_cons_self
    have absent : s.tables.externalValidationReceipt d.messageId = none :=
      receipt_key.mpr (pending.absent member List.mem_cons_self)
    cases absent.symm.trans found
  cases committing with
  | replayed tried recorded =>
    unfold Transaction.view
    rw [applyAll_receipts,tried.others.1,List.append_nil]
  | accepted before now written => exact (never written).elim
  | rejected before now written => exact (never written).elim

theorem Recorded.receipt (recorded : Recorded texts d t answer) :
    ∃ receipt ∈ t.receipts, receipt.messageId = d.messageId ∧ d.Matches texts receipt := by
  cases recorded with
  | accepted stored message same => exact ⟨_,stored,message,same⟩
  | rejected stored message same => exact ⟨_,stored,message,same⟩

theorem Recorded.unique (keys : t.keys.Nodup)
    (recorded : Recorded texts d t answer) (recorded' : Recorded texts other t answer')
    (message : d.messageId = other.messageId) : answer = answer' := by
  have same {one two : ExternalValidationReceipt} (first : one ∈ t.receipts) (second : two ∈ t.receipts)
      (mine : one.messageId = d.messageId) (theirs : two.messageId = other.messageId) : one = two :=
    List.inj_on_of_nodup_map (keys_unique keys).receipts first second (mine.trans (message.trans theirs.symm))
  cases recorded with
  | accepted stored mine _ outcome found read =>
    cases recorded' with
    | accepted stored' theirs _ outcome' found' read' =>
      cases same stored stored' mine theirs
      cases outcome.symm.trans outcome'
      cases found.symm.trans found'
      cases read.symm.trans read'
      rfl
    | rejected stored' theirs _ outcome' =>
      cases same stored stored' mine theirs
      cases outcome.symm.trans outcome'
  | rejected stored mine _ outcome =>
    cases recorded' with
    | accepted stored' theirs _ outcome' =>
      cases same stored stored' mine theirs
      cases outcome.symm.trans outcome'
    | rejected => rfl

-- An accepted answer reads the canonical validation of its content.
theorem Recorded.canonical (hashes : Function.Injective texts.canonicalHash) (valid : StoreValid texts s)
    (ready : prepared texts d.envelope = .ok d) (recorded : Recorded texts d s.tables (.accepted validation)) :
    ∃ row ∈ s.tables.validations, d.Describes texts row ∧ validationFromRow texts row = .ok validation := by
  cases recorded with
  | @accepted receipt canonicalId row _ stored message same outcome found read =>
    obtain ⟨other,ready',own,names⟩ := (valid.tables.receipts receipt stored).delivered
    obtain ⟨canonical,_,member,id,describes,_⟩ := names canonicalId outcome
    have one : row = canonical := by
      have there := KeyedRows.find_of_mem (keys_unique valid.tables.keys).validations member
      rw [id] at there
      exact Option.some.inj (found.symm.trans there)
    subst one
    have content := (matches_content hashes ready ready' own).mp same
    have fingerprint : d.requestFingerprint texts = other.requestFingerprint texts :=
      congrArg (fun envelope => texts.canonicalHash (.request envelope)) content
    exact ⟨row,member,(describes_same content (same_content hashes ready ready' fingerprint).2).mpr describes,read⟩

end

structure StoredOnce (t : EvidenceTables) : Prop where
  receipts : ∀ first ∈ t.receipts, ∀ second ∈ t.receipts, first.messageId = second.messageId → first = second
  validations : ∀ first ∈ t.validations, ∀ second ∈ t.validations, first.workItemId = second.workItemId →
    first.referenceHash = second.referenceHash → first = second
  requests : ∀ first ∈ t.requests, ∀ second ∈ t.requests, first.messageId = second.messageId → first = second

theorem stored_once (keys : t.keys.Nodup) : StoredOnce t :=
  ⟨fun _ first _ second same => List.inj_on_of_nodup_map (keys_unique keys).receipts first second same,
    fun _ first _ second workItem hash =>
      List.inj_on_of_nodup_map (keys_unique keys).contents first second (Prod.ext workItem hash),
    fun _ first _ second same => List.inj_on_of_nodup_map (keys_unique keys).requests first second same⟩

-- A later delivery of an answered message: its outcome again, or a conflict.
structure Redelivered (envelope envelope' : ExternalValidationRequestEnvelope) (answer answer' : Answer)
    (before after : EvidenceTables) : Prop where
  same : envelope'.content = envelope.content → answer' = answer
  differs : envelope'.content ≠ envelope.content → answer' = .failed .messageConflict ∧ after = before
  receipts : after.receipts = before.receipts

section
variable {texts : EvidenceTexts} {storable : ExternalValidationReference → Bool} {s next : EvidenceSystem}

theorem act_answers (step : Enabled (evidenceProgram texts storable).advance s label next)
    (answered : answers texts storable s label = some answer) :
    ∃ worker event, label = .act worker event ∧
      Answering texts storable s.store (s.workers worker) event next.store answer := by
  cases label with
  | act worker event =>
    obtain ⟨done,ran,answered⟩ := Option.bind_eq_some_iff.mp answered
    obtain ⟨result,acted,rfl⟩ := Option.map_eq_some_iff.mp step
    obtain ⟨done',ran',rfl⟩ := Option.map_eq_some_iff.mp acted
    cases ran.symm.trans ran'
    exact ⟨worker,event,rfl,answering ran answered⟩
  | transact => cases answered
  | crash => cases answered

theorem answer_recorded (valid : (evidenceContract texts storable).Valid s)
    (step : Enabled (evidenceProgram texts storable).advance s label next)
    (answered : answers texts storable s label = some (.delivered envelope answer))
    (final : ∀ error, answer ≠ .failed error) :
    ∃ d, d.envelope = envelope ∧ prepared texts envelope = .ok d ∧ Recorded texts d next.store.tables answer := by
  obtain ⟨worker,event,rfl,came⟩ := act_answers step answered
  have knows := valid.holds worker
  generalize s.workers worker = memory at came knows
  generalize next.store = store at came ⊢
  cases came with
  | delivered live =>
    obtain ⟨pending,ready,facts⟩ := knows.facts _ rfl live
    exact ⟨_,rfl,ready,Committing.recorded pending facts⟩
  | unprepared => exact absurd rfl (final _)
  | raised => exact absurd rfl (final _)

-- An exception leaves the tables as they are.
theorem failed_unchanged (step : Enabled (evidenceProgram texts storable).advance s label next)
    (valid : (evidenceContract texts storable).Valid s)
    (answered : answers texts storable s label = some (.delivered envelope (.failed error))) :
    next.store.tables = s.store.tables := by
  obtain ⟨worker,event,rfl,came⟩ := act_answers step answered
  have knows := valid.holds worker
  generalize s.workers worker = memory at came knows
  generalize next.store = store at came ⊢
  cases came with
  | delivered live =>
    obtain ⟨pending,ready,facts⟩ := knows.facts _ rfl live
    have recorded := Committing.recorded pending facts
    cases recorded
  | unprepared => rfl
  | raised => rfl

theorem redelivered (hashes : Function.Injective texts.canonicalHash) (valid : (evidenceContract texts storable).Valid s)
    (step : Enabled (idempotentProgram texts storable).advance s label next)
    (answered : answers texts storable s label = some (.delivered envelope' answer'))
    {d : Delivery} (ready : prepared texts d.envelope = .ok d) (recorded : Recorded texts d s.store.tables answer)
    (message : envelope'.messageId = d.envelope.messageId) :
    Redelivered d.envelope envelope' answer answer' s.store.tables next.store.tables := by
  obtain ⟨permitted,step⟩ := Program.restrict_permitted _ step
  have validNext := (evidenceContract texts storable).preserved _ _ _ valid step
  obtain ⟨receipt,stored,mine,same⟩ := recorded.receipt
  obtain ⟨worker,event,rfl,came⟩ := act_answers step answered
  have knows := valid.holds worker
  have allowed : idempotent texts storable s.store (s.workers worker) event := permitted
  have found : s.store.tables.externalValidationReceipt envelope'.messageId = some receipt :=
    receipt_found valid.store.tables.keys stored (mine.trans message.symm)
  obtain ⟨original,ready₀,own,_⟩ := (valid.store.tables.receipts receipt stored).delivered
  have content := (matches_content hashes ready ready₀ own).mp same
  have grown := ((evidenceContract texts storable).step valid step).2
  generalize s.workers worker = memory at came knows allowed
  have validNext := validNext.store
  generalize next.store = store at came grown validNext ⊢
  cases came with
  | delivered live =>
    obtain ⟨pending,ready',facts⟩ := knows.facts _ rfl live
    have recorded' := Committing.recorded pending facts
    have receipts := Committing.replays pending facts found
    obtain ⟨receipt',stored',mine',same'⟩ := recorded'.receipt
    have one : receipt' = receipt := by
      rw [receipts] at stored'
      exact List.inj_on_of_nodup_map (keys_unique valid.store.tables.keys).receipts stored' stored
        (mine'.trans (message.trans mine.symm))
    subst one
    have content' := (matches_content hashes ready' ready₀ own).mp same'
    refine ⟨fun _ => ?_,fun differs => absurd (content'.trans content.symm) differs,receipts⟩
    exact (Recorded.unique validNext.tables.keys (recorded.later receipts_view validations_view) recorded' message.symm).symm
  | unprepared failed =>
    have taken := allowed (Option.isSome_iff_exists.mpr ⟨receipt,found⟩)
    rw [failed] at taken
    cases taken
  | raised live ran final =>
    obtain ⟨pending,ready',facts⟩ := knows.facts _ rfl live
    obtain ⟨conflict,differs⟩ := delivery_raises hashes valid.store pending ready' facts allowed found ran final
    refine ⟨fun equal => ?_,fun _ => ⟨by rw [conflict],rfl⟩,rfl⟩
    exact absurd ((matches_content hashes ready' ready₀ own).mpr (equal.trans content)) differs

-- Any two deliveries at any two moments of a run whose steps all keep to `idempotent`.
theorem external_validation_idempotent (hashes : Function.Injective texts.canonicalHash)
    (first : Runs (Enabled (idempotentProgram texts storable).advance) evidenceInitial labels one)
    (step : Enabled (idempotentProgram texts storable).advance one label two)
    (later : Runs (Enabled (idempotentProgram texts storable).advance) two rest three)
    (last : Enabled (idempotentProgram texts storable).advance three label' four) :
    StoredOnce two.store.tables ∧ Grows two.store four.store ∧
    (∀ envelope error, answers texts storable one label = some (.delivered envelope (.failed error)) →
      two.store.tables = one.store.tables) ∧
    (∀ envelope envelope' answer answer', answers texts storable one label = some (.delivered envelope answer) →
      (∀ error, answer ≠ .failed error) → answers texts storable three label' = some (.delivered envelope' answer') →
      envelope'.messageId = envelope.messageId →
      Redelivered envelope envelope' answer answer' three.store.tables four.store.tables) ∧
    ∀ d d' validation validation',
      answers texts storable one label = some (.delivered d.envelope (.accepted validation)) →
      answers texts storable three label' = some (.delivered d'.envelope (.accepted validation')) →
      prepared texts d.envelope = .ok d → prepared texts d'.envelope = .ok d' →
      d.envelope.workItemId = d'.envelope.workItemId → d.referenceHash texts = d'.referenceHash texts →
      validation = validation' := by
  let contract := evidenceContract texts storable
  have free {s t : EvidenceSystem} {labels : List EvidenceLabel}
      (path : Runs (Enabled (idempotentProgram texts storable).advance) s labels t) :
      Runs (Enabled (evidenceProgram texts storable).advance) s labels t :=
    path.mono fun _ _ _ taken => (Program.restrict_permitted _ taken).2
  have stepFree := (Program.restrict_permitted _ step).2
  have lastFree := (Program.restrict_permitted _ last).2
  have validOne : contract.Valid one := contract.runs_valid (free first) (contract.initial_valid initial_valid)
  have validTwo : contract.Valid two := contract.preserved _ _ _ validOne stepFree
  have validThree : contract.Valid three := contract.runs_valid (free later) validTwo
  have validFour : contract.Valid four := contract.preserved _ _ _ validThree lastFree
  have between : Grows two.store three.store :=
    contract.runs_rely Grows.refl (fun _ _ _ => Grows.trans) (free later) validTwo
  have grown : Grows two.store four.store :=
    contract.runs_rely Grows.refl (fun _ _ _ => Grows.trans) ((free later).snoc lastFree) validTwo
  refine ⟨stored_once validTwo.store.tables.keys,grown,fun envelope error => failed_unchanged stepFree validOne,?_,?_⟩
  · intro envelope envelope' answer answer' answered final answered' message
    obtain ⟨d,rfl,ready,recorded⟩ := answer_recorded validOne stepFree answered final
    exact redelivered hashes validThree last answered' ready (recorded.later between.receipts between.validations) message
  · intro d d' validation validation' answered answered' ready ready' workItem hash
    obtain ⟨own,_,ready₀,recorded⟩ := answer_recorded validOne stepFree answered fun _ same => by cases same
    cases ready.symm.trans ready₀
    obtain ⟨own',_,ready₁,recorded'⟩ := answer_recorded validThree lastFree answered' fun _ same => by cases same
    cases ready'.symm.trans ready₁
    obtain ⟨row,stored,describes,read⟩ :=
      (recorded.later grown.receipts grown.validations).canonical hashes validFour.store ready
    obtain ⟨row',stored',describes',read'⟩ := recorded'.canonical hashes validFour.store ready'
    have same : row = row' := by
      refine List.inj_on_of_nodup_map (keys_unique validFour.store.tables.keys).contents stored stored' (Prod.ext ?_ ?_)
      · exact describes.2.2.trans (workItem.trans describes'.2.2.symm)
      · exact describes.1.trans (hash.trans describes'.1.symm)
    subst same
    exact Except.ok.inj (read.symm.trans read')

end

def sampleSha : String := "0123456789abcdef0123456789abcdef01234567"
def sampleHash : String := "sha256:0123456789abcdef0123456789abcdef0123456789abcdef0123456789abcdef"

def sampleMergeRequests : MergeRequests where
  bindings := [⟨40,10,1,7,"repo",30,"project",5,"task","main",50,sampleSha,.platformCreated,100,none⟩]
  branches := [⟨30,10,1,7,"repo",3,sampleSha,"task",51,90⟩]
  observations := [⟨60,40,sampleSha,.merged,some sampleSha,some "8",some 110,"digest",120⟩]

def sampleValidation : ExternalValidationRequestEnvelope where
  messageId := 70
  payloadHash := sampleHash
  requirementId := 1
  requirementVersion := 2
  workItemId := 10
  workItemRevision := 4
  repositoryId := "repo"
  integrationMergeRequestBindingId := 40
  targetCommitSha := sampleSha
  integrationMergeCommitSha := sampleSha
  reference := "https://ci/9"
  notes := "green"
  artifactReferences := [⟨"image","1",sampleHash⟩]
  submittedBy := "worker"
  submittedAt := 130
  attempts := 1

def otherValidation : ExternalValidationRequestEnvelope := {sampleValidation with notes := "red"}

deriving instance Countable for ArtifactReference
deriving instance Countable for ExternalValidationReference
deriving instance Countable for ExternalValidationRequestEnvelope
deriving instance Countable for IntegrationBaselineEvidenceItem
deriving instance Countable for CanonicalPayload

noncomputable def sampleDigest : CanonicalPayload → String := CollisionFree.hash [.request sampleValidation.content,
  .request otherValidation.content,
  .validation [⟨"image","1",sampleHash⟩] sampleSha 40 "green" "https://ci/9" "worker" sampleSha 10,
  .validation [⟨"image","1",sampleHash⟩] sampleSha 40 "red" "https://ci/9" "worker" sampleSha 10]

theorem sampleDigest_injective : Function.Injective sampleDigest := CollisionFree.hash_injective _

noncomputable def sampleReading : EvidenceTexts := ⟨sampleDigest,some,id,id⟩
def sampleStatement (worker : Nat) : EvidenceLabel := .act worker (.statement ⟨140,0,none⟩)

noncomputable abbrev sampleAccepting := evidenceProgram sampleReading fun _ => true
noncomputable abbrev sampleIdempotent := idempotentProgram sampleReading fun _ => true

def sampleAccepted : ExternalValidationReference :=
  ⟨70,10,40,sampleSha,sampleSha,"https://ci/9","green",[⟨"image","1",sampleHash⟩],"worker",130⟩

def sampleRedelivery : ExternalValidationRequestEnvelope := {sampleValidation with attempts := 2}

noncomputable def sampleDelivered : EvidenceSystem :=
  (execute sampleIdempotent.advance evidenceInitial ([.transact (.mergeRequests sampleMergeRequests),
    .act 0 (.deliver sampleValidation)] ++ List.replicate 6 (sampleStatement 0))).get (by decide +kernel)

noncomputable def sampleRedelivered : EvidenceSystem :=
  (execute sampleIdempotent.advance sampleDelivered ([sampleStatement 0,.act 0 (.deliver sampleRedelivery),
    sampleStatement 0])).get (by decide +kernel)

theorem redelivery_repeats : ∃ next : EvidenceSystem,
    answers sampleReading (fun _ => true) sampleDelivered (sampleStatement 0) =
      some (.delivered sampleValidation (.accepted sampleAccepted)) ∧
    answers sampleReading (fun _ => true) sampleRedelivered (sampleStatement 0) =
      some (.delivered sampleRedelivery (.accepted sampleAccepted)) ∧
    Redelivered sampleValidation sampleRedelivery (.accepted sampleAccepted) (.accepted sampleAccepted)
      sampleRedelivered.store.tables next.store.tables := by
  have delivered : answers sampleReading (fun _ => true) sampleDelivered (sampleStatement 0) =
      some (.delivered sampleValidation (.accepted sampleAccepted)) := by decide +kernel
  have again : answers sampleReading (fun _ => true) sampleRedelivered (sampleStatement 0) =
      some (.delivered sampleRedelivery (.accepted sampleAccepted)) := by decide +kernel
  have last : (sampleIdempotent.advance sampleRedelivered (sampleStatement 0)).isSome := by decide +kernel
  obtain ⟨next,last⟩ := Option.isSome_iff_exists.mp last
  refine ⟨next,delivered,again,?_⟩
  have first : Runs (Enabled sampleIdempotent.advance) evidenceInitial _ sampleDelivered := execute_get _
  have rest : Runs (Enabled sampleIdempotent.advance) sampleDelivered _ sampleRedelivered := execute_get _
  cases rest with
  | cons step later =>
    exact (external_validation_idempotent sampleDigest_injective first step later last).2.2.2.1 _ _ _ _ delivered
      (fun _ same => by cases same) again rfl

-- Two deliveries under one message id: both have found no receipt and no validation
-- when the first of them commits.
noncomputable def sampleRaced : EvidenceSystem :=
  (execute sampleAccepting.advance evidenceInitial ([.transact (.mergeRequests sampleMergeRequests),
    .act 0 (.deliver sampleValidation),.act 1 (.deliver otherValidation)] ++ List.replicate 3 (sampleStatement 1) ++
    List.replicate 7 (sampleStatement 0))).get (by decide +kernel)

theorem racing_content_refused : Function.Injective sampleReading.canonicalHash ∧
    Runs (Enabled sampleAccepting.advance) evidenceInitial ([.transact (.mergeRequests sampleMergeRequests),
      .act 0 (.deliver sampleValidation),.act 1 (.deliver otherValidation)] ++ List.replicate 3 (sampleStatement 1) ++
      List.replicate 7 (sampleStatement 0)) sampleRaced ∧
    sampleRaced.store.tables.externalValidationReceipt otherValidation.messageId =
      some ⟨70,sampleDigest (.request sampleValidation.content),.accepted 70,1,10,140⟩ ∧
    otherValidation.content ≠ sampleValidation.content ∧
    answers sampleReading (fun _ => true) sampleRaced (sampleStatement 1) =
      some (.delivered otherValidation (.failed .integrity)) ∧
    answers sampleReading (fun _ => true) sampleRaced (sampleStatement 1) ≠
      some (.delivered otherValidation (.failed .messageConflict)) := by
  refine ⟨sampleDigest_injective,execute_get _,by decide +kernel,by decide +kernel,by decide +kernel,by decide +kernel⟩

end EngineeringPlatform.Evidence
