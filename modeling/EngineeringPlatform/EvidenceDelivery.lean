import EngineeringPlatform.EvidenceStore
namespace EngineeringPlatform.Evidence
open Checked EngineeringPlatform.SourceControl Integration KeyLocks
variable (texts : EvidenceTexts)

-- One statement of a transaction: it waits for a key, raises, or takes keys, writes,
-- and lets the code come to its next statement.
inductive Reply (π : Type) where
  | waits
  | raises (error : EvidenceError)
  | goes (keys : List EvidenceKey) (writes : List EvidenceWrite) (next : π)

def Reply.checked {π α : Type} (result : Except EvidenceError α) (next : α → Reply π) : Reply π :=
  match result with
  | .error error => .raises error
  | .ok value => next value

-- Goes on under keys that nobody else holds.
def Reply.holding {π : Type} (s : EvidenceStore) (transaction : Transaction) (keys : List EvidenceKey)
    (writes : List EvidenceWrite) (next : π) : Reply π :=
  if ∀ key ∈ keys, s.locks.Free transaction.id key then .goes keys writes next else .waits

inductive Answer where
  | accepted (validation : ExternalValidationReference)
  | rejected
  | failed (error : EvidenceError)
  deriving DecidableEq

structure Delivery where
  envelope : ExternalValidationRequestEnvelope
  validation : ExternalValidationReference
  deriving DecidableEq

def ExternalValidationRequestEnvelope.validation (envelope : ExternalValidationRequestEnvelope) :
    ExternalValidationReference :=
  ⟨envelope.messageId,envelope.workItemId,envelope.integrationMergeRequestBindingId,envelope.targetCommitSha,
    envelope.integrationMergeCommitSha,envelope.reference,envelope.notes,stableArtifacts envelope.artifactReferences,
    envelope.submittedBy,envelope.submittedAt⟩

def prepared (envelope : ExternalValidationRequestEnvelope) : Except EvidenceError Delivery := do
  let validation ← ExternalValidationReference.modelValidate texts envelope.validation
  pure ⟨envelope,validation⟩

namespace Delivery
variable (d : Delivery)

def messageId : Uuid := d.envelope.messageId
def referenceHash : String := canonicalExternalValidationHash texts d.validation
def requestFingerprint : String := d.envelope.requestFingerprint texts

-- The receipt is this message's, with this content.
def Matches (receipt : ExternalValidationReceipt) : Prop :=
  receipt.requestFingerprint = d.requestFingerprint texts ∧ receipt.requirementId = d.envelope.requirementId ∧
    receipt.workItemId = d.envelope.workItemId

instance (receipt : ExternalValidationReceipt) : Decidable (d.Matches texts receipt) := by
  unfold Matches
  infer_instance

def Describes (canonical : ExternalValidationRow) : Prop :=
  canonical.referenceHash = d.referenceHash texts ∧ canonical.requirementId = d.envelope.requirementId ∧
    canonical.workItemId = d.envelope.workItemId

instance (canonical : ExternalValidationRow) : Decidable (d.Describes texts canonical) := by
  unfold Describes
  infer_instance

def validationRow (workspaceId : Uuid) : ExternalValidationRow where
  id := d.messageId
  workItemId := d.envelope.workItemId
  requirementId := d.envelope.requirementId
  workspaceId := workspaceId
  integrationMergeRequestBindingId := d.envelope.integrationMergeRequestBindingId
  targetCommitSha := d.envelope.targetCommitSha
  integrationMergeCommitSha := d.envelope.integrationMergeCommitSha
  reference := d.validation.reference
  notes := d.validation.notes
  artifactReferences := texts.jsonb (stableArtifacts d.envelope.artifactReferences)
  referenceHash := d.referenceHash texts
  requestFingerprint := d.requestFingerprint texts
  submittedBy := d.envelope.submittedBy
  submittedAt := texts.timestamptz d.envelope.submittedAt

def receiptRow (outcome : ReceiptOutcome) (now : Time) : ExternalValidationReceipt :=
  ⟨d.messageId,d.requestFingerprint texts,outcome,d.envelope.requirementId,d.envelope.workItemId,now⟩

end Delivery

-- The receipt and the canonical validation it names are never changed, so that one
-- read of both stands for the two queries.
def validationFromReceipt (t : EvidenceTables) (d : Delivery) :
    Except EvidenceError (Option ExternalValidationReference) :=
  match t.externalValidationReceipt d.messageId with
  | none => .ok none
  | some receipt => do
    require (d.Matches texts receipt) .messageConflict
    match receipt.outcome with
    | .rejected => .error .stale
    | .accepted canonicalId =>
      let canonical ← orRaise (t.externalValidationById canonicalId) .messageConflict
      require (d.Describes texts canonical) .messageConflict
      (validationFromRow texts canonical).map some

def validateIntegrationContext (context : Option IntegrationContext) (envelope : ExternalValidationRequestEnvelope) :
    Except EvidenceError IntegrationContext := do
  let context ← orRaise context .stale
  require (context.binding.requirementId = envelope.requirementId ∧ context.binding.workItemId = envelope.workItemId ∧
    context.binding.repositoryId = envelope.repositoryId ∧
    context.binding.id = envelope.integrationMergeRequestBindingId) .stale
  let observation ← orRaise context.observation .stale
  require (observation.state = .merged) .stale
  require (context.binding.headSha = envelope.targetCommitSha ∧ observation.headSha = envelope.targetCommitSha) .stale
  require (observation.mergeCommitSha = some envelope.integrationMergeCommitSha) .stale
  pure context

-- Where a delivery is: in accept_external_validation up to `lostReceipt`, which the
-- relay calls first, then in record_external_validation_rejection.
inductive DeliveryPhase where
  | receipt
  | validationById
  | context
  | insertValidation (workspaceId : Uuid)
  | lostById
  | lostByHash
  | insertReceipt (canonical : ExternalValidationRow)
  | reading (canonical : ExternalValidationRow)
  | lostReceipt
  | rejection
  | insertRejection
  | lostRejection
  | committing (answer : Answer)
  deriving DecidableEq

-- An accepted validation found under the message's own id.
def Delivery.sameValidation (d : Delivery) (existing : ExternalValidationRow) : Reply DeliveryPhase :=
  if existing.referenceHash = d.referenceHash texts ∧ existing.requestFingerprint = d.requestFingerprint texts then
    .goes [] [] (.insertReceipt existing)
  else .raises .messageConflict

def Delivery.sameRejection (d : Delivery) (existing : ExternalValidationReceipt) : Reply DeliveryPhase :=
  if d.Matches texts existing ∧ existing.outcome = .rejected then .goes [] [] (.committing .rejected)
  else .raises .messageConflict

-- fk_sc_validation_binding
def ExternalValidationRow.references (row : ExternalValidationRow) (binding : MergeRequestBinding) : Bool :=
  binding.id = row.integrationMergeRequestBindingId ∧ binding.workItemId = row.workItemId ∧
    binding.requirementId = row.requirementId ∧ binding.workspaceId = row.workspaceId

-- INSERT … ON CONFLICT (work_item_id, reference_hash) DO NOTHING. The conflict clause
-- names one of the two unique indexes: a row with the same id violates the other.
-- `storable` are the CHECK constraints and what the driver takes.
def Delivery.insertExternalValidation (storable : ExternalValidationReference → Bool) (d : Delivery) (workspaceId : Uuid)
    (transaction : Transaction) (s : EvidenceStore) : Reply DeliveryPhase :=
  let t := transaction.view s
  let row := d.validationRow texts workspaceId
  if storable d.validation then
    match t.externalValidationByHash row.workItemId row.referenceHash with
    | some _ => .goes [] [] .lostById
    | none =>
      match t.externalValidationById row.id with
      | none =>
        if s.mergeRequests.bindings.any row.references then
          .holding s transaction [.content row.workItemId row.referenceHash,.validation row.id] [.validation row]
            (.insertReceipt row)
        else .raises .integrity
      | some _ =>
        if s.locks.Free transaction.id (.content row.workItemId row.referenceHash) then .raises .integrity else .waits
  else .raises .integrity

-- INSERT … ON CONFLICT (message_id) DO NOTHING
def Delivery.insertExternalValidationReceipt (d : Delivery) (outcome : ReceiptOutcome) (now : Time)
    (transaction : Transaction) (s : EvidenceStore) (inserted lost : DeliveryPhase) : Reply DeliveryPhase :=
  match (transaction.view s).externalValidationReceipt d.messageId with
  | some _ => .goes [] [] lost
  | none => .holding s transaction [.receipt d.messageId] [.receipt (d.receiptRow texts outcome now)] inserted

def Delivery.statement (storable : ExternalValidationReference → Bool) (d : Delivery) (now : Time) (transaction : Transaction)
    (s : EvidenceStore) : DeliveryPhase → Reply DeliveryPhase
  | .receipt =>
    .checked (validationFromReceipt texts (transaction.view s) d) fun replayed =>
      match replayed with
      | some validation => .goes [] [] (.committing (.accepted validation))
      | none => .goes [] [] .validationById
  | .validationById =>
    match (transaction.view s).externalValidationById d.messageId with
    | some existing => d.sameValidation texts existing
    | none => .goes [] [] .context
  | .context =>
    .checked (validateIntegrationContext (s.mergeRequests.integrationEvidenceContext d.envelope.workItemId) d.envelope)
      fun context => .goes [] [] (.insertValidation context.binding.workspaceId)
  | .insertValidation workspaceId => d.insertExternalValidation texts storable workspaceId transaction s
  | .lostById =>
    match (transaction.view s).externalValidationById d.messageId with
    | some existing => d.sameValidation texts existing
    | none => .goes [] [] .lostByHash
  | .lostByHash =>
    match (transaction.view s).externalValidationByHash d.envelope.workItemId (d.referenceHash texts) with
    | some existing => .goes [] [] (.insertReceipt existing)
    | none => .raises .messageConflict
  | .insertReceipt canonical =>
    if d.Describes texts canonical then
      d.insertExternalValidationReceipt texts (.accepted canonical.id) now transaction s (.reading canonical) .lostReceipt
    else .raises .messageConflict
  | .reading canonical =>
    .checked (validationFromRow texts canonical) fun validation => .goes [] [] (.committing (.accepted validation))
  | .lostReceipt =>
    .checked (validationFromReceipt texts (transaction.view s) d) fun replayed =>
      match replayed with
      | some validation => .goes [] [] (.committing (.accepted validation))
      | none => .raises .messageConflict
  | .rejection =>
    match (transaction.view s).externalValidationReceipt d.messageId with
    | some existing => d.sameRejection texts existing
    | none => .goes [] [] .insertRejection
  | .insertRejection =>
    d.insertExternalValidationReceipt texts .rejected now transaction s (.committing .rejected) .lostRejection
  | .lostRejection =>
    match (transaction.view s).externalValidationReceipt d.messageId with
    | some existing => d.sameRejection texts existing
    | none => .raises .messageConflict
  | .committing answer => .goes [] [] (.committing answer)

-- accept_integration_baseline_request
def EvidenceRequest.Matches (row : EvidenceRequest) (envelope : IntegrationBaselineRequestEnvelope) : Prop :=
  row.payloadHash = envelope.payloadHash ∧
    row.subject = ⟨envelope.deliverySnapshotId,envelope.deliverySnapshotHash,envelope.requirementId,
      envelope.requirementVersion,envelope.requiredWorkItemSetVersion,envelope.requiredWorkItemSetHash⟩ ∧
    row.workItemIds = envelope.workItemIds

instance (row : EvidenceRequest) (envelope : IntegrationBaselineRequestEnvelope) : Decidable (row.Matches envelope) := by
  unfold EvidenceRequest.Matches
  infer_instance

def IntegrationBaselineRequestEnvelope.row (envelope : IntegrationBaselineRequestEnvelope) (now : Time) :
    EvidenceRequest where
  messageId := envelope.messageId
  payloadHash := envelope.payloadHash
  subject := ⟨envelope.deliverySnapshotId,envelope.deliverySnapshotHash,envelope.requirementId,
    envelope.requirementVersion,envelope.requiredWorkItemSetVersion,envelope.requiredWorkItemSetHash⟩
  workItemIds := envelope.workItemIds
  state := .received
  attempts := 0
  availableAt := now
  receivedAt := now
  updatedAt := now

-- The CHECK constraints of evidence_request_inbox on what a request is made of.
def EvidenceRequest.storable (row : EvidenceRequest) : Bool :=
  canonicalSha256 row.payloadHash ∧ canonicalSha256 row.subject.deliverySnapshotHash ∧
    canonicalSha256 row.subject.requiredWorkItemSetHash ∧ 1 ≤ row.subject.requirementVersion ∧
    1 ≤ row.subject.requiredWorkItemSetVersion ∧ row.workItemIds ≠ []

inductive RequestPhase where
  | select
  | insert
  | lost
  | committing
  deriving DecidableEq

-- SELECT … FOR UPDATE finds the row and waits for it.
def EvidenceRequest.locked {π : Type} (row : EvidenceRequest) (transaction : Transaction) (s : EvidenceStore)
    (next : Reply π) : Reply π :=
  if s.locks.Free transaction.id (.request row.messageId) then next else .waits

def IntegrationBaselineRequestEnvelope.compared (envelope : IntegrationBaselineRequestEnvelope) (row : EvidenceRequest)
    (transaction : Transaction) (s : EvidenceStore) : Reply RequestPhase :=
  row.locked transaction s
    (if row.Matches envelope then .goes [.request row.messageId] [] .committing else .raises .messageConflict)

def IntegrationBaselineRequestEnvelope.statement (envelope : IntegrationBaselineRequestEnvelope) (now : Time)
    (transaction : Transaction) (s : EvidenceStore) : RequestPhase → Reply RequestPhase
  | .select =>
    match (transaction.view s).evidenceRequest envelope.messageId with
    | some existing => envelope.compared existing transaction s
    | none => .goes [] [] .insert
  | .insert =>
    if (envelope.row now).storable then
      match (transaction.view s).evidenceRequest envelope.messageId with
      | some _ => .goes [] [] .lost
      | none => .holding s transaction [.request envelope.messageId] [.request (envelope.row now)] .committing
    else .raises .integrity
  | .lost =>
    match (transaction.view s).evidenceRequest envelope.messageId with
    | some existing => envelope.compared existing transaction s
    | none => .raises .messageConflict
  | .committing => .goes [] [] .committing

end EngineeringPlatform.Evidence
