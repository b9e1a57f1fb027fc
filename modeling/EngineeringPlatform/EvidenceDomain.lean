import EngineeringPlatform.PythonText
import EngineeringPlatform.IntegrationStore
import EngineeringPlatform.RequirementDependencies
namespace EngineeringPlatform.Evidence
open Checked EngineeringPlatform.SourceControl Integration

-- `invalid` is a ValidationError or a ValueError, `integrity` a violated constraint
-- of the database, `lost` InboxClaimLost.
inductive EvidenceError where
  | stale
  | unavailable
  | messageConflict
  | invalid
  | integrity
  | lost
  deriving DecidableEq, Repr

def requiredText (value : String) : Except EvidenceError String := do
  require (strip value ≠ "") .invalid
  pure (strip value)

structure ArtifactReference where
  artifactId : String
  artifactVersion : String
  artifactHash : String
  deriving DecidableEq

def ArtifactReference.identity (item : ArtifactReference) : String × String := (item.artifactId,item.artifactVersion)

def ArtifactReference.before (one two : ArtifactReference) : Bool :=
  one.artifactId < two.artifactId ∨ one.artifactId = two.artifactId ∧ one.artifactVersion ≤ two.artifactVersion

def ArtifactReference.modelValidate (item : ArtifactReference) : Except EvidenceError ArtifactReference := do
  let artifactId ← requiredText item.artifactId
  let artifactVersion ← requiredText item.artifactVersion
  require (canonicalSha256 item.artifactHash = true) .invalid
  pure ⟨artifactId,artifactVersion,item.artifactHash⟩

def stableArtifacts (references : List ArtifactReference) : List ArtifactReference :=
  references.mergeSort ArtifactReference.before

structure ExternalValidationReference where
  id : Uuid
  workItemId : Uuid
  integrationMergeRequestBindingId : Uuid
  targetCommitSha : String
  integrationMergeCommitSha : String
  reference : String
  notes : String
  artifactReferences : List ArtifactReference
  submittedBy : String
  submittedAt : Time
  deriving DecidableEq

structure ExternalValidationRequestEnvelope where
  messageId : Uuid
  payloadHash : String
  requirementId : Uuid
  requirementVersion : Nat
  workItemId : Uuid
  workItemRevision : Nat
  repositoryId : String
  integrationMergeRequestBindingId : Uuid
  targetCommitSha : String
  integrationMergeCommitSha : String
  reference : String
  notes : String
  artifactReferences : List ArtifactReference
  submittedBy : String
  submittedAt : Time
  attempts : Nat
  deriving DecidableEq

structure IntegrationBaselineRequestEnvelope where
  messageId : Uuid
  payloadHash : String
  deliverySnapshotId : Uuid
  deliverySnapshotHash : String
  requirementId : Uuid
  requirementVersion : Nat
  requiredWorkItemSetVersion : Nat
  requiredWorkItemSetHash : String
  workItemIds : List Uuid
  requestedBy : String
  attempts : Nat
  deriving DecidableEq

structure IntegrationBaselineEvidenceItem where
  workItemId : Uuid
  repositoryId : String
  taskBranch : String
  taskCommitSha : String
  integrationMergeRequestBindingId : Uuid
  integrationMergeRequestIid : Nat
  integrationMergeCommitSha : String
  executorType : String
  executorId : String
  artifactReferences : List ArtifactReference
  externalValidation : ExternalValidationReference
  deriving DecidableEq

-- What is hashed: the canonical JSON of one of these.
inductive CanonicalPayload where
  | request (envelope : ExternalValidationRequestEnvelope)
  | validation (artifactReferences : List ArtifactReference) (integrationMergeCommitSha : String)
      (integrationMergeRequestBindingId : Uuid) (notes reference submittedBy targetCommitSha : String)
      (workItemId : Uuid)
  | item (item : IntegrationBaselineEvidenceItem)
  | baseline (deliverySnapshotHash : String) (deliverySnapshotId integrationBaselineId : Uuid)
      (items : List IntegrationBaselineEvidenceItem) (requiredWorkItemSetHash : String)
      (requiredWorkItemSetVersion : Nat) (requirementId : Uuid) (requirementVersion : Nat)
  deriving DecidableEq

-- `_canonical_hash`, `sanitize_external_reference`, and what a JSONB and a
-- TIMESTAMPTZ column give back for what was written to them.
structure EvidenceTexts where
  canonicalHash : CanonicalPayload → String
  sanitizeExternalReference : String → Option String
  jsonb : List ArtifactReference → List ArtifactReference
  timestamptz : Time → Time

variable (texts : EvidenceTexts)

def ExternalValidationReference.modelValidate (given : ExternalValidationReference) :
    Except EvidenceError ExternalValidationReference := do
  require (commitSha given.targetCommitSha = true ∧ commitSha given.integrationMergeCommitSha = true) .invalid
  let reference ← orRaise (texts.sanitizeExternalReference given.reference) .invalid
  let notes ← requiredText given.notes
  let submittedBy ← requiredText given.submittedBy
  require ((given.artifactReferences.map ArtifactReference.identity).Nodup) .invalid
  pure {given with reference, notes, submittedBy}

-- `attempts` is excluded: a redelivery has the fingerprint of the first delivery.
def ExternalValidationRequestEnvelope.content (envelope : ExternalValidationRequestEnvelope) :
    ExternalValidationRequestEnvelope := {envelope with attempts := 0}

def ExternalValidationRequestEnvelope.requestFingerprint (envelope : ExternalValidationRequestEnvelope) : String :=
  texts.canonicalHash (.request envelope.content)

def canonicalExternalValidationHash (validation : ExternalValidationReference) : String :=
  texts.canonicalHash (.validation (stableArtifacts validation.artifactReferences) validation.integrationMergeCommitSha
    validation.integrationMergeRequestBindingId validation.notes validation.reference validation.submittedBy
    validation.targetCommitSha validation.workItemId)

def IntegrationBaselineEvidenceItem.modelValidate (item : IntegrationBaselineEvidenceItem) :
    Except EvidenceError IntegrationBaselineEvidenceItem := do
  require (commitSha item.taskCommitSha = true ∧ commitSha item.integrationMergeCommitSha = true ∧
    1 ≤ item.integrationMergeRequestIid) .invalid
  let validation := item.externalValidation
  require (validation.workItemId = item.workItemId ∧
    validation.integrationMergeRequestBindingId = item.integrationMergeRequestBindingId ∧
    validation.targetCommitSha = item.taskCommitSha ∧
    validation.integrationMergeCommitSha = item.integrationMergeCommitSha ∧
    validation.artifactReferences = item.artifactReferences) .invalid
  require (item.executorType = "HUMAN" ∧ strip item.executorId ≠ "") .invalid
  pure item

def canonicalEvidenceItemHash (item : IntegrationBaselineEvidenceItem) : String := texts.canonicalHash (.item item)

-- The scalar facts an evidence hash covers beside its items.
structure BaselineSubject where
  deliverySnapshotId : Uuid
  deliverySnapshotHash : String
  requirementId : Uuid
  requirementVersion : Nat
  requiredWorkItemSetVersion : Nat
  requiredWorkItemSetHash : String
  deriving DecidableEq

def canonicalIntegrationBaselineHash (integrationBaselineId : Uuid) (subject : BaselineSubject)
    (items : List IntegrationBaselineEvidenceItem) : Except EvidenceError String := do
  let normalized := items.mergeSort fun one two => one.workItemId ≤ two.workItemId
  require (normalized ≠ []) .invalid
  require ((normalized.map IntegrationBaselineEvidenceItem.workItemId).Nodup) .invalid
  require (1 ≤ subject.requirementVersion ∧ 1 ≤ subject.requiredWorkItemSetVersion) .invalid
  require (canonicalSha256 subject.requiredWorkItemSetHash = true ∧
    canonicalSha256 subject.deliverySnapshotHash = true) .invalid
  pure (texts.canonicalHash (.baseline subject.deliverySnapshotHash subject.deliverySnapshotId integrationBaselineId
    normalized subject.requiredWorkItemSetHash subject.requiredWorkItemSetVersion subject.requirementId
    subject.requirementVersion))

inductive EvidenceCurrentnessState where
  | current
  | stale
  | unavailable
  deriving DecidableEq, Repr

structure IntegrationBaselineEvidenceItemCurrentness where
  workItemId : Uuid
  bindingId : Uuid
  currentBindingId : Option Uuid
  evidenceHeadSha : String
  bindingHeadSha : Option String
  latestObservationHeadSha : Option String
  evidenceMergeCommitSha : String
  latestObservationMergeCommitSha : Option String
  externalValidationReferenceId : Uuid
  latestExternalValidationReferenceId : Option Uuid
  state : EvidenceCurrentnessState
  reasons : List String
  deriving DecidableEq

structure IntegrationBaselineEvidenceCurrentness where
  state : EvidenceCurrentnessState
  items : List IntegrationBaselineEvidenceItemCurrentness
  deriving DecidableEq

structure IntegrationBaselineEvidence where
  id : Uuid
  subject : BaselineSubject
  evidenceHash : String
  items : List IntegrationBaselineEvidenceItem
  currentness : IntegrationBaselineEvidenceCurrentness
  generatedBy : String
  generatedAt : Time
  deriving DecidableEq

-- Work items are sorted by the text of their id, which is the order of the id.
def IntegrationBaselineEvidence.modelValidate (evidence : IntegrationBaselineEvidence) :
    Except EvidenceError IntegrationBaselineEvidence := do
  require (1 ≤ evidence.subject.requirementVersion ∧ 1 ≤ evidence.subject.requiredWorkItemSetVersion) .invalid
  require (canonicalSha256 evidence.subject.deliverySnapshotHash = true ∧
    canonicalSha256 evidence.subject.requiredWorkItemSetHash = true ∧
    canonicalSha256 evidence.evidenceHash = true) .invalid
  require ((evidence.items.map IntegrationBaselineEvidenceItem.workItemId).Pairwise (· < ·)) .invalid
  let expected ← canonicalIntegrationBaselineHash texts evidence.id evidence.subject evidence.items
  require (evidence.evidenceHash = expected) .invalid
  pure evidence

end EngineeringPlatform.Evidence
