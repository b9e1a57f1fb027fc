import EngineeringPlatform.RequirementDependencies
namespace EngineeringPlatform.Requirement
open Checked
variable (texts : Texts) (d : Dependencies)

structure ExternalValidation where
  workItemId : Uuid
  targetCommitSha : String
  integrationMergeCommitSha : String
  reference : String
  notes : String
  artifactReferences : List ArtifactEvidenceReference
  deriving DecidableEq

def normalizeCommit (value : String) : Except RequirementError String :=
  if commitSha (strip value) then .ok (strip value) else .error .invalidRequirementInput

def artifactBefore (one two : ArtifactEvidenceReference) : Bool :=
  one.artifactId < two.artifactId ∨ one.artifactId = two.artifactId ∧ one.artifactVersion ≤ two.artifactVersion

def normalizedArtifactReferences (references : List ArtifactEvidenceReference) :
    Except RequirementError (List ArtifactEvidenceReference) := do
  require (references ≠ []) .invalidRequirementInput
  require ((references.map fun item => (item.artifactId,item.artifactVersion)).Nodup) .invalidRequirementInput
  pure (references.mergeSort artifactBefore)

def normalizedValidation (given : ExternalValidation) : Except RequirementError ExternalValidation := do
  let targetCommitSha ← normalizeCommit given.targetCommitSha
  let integrationMergeCommitSha ← normalizeCommit given.integrationMergeCommitSha
  let reference ← orRaise (texts.sanitizeExternalReference given.reference) .invalidRequirementInput
  let notes ← normalizedText given.notes
  let artifactReferences ← normalizedArtifactReferences given.artifactReferences
  pure ⟨given.workItemId,targetCommitSha,integrationMergeCommitSha,reference,notes,artifactReferences⟩

def submitExternalValidation (a : Aggregate) (given : ExternalValidation) (expectedRevision : Nat) (actor : String) :
    Except RequirementError Aggregate := do
  let stable ← normalizedValidation texts given
  let row ← orRaise (a.workItemById given.workItemId) .workItemNotFound
  require (a.requirement.revision = expectedRevision) .staleRequirementRevision
  validatedArtifacts d stable.artifactReferences
  require (a.requirement.state ∈ [.verifying,.awaitingAcceptance,.awaitingMerge]) .evidenceUnavailableOrStale
  require (row.state = .verifying ∧ row.integrationDeliveryState = .integrated) .evidenceUnavailableOrStale
  let bindingId ← orRaise row.integrationMergeRequestBindingId .evidenceUnavailableOrStale
  let a ← a.invalidateCurrentDeliveryEvidence "EXTERNAL_VALIDATION_CHANGED" d.now
  let a ← a.advanceEvidenceInput expectedRevision .verifying .staleRequirementRevision
  pure (a.insertOutbox (d.uuid4 0) a.requirement.revision
    (.externalValidation ⟨stable.artifactReferences,stable.integrationMergeCommitSha,bindingId,stable.notes,
      stable.reference,row.repositoryId,a.requirement.id,a.requirement.requirementVersion,actor,
      stable.targetCommitSha,row.id,row.revision⟩) d.now)

def validateCurrentDeliverySet (workItemIds : List Uuid) (storedHash : String) : Except RequirementError Unit :=
  require (texts.requiredWorkItemSetHash workItemIds = storedHash) .requirementDependencyUnavailable

def delivered (row : WorkItem) : Bool :=
  row.integrationDeliveryState = .integrated ∧
    (row.state = .verifying ∨ row.state = .completed ∧ row.formalDeliveryState = .merged)

def requestIntegrationBaseline (a : Aggregate) (expectedRevision expectedRequirementVersion : Nat) (actor : String) :
    Except RequirementError Aggregate := do
  require (a.requirement.revision = expectedRevision) .staleRequirementRevision
  require (a.requirement.state = .verifying) .deliverySnapshotConflict
  require (a.requirement.requirementVersion = expectedRequirementVersion) .deliverySnapshotConflict
  let ids := a.workItems.map WorkItem.id
  validateCurrentDeliverySet texts ids a.requirement.requiredWorkItemSetHash
  require (a.workItems ≠ [] ∧ a.workItems.all delivered) .deliverySnapshotConflict
  let workItemIds := ids.insertionSort fun one two => one ≤ two
  let snapshot : DeliverySnapshot :=
    ⟨d.uuid4 0,expectedRequirementVersion,a.requirement.requiredWorkItemSetVersion,
      a.requirement.requiredWorkItemSetHash,workItemIds,
      texts.canonicalDeliverySnapshotHash a.requirement.id expectedRequirementVersion
        a.requirement.requiredWorkItemSetVersion a.requirement.requiredWorkItemSetHash workItemIds,actor⟩
  let a ← a.insertDeliverySnapshot snapshot .deliverySnapshotConflict
  let a ← a.touchRequirement expectedRevision .staleRequirementRevision
  pure (a.insertOutbox (d.uuid4 1) a.requirement.revision
    (.integrationBaseline ⟨snapshot.snapshotHash,snapshot.id,actor,snapshot.requiredWorkItemSetHash,
      snapshot.requiredWorkItemSetVersion,a.requirement.id,snapshot.requirementVersion,snapshot.workItemIds⟩) d.now)

end EngineeringPlatform.Requirement
