import EngineeringPlatform.RequirementDependencies
namespace EngineeringPlatform.Requirement
open Checked
variable (d : Dependencies)

def requireCurrentSelectedEvidence (selection : IntegrationBaselineSelection) : Except RequirementError PUnit := do
  let evidence ← readEvidence d selection.integrationBaselineId
  require (evidence.id = selection.integrationBaselineId ∧
    evidence.evidenceHash = selection.integrationBaselineHash) .acceptanceStale
  validateEvidenceArtifacts d evidence

def validateSelectionSubject (a : Aggregate) (deliverySnapshotId integrationBaselineId : Uuid)
    (expectedRequirementVersion : Nat) : Except RequirementError IntegrationBaselineEvidence := do
  require (a.requirement.state = .verifying) .selectionStale
  require (a.requirement.requirementVersion = expectedRequirementVersion) .selectionStale
  let snapshot ← orRaise (a.deliverySnapshotById deliverySnapshotId) .selectionStale
  require (snapshot.requirementVersion = expectedRequirementVersion ∧
    snapshot.requiredWorkItemSetVersion = a.requirement.requiredWorkItemSetVersion ∧
    snapshot.requiredWorkItemSetHash = a.requirement.requiredWorkItemSetHash) .selectionStale
  let evidence ← readEvidence d integrationBaselineId
  let evidenceWorkItems := evidence.workItems.map IntegrationBaselineEvidenceWorkItem.workItemId
  require (evidence.id = integrationBaselineId ∧ evidence.requirementId = a.requirement.id ∧
    evidence.deliverySnapshotId = deliverySnapshotId ∧ evidence.deliverySnapshotHash = snapshot.snapshotHash ∧
    evidence.requirementVersion = snapshot.requirementVersion ∧
    evidence.requiredWorkItemSetVersion = snapshot.requiredWorkItemSetVersion ∧
    evidence.requiredWorkItemSetHash = snapshot.requiredWorkItemSetHash ∧
    evidenceWorkItems = snapshot.workItemIds ∧ evidenceWorkItems.Nodup) .selectionStale
  require ((∀ row ∈ a.workItems, row.id ∈ evidenceWorkItems) ∧
    ∀ item ∈ evidence.workItems, (a.workItemById item.workItemId).map WorkItem.repositoryId = some item.repositoryId)
    .selectionStale
  validateEvidenceArtifacts d evidence
  pure evidence

def selectIntegrationBaseline (a : Aggregate) (deliverySnapshotId integrationBaselineId : Uuid)
    (expectedRevision expectedRequirementVersion : Nat) (actor : String) : Except RequirementError Aggregate := do
  require (a.requirement.revision = expectedRevision) .staleRequirementRevision
  let evidence ← validateSelectionSubject d a deliverySnapshotId integrationBaselineId expectedRequirementVersion
  let selectionId := d.uuid4 0
  let a ← a.insertIntegrationBaselineSelection
    ⟨selectionId,deliverySnapshotId,evidence.id,evidence.evidenceHash,expectedRequirementVersion,
      expectedRequirementVersion + 1,actor,d.now,none,none⟩
  let a ← a.applyIntegrationBaselineSelection expectedRevision expectedRequirementVersion selectionId .selectionStale
  pure (a.insertOutbox (d.uuid4 1) a.requirement.revision
    (.integrationBaselineSelected ⟨evidence.evidenceHash,evidence.id,a.requirement.id,
      a.requirement.requirementVersion,selectionId⟩) d.now)

def validatedDeliveryPolicy (requirement : RequirementRow) :
    Except RequirementError DeliveryGatePolicySnapshot := do
  let policies ← orRaise d.deliveryGatePolicies .requirementDependencyUnavailable
  let policy ← orRaise policies .requirementDependencyUnavailable
  require (policy.defaultReviewerId = requirement.createdBy ∧ blank policy.policyCode = false ∧
    canonicalSha256 policy.snapshotHash) .requirementDependencyUnavailable
  pure policy

def confirmRequirementAcceptance (a : Aggregate) (selectionId : Uuid) (expectedRevision : Nat) :
    Except RequirementError Aggregate := do
  let requirement := a.requirement
  require (requirement.revision = expectedRevision) .staleRequirementRevision
  require (requirement.state = .awaitingAcceptance ∧
    requirement.currentIntegrationBaselineSelectionId = some selectionId ∧
    requirement.currentAcceptanceGateId = none) .acceptanceStale
  let selection ← orRaise (a.selectionById selectionId) .acceptanceStale
  require (selection.invalidatedAt = none ∧ selection.requirementVersionAfter = requirement.requirementVersion)
    .acceptanceStale
  requireCurrentSelectedEvidence d selection
  let policy ← validatedDeliveryPolicy d requirement
  let gateId := d.uuid4 0
  let a ← a.insertDeliveryGate
    ⟨gateId,.requirementAcceptance,none,selectionId,requirement.requirementVersion,
      requirement.acceptanceCriteriaVersion,requirement.acceptanceCriteriaHash,selection.integrationBaselineId,
      selection.integrationBaselineHash,none,none,policy.policyCode,policy.version,policy.snapshotHash,.opened,1,
      d.now,none,none,none⟩
  let a := a.insertDeliveryGateAssignment
    ⟨d.uuid4 1,gateId,policy.defaultReviewerId,policy.defaultReviewerId,policy.resolutionSnapshot,1,none⟩
  a.setCurrentAcceptanceGate expectedRevision selectionId gateId .acceptanceStale

-- The decision an eligible reviewer records on an open gate.
def deliveryDecision (id : Uuid) (requirement : RequirementRow) (gate : DeliveryGate)
    (selection : IntegrationBaselineSelection) (assignment : DeliveryGateAssignment) (actor : String)
    (outcome : DecisionOutcome) (reason : String) (subjectHeadSha : Option String) (now : Time) : DeliveryDecision :=
  ⟨id,gate.id,assignment.id,actor,outcome,reason,gate.revision,requirement.requirementVersion,
    requirement.acceptanceCriteriaVersion,requirement.acceptanceCriteriaHash,selection.integrationBaselineId,
    selection.integrationBaselineHash,subjectHeadSha,.current,now,none,none⟩

def decideRequirementAcceptance (a : Aggregate) (gateId : Uuid) (outcome : DecisionOutcome) (reason : String)
    (expectedRevision : Nat) (actor : String) : Except RequirementError Aggregate := do
  let requirement := a.requirement
  let stableReason ← normalizedText reason
  require (requirement.revision = expectedRevision) .staleRequirementRevision
  require (requirement.state = .awaitingAcceptance ∧ requirement.currentAcceptanceGateId = some gateId) .acceptanceStale
  let gate ← orRaise (a.deliveryGateById gateId) .gateNotFound
  require (gate.state = .opened) .gateAlreadyDecided
  let selectionId ← orRaise requirement.currentIntegrationBaselineSelectionId .acceptanceStale
  let selection ← orRaise (a.selectionById selectionId) .acceptanceStale
  require (selection.invalidatedAt = none ∧ gate.selectionId = selectionId ∧
    gate.requirementVersion = requirement.requirementVersion ∧
    gate.acceptanceCriteriaVersion = requirement.acceptanceCriteriaVersion ∧
    gate.acceptanceCriteriaHash = requirement.acceptanceCriteriaHash ∧
    gate.integrationBaselineId = selection.integrationBaselineId ∧
    gate.integrationBaselineHash = selection.integrationBaselineHash) .acceptanceStale
  requireCurrentSelectedEvidence d selection
  let assignment ← orRaise (a.currentDeliveryGateAssignment gateId) .acceptanceStale
  require (assignment.currentReviewerId = actor) .gateReviewerMismatch
  eligibleReviewer d requirement gate assignment actor
  let a ← a.insertDeliveryDecision
    (deliveryDecision (d.uuid4 0) requirement gate selection assignment actor outcome stableReason none d.now)
  let a ← a.decideDeliveryGate gateId gate.revision d.now .gateAlreadyDecided
  let targetState : RequirementState := if outcome = .approved then .awaitingMerge else .inProgress
  let a ← a.applyAcceptanceDecision expectedRevision gateId targetState .acceptanceStale
  if outcome = .approved then pure a
  else do
    let a ← a.invalidateCurrentDeliveryEvidence ("ACCEPTANCE_" ++ outcome.value) d.now
    a.reopenIntegratedWorkItemsForRework d.now .acceptanceStale

end EngineeringPlatform.Requirement
