import EngineeringPlatform.RequirementAcceptance
namespace EngineeringPlatform.Requirement
open Checked
open Aggregate (FormalDeliveryContext)
variable (d : Dependencies)

namespace Aggregate

-- _ready_formal_invalidation_reason
def readyFormalInvalidationReason (a : Aggregate) : Option FormalDeliveryBlockedReason :=
  if a.hasPendingFormalDelivery then none else a.formalInvalidationBlockReason

def applyReadyFormalInvalidation (a : Aggregate) (reason : FormalDeliveryBlockedReason) (now : Time) :
    Except RequirementError Aggregate := do
  let a ← a.reopenFormalInvalidationBlocksForRework now .formalDeliveryConflict
  a.invalidateCurrentDeliveryEvidence ("FORMAL_DELIVERY_" ++ reason.value) now

-- What every settling callback does once it has written its work item: the
-- requirement goes back to work where an invalidation is ready, else to `state`.
def settle (a : Aggregate) (state : RequirementState) (now : Time) : Except RequirementError Aggregate :=
  match a.readyFormalInvalidationReason with
  | some reason => do
    let a ← a.updateRequirementState a.requirement.revision .inProgress .staleRequirementRevision
    a.applyReadyFormalInvalidation reason now
  | none => a.updateRequirementState a.requirement.revision state .staleRequirementRevision

end Aggregate

namespace Aggregate.FormalDeliveryContext

-- The last review is of a selection that has been invalidated and replaced.
def reviewInvalidated (context : FormalDeliveryContext) : Bool :=
  (context.formalGate.any fun gate => gate.state = .invalidated ∧
    context.requirement.currentIntegrationBaselineSelectionId.any fun current => gate.selectionId ≠ current) ∧
  context.formalDecision.any fun decision => decision.validity = .invalidated

def reviewApproved (context : FormalDeliveryContext) (headSha : String) : Bool :=
  (context.formalDecision.any fun decision => decision.outcome = .approved ∧ decision.validity = .current) ∧
  context.formalGate.bind DeliveryGate.subjectHeadSha = some headSha

end Aggregate.FormalDeliveryContext

def currentEvidenceItem (context : FormalDeliveryContext) :
    Except RequirementError IntegrationBaselineEvidenceWorkItem := do
  let acceptance ← orRaise context.acceptance .acceptanceStale
  require (context.requirement.state ∈ [.awaitingMerge,.completed] ∧ acceptance.outcome = .approved ∧
    acceptance.validity = .current) .acceptanceStale
  let evidence ← readEvidence d acceptance.integrationBaselineId
  require (evidence.id = acceptance.integrationBaselineId ∧
    evidence.evidenceHash = acceptance.integrationBaselineHash) .acceptanceStale
  validateEvidenceArtifacts d evidence
  match evidence.workItems.filter fun item => item.workItemId = context.workItem.id with
  | [item] => pure item
  | _ => .error .formalDeliveryConflict

def formalRequestAccepted (kind : DeliveryRequestKind) (context : FormalDeliveryContext) (row : WorkItem) : Prop :=
  let formalState := row.formalDeliveryState
  let bindingId := row.formalMergeRequestBindingId
  let initialCreate := kind = .createMr ∧ formalState = .notStarted ∧ bindingId = none
  let refreshedReview := kind = .createMr ∧ formalState = .mrOpen ∧ bindingId ≠ none ∧ context.reviewInvalidated = true
  let retriedCreate := kind = .createMr ∧ formalState = .blocked ∧
    (bindingId = none ∨ context.reviewInvalidated = true)
  let mergeRequest := kind = .mergeMr ∧ formalState ∈ [.mrOpen,.blocked] ∧ bindingId ≠ none
  (initialCreate ∨ refreshedReview ∨ retriedCreate ∨ mergeRequest) ∧ row.integrationDeliveryState = .integrated

instance : Decidable (formalRequestAccepted kind context row) := by
  unfold formalRequestAccepted
  infer_instance

def formalRequestedState : DeliveryRequestKind → FormalDeliveryState
  | .createMr => .mrPending
  | .mergeMr => .mergePending

def requestFormalDelivery (kind : DeliveryRequestKind) (a : Aggregate) (workItemId : Uuid) (expectedRevision : Nat)
    (actor : String) : Except RequirementError Aggregate := do
  require (a.requirement.revision = expectedRevision) .staleRequirementRevision
  let row ← orRaise (a.workItemById workItemId) .workItemNotFound
  let context := a.formalDeliveryContext row
  require (a.formalInvalidationBlockReason = none) .formalDeliveryBlocked
  let evidenceItem ← currentEvidenceItem d context
  let acceptance ← orRaise context.acceptance .acceptanceStale
  require (kind = .createMr → row.humanOwnerId = some actor) .formalDeliveryBlocked
  require (formalRequestAccepted kind context row) .formalDeliveryBlocked
  require (kind = .mergeMr → context.reviewApproved evidenceItem.taskCommitSha = true) .formalDeliveryBlocked
  let bindingId := row.formalMergeRequestBindingId
  let a ← a.updateWorkItemFormalDelivery workItemId row.revision .awaitingMerge (formalRequestedState kind) bindingId
    none d.now .staleWorkItemRevision
  let a ← a.touchRequirement expectedRevision .staleRequirementRevision
  pure (a.insertOutbox (d.uuid4 0) a.requirement.revision
    (.formalDelivery ⟨acceptance.id,actor,bindingId,
      if kind = .mergeMr then context.formalDecision.map DeliveryDecision.id else none,kind,row.repositoryId,
      evidenceItem.taskCommitSha,a.requirement.id,a.requirement.revision,workItemId,row.revision + 1⟩) d.now)

def requestFormalMergeRequest := requestFormalDelivery d .createMr

def requestFormalMerge := requestFormalDelivery d .mergeMr

-- The pending notification takes one revision; final callbacks keep the
-- revision of the request they answer.
def matchesFormalCallbackRevision (row : WorkItem) (expectedRevision : Nat) : Prop :=
  row.revision = expectedRevision + if row.formalDeliveryState = .reconciliationPending then 1 else 0

instance : Decidable (matchesFormalCallbackRevision row expectedRevision) := by
  unfold matchesFormalCallbackRevision
  infer_instance

def recordFormalReconciliationPending (a : Aggregate) (workItemId : Uuid) (bindingId : Option Uuid)
    (expectedRevision : Nat) : Except RequirementError Aggregate := do
  let row ← orRaise (a.workItemById workItemId) .workItemNotFound
  require (row.revision = expectedRevision) .staleWorkItemRevision
  require (row.formalDeliveryState ∈ [.mrPending,.mergePending] ∧ row.formalMergeRequestBindingId = bindingId)
    .formalDeliveryConflict
  let a ← a.updateWorkItemFormalDelivery workItemId expectedRevision .awaitingMerge .reconciliationPending bindingId
    none d.now .staleWorkItemRevision
  a.touchRequirement a.requirement.revision .staleRequirementRevision

def formalCallbackSubject (a : Aggregate) (workItemId : Uuid) (expectedRevision : Nat) :
    Except RequirementError WorkItem := do
  let row ← orRaise (a.workItemById workItemId) .workItemNotFound
  require (matchesFormalCallbackRevision row expectedRevision) .staleWorkItemRevision
  pure row

def formalBlockedAccepted (bindingId : Option Uuid) (row : WorkItem) : Prop :=
  row.formalDeliveryState ∈ [.mrPending,.mergePending,.reconciliationPending] ∧
  (row.formalMergeRequestBindingId ≠ none → bindingId = row.formalMergeRequestBindingId) ∧
  (row.formalDeliveryState = .mergePending → row.formalMergeRequestBindingId ≠ none ∧ bindingId ≠ none)

instance : Decidable (formalBlockedAccepted bindingId row) := by
  unfold formalBlockedAccepted
  infer_instance

def recordFormalDeliveryBlocked (a : Aggregate) (workItemId : Uuid) (bindingId : Option Uuid)
    (reasonCode : FormalDeliveryBlockedReason) (expectedRevision : Nat) : Except RequirementError Aggregate := do
  let row ← formalCallbackSubject a workItemId expectedRevision
  require (formalBlockedAccepted bindingId row) .formalDeliveryConflict
  let a ← a.updateWorkItemFormalDelivery workItemId row.revision .awaitingMerge .blocked
    (row.formalMergeRequestBindingId.or bindingId) (some reasonCode) d.now .staleWorkItemRevision
  a.settle .awaitingMerge d.now

def validatedRoutingPolicy (policy : DeliveryGatePolicySnapshot) : Except RequirementError PUnit :=
  require (blank policy.defaultReviewerId = false ∧ blank policy.policyCode = false ∧
    canonicalSha256 policy.snapshotHash) .requirementDependencyUnavailable

def formalReadyAccepted (bindingId : Uuid) (headSha taskCommitSha : String) (row : WorkItem) : Prop :=
  row.formalDeliveryState ∈ [.mrPending,.reconciliationPending] ∧
  (row.formalMergeRequestBindingId = none ∨ row.formalMergeRequestBindingId = some bindingId) ∧
  taskCommitSha = headSha ∧ commitSha headSha = true

instance : Decidable (formalReadyAccepted bindingId headSha taskCommitSha row) := by
  unfold formalReadyAccepted
  infer_instance

def recordFormalMrReady (a : Aggregate) (workItemId bindingId : Uuid) (headSha : String) (expectedRevision : Nat)
    (assignment : DeliveryGatePolicySnapshot) : Except RequirementError Aggregate := do
  validatedRoutingPolicy assignment
  let row ← formalCallbackSubject a workItemId expectedRevision
  let requirement := a.requirement
  let evidenceItem ← currentEvidenceItem d (a.formalDeliveryContext row)
  require (formalReadyAccepted bindingId headSha evidenceItem.taskCommitSha row) .formalDeliveryConflict
  let selectionId ← orRaise requirement.currentIntegrationBaselineSelectionId .acceptanceStale
  let selection ← orRaise (a.selectionById selectionId) .acceptanceStale
  require (selection.invalidatedAt = none) .acceptanceStale
  let gateId := d.uuid4 0
  let a ← a.insertDeliveryGate
    ⟨gateId,.formalMrReview,some workItemId,selectionId,requirement.requirementVersion,
      requirement.acceptanceCriteriaVersion,requirement.acceptanceCriteriaHash,selection.integrationBaselineId,
      selection.integrationBaselineHash,some bindingId,some headSha,assignment.policyCode,assignment.version,
      assignment.snapshotHash,.opened,1,d.now,none,none,none⟩
  let a := a.insertDeliveryGateAssignment
    ⟨d.uuid4 1,gateId,assignment.defaultReviewerId,assignment.defaultReviewerId,assignment.resolutionSnapshot,1,none⟩
  let a ← a.updateWorkItemFormalDelivery workItemId row.revision .awaitingMerge .mrOpen (some bindingId) none d.now
    .staleWorkItemRevision
  -- touch_requirement, where no invalidation is ready
  a.settle requirement.state d.now

def formalMergedAccepted (bindingId : Uuid) (headSha taskCommitSha : String) (context : FormalDeliveryContext)
    (row : WorkItem) : Prop :=
  row.formalDeliveryState ∈ [.mergePending,.reconciliationPending] ∧
  row.formalMergeRequestBindingId = some bindingId ∧ taskCommitSha = headSha ∧ context.reviewApproved headSha = true

instance : Decidable (formalMergedAccepted bindingId headSha taskCommitSha context row) := by
  unfold formalMergedAccepted
  infer_instance

def recordFormalMerged (a : Aggregate) (workItemId bindingId : Uuid) (headSha mergeCommitSha : String)
    (expectedRevision : Nat) : Except RequirementError Aggregate := do
  require (commitSha headSha = true ∧ commitSha mergeCommitSha = true) .invalidRequirementInput
  let row ← formalCallbackSubject a workItemId expectedRevision
  let context := a.formalDeliveryContext row
  let evidenceItem ← currentEvidenceItem d context
  require (formalMergedAccepted bindingId headSha evidenceItem.taskCommitSha context row) .formalDeliveryConflict
  let a ← a.updateWorkItemFormalDelivery workItemId row.revision .completed .merged (some bindingId) none d.now
    .staleWorkItemRevision
  let allMerged := a.requiredFormalDeliveryStates.all fun state => state = .merged
  a.settle (if allMerged then .completed else .awaitingMerge) d.now

def decideFormalReview (a : Aggregate) (gateId : Uuid) (outcome : DecisionOutcome) (reason : String)
    (expectedRevision : Nat) (actor : String) : Except RequirementError Aggregate := do
  let requirement := a.requirement
  let stableReason ← normalizedText reason
  require (requirement.revision = expectedRevision) .staleRequirementRevision
  let gate ← orRaise (a.deliveryGateById gateId) .gateNotFound
  require (gate.gateType = .formalMrReview) .gateNotFound
  require (gate.state = .opened) .formalReviewStale
  let row ← orRaise (gate.workItemId.bind a.workItemById) .workItemNotFound
  let evidenceItem ← currentEvidenceItem d (a.formalDeliveryContext row)
  require (row.formalDeliveryState = .mrOpen ∧ row.formalMergeRequestBindingId = gate.formalMergeRequestBindingId ∧
    some evidenceItem.taskCommitSha = gate.subjectHeadSha ∧
    gate.requirementVersion = requirement.requirementVersion ∧
    gate.acceptanceCriteriaHash = requirement.acceptanceCriteriaHash) .formalReviewStale
  let selection ← orRaise (a.selectionById gate.selectionId) .acceptanceStale
  require (selection.invalidatedAt = none) .acceptanceStale
  let assignment ← orRaise (a.currentDeliveryGateAssignment gateId) .formalReviewStale
  require (assignment.currentReviewerId = actor) .gateReviewerMismatch
  eligibleReviewer d requirement gate assignment actor
  let a ← a.insertDeliveryDecision
    (deliveryDecision (d.uuid4 0) requirement gate selection assignment actor outcome stableReason gate.subjectHeadSha
      d.now)
  let a ← a.decideDeliveryGate gateId gate.revision d.now .formalReviewStale
  if outcome = .approved then a.touchRequirement expectedRevision .staleRequirementRevision
  else do
    let a ← a.reopenWorkItemForRework row.id row.revision .mrOpen gate.formalMergeRequestBindingId d.now
      .staleWorkItemRevision
    let a ← a.updateRequirementState expectedRevision .inProgress .staleRequirementRevision
    a.invalidateCurrentDeliveryEvidence ("FORMAL_REVIEW_" ++ outcome.value) d.now

-- A gate whose subject may still be reviewed, by the type it has.
def reviewableGate (a : Aggregate) (gate : DeliveryGate) : Except RequirementError PUnit :=
  match gate.gateType with
  | .requirementAcceptance =>
    require (a.requirement.state = .awaitingAcceptance ∧ a.requirement.currentAcceptanceGateId = some gate.id)
      .acceptanceStale
  | .formalMrReview => do
    let row ← orRaise (gate.workItemId.bind a.workItemById) .acceptanceStale
    require (row.formalDeliveryState = .mrOpen ∧
      row.formalMergeRequestBindingId = gate.formalMergeRequestBindingId) .acceptanceStale
    let evidenceItem ← currentEvidenceItem d (a.formalDeliveryContext row)
    require (some evidenceItem.taskCommitSha = gate.subjectHeadSha) .acceptanceStale

def qualified (requirement : RequirementRow) (subject : String) (capabilities : List String)
    (facts : ReviewerEligibility) : Except RequirementError PUnit :=
  require (facts.eligible = true ∧ facts.actorId = subject ∧ facts.workspaceId = requirement.workspaceId ∧
    facts.requiredCapabilities = capabilities) .gateReviewerIneligible

def reassignDeliveryGate (a : Aggregate) (gateId : Uuid) (candidateId : String) (expectedGateRevision : Nat)
    (reason actor : String) : Except RequirementError Aggregate := do
  let requirement := a.requirement
  require (blank candidateId = false ∧ blank reason = false) .invalidRequirementInput
  let gate ← orRaise (a.deliveryGateById gateId) .gateNotFound
  require (gate.state = .opened ∧ a.deliveryDecisionByGate gateId = none) .gateAlreadyDecided
  require (gate.revision = expectedGateRevision) .acceptanceStale
  let selection ← orRaise (a.selectionById gate.selectionId) .acceptanceStale
  require (selection.invalidatedAt = none ∧
    requirement.currentIntegrationBaselineSelectionId = some gate.selectionId ∧
    gate.requirementVersion = requirement.requirementVersion ∧
    gate.acceptanceCriteriaVersion = requirement.acceptanceCriteriaVersion ∧
    gate.acceptanceCriteriaHash = requirement.acceptanceCriteriaHash ∧
    gate.integrationBaselineId = selection.integrationBaselineId ∧
    gate.integrationBaselineHash = selection.integrationBaselineHash) .acceptanceStale
  requireCurrentSelectedEvidence d selection
  reviewableGate d a gate
  let assignment ← orRaise (a.currentDeliveryGateAssignment gateId) .gateReviewerMismatch
  require (assignment.defaultReviewerId = actor) .gateReviewerMismatch
  let guard ← orRaise d.deliveryReviewerGuard .requirementDependencyUnavailable
  let capabilities ← orRaise
    (d.frozenGateCapabilities assignment.resolutionSnapshot.policy gate.gateType gate.policyVersion
      gate.policySnapshotHash) .requirementDependencyUnavailable
  let actorFacts ← orRaise (guard actor ["requirement.delivery_gate.assign"]) .requirementDependencyUnavailable
  let candidateFacts ← orRaise (guard candidateId capabilities) .requirementDependencyUnavailable
  qualified requirement actor ["requirement.delivery_gate.assign"] actorFacts
  qualified requirement candidateId capabilities candidateFacts
  let a ← a.advanceDeliveryGateAssignment gateId expectedGateRevision .acceptanceStale
  let a ← a.supersedeDeliveryGateAssignment assignment.id d.now .acceptanceStale
  let a := a.insertDeliveryGateAssignment
    ⟨d.uuid4 0,gateId,assignment.defaultReviewerId,candidateId,
      {assignment.resolutionSnapshot with reassignment := some ⟨actor,reason,assignment.id⟩},assignment.revision + 1,
      none⟩
  a.touchRequirement requirement.revision .acceptanceStale

end EngineeringPlatform.Requirement
