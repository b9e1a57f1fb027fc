import EngineeringPlatform.Platform
import EngineeringPlatform.Checked
namespace EngineeringPlatform.Requirement

inductive RequirementState where
  | created
  | preparing
  | awaitingConfirmation
  | ready
  | inProgress
  | verifying
  | awaitingAcceptance
  | awaitingMerge
  | completed
  | canceled
  deriving DecidableEq, Repr

inductive AssignmentState where
  | unassigned
  | assigned
  deriving DecidableEq, Repr

inductive RepositoryState where
  | waitingRepository
  | blocked
  | bound
  deriving DecidableEq, Repr

inductive RepositoryBindingBlockedReason where
  | connectorUnavailable
  | repositoryNotFound
  | accessDenied
  | policyDenied
  | bindingConflict
  | ownerUnassigned
  | ownerIneligible
  | repositoryNotAuthorized
  | reconciliationPending
  deriving DecidableEq, Repr

inductive WorkItemState where
  | draft
  | ready
  | inProgress
  | verifying
  | awaitingMerge
  | completed
  | canceled
  deriving DecidableEq, Repr

inductive IntegrationDeliveryState where
  | notStarted
  | implementing
  | mrPending
  | mrOpen
  | mergePending
  | integrated
  | blocked
  | reconciliationPending
  deriving DecidableEq, Repr

inductive FormalDeliveryState where
  | notStarted
  | mrPending
  | mrOpen
  | mergePending
  | merged
  | blocked
  | reconciliationPending
  deriving DecidableEq, Repr

inductive IntegrationDeliveryBlockedReason where
  | ownerMismatch
  | ownerIneligible
  | mergeActorIneligible
  | repositoryNotAuthorized
  | branchBindingMissing
  | targetBranchNotFound
  | targetBranchNotProtected
  | noDeliveryCommit
  | headShaChanged
  | mrConflict
  | mrClosed
  | mrChecksBlocked
  | mergeConflict
  | projectProfileUnsupported
  | sourceBranchMissingAfterIntegration
  | externalMergeDrift
  | providerUnavailable
  | reconciliationPending
  deriving DecidableEq, Repr

inductive FormalDeliveryBlockedReason where
  | ownerIneligible
  | mergeActorIneligible
  | repositoryNotAuthorized
  | branchBindingMissing
  | targetBranchNotFound
  | targetBranchNotProtected
  | noDeliveryCommit
  | headShaChanged
  | mrConflict
  | mrClosed
  | mrChecksBlocked
  | mergeConflict
  | projectProfileUnsupported
  | sourceBranchMissingAfterIntegration
  | externalMergeDrift
  deriving DecidableEq, Repr

inductive DeliveryRequestKind where
  | createMr
  | mergeMr
  deriving DecidableEq, Repr

inductive GateState where
  | opened
  | decided
  deriving DecidableEq, Repr

inductive DecisionOutcome where
  | approved
  | changesRequested
  | rejected
  deriving DecidableEq, Repr

inductive DeliveryGateType where
  | requirementAcceptance
  | formalMrReview
  deriving DecidableEq, Repr

inductive DeliveryGateState where
  | opened
  | decided
  | invalidated
  deriving DecidableEq, Repr

inductive DecisionValidity where
  | current
  | invalidated
  deriving DecidableEq, Repr

inductive RequirementError where
  | invalidRequirementTransition
  | invalidRequirementInput
  | requirementNotFound
  | staleRequirementRevision
  | repositoryBindingRequestMissing
  | workItemNotFound
  | staleWorkItemRevision
  | workItemAssigneeIneligible
  | workItemAssignmentConflict
  | workItemActorDenied
  | workItemDeliveryConflict
  | repositoryBindingConflict
  | requirementDependencyUnavailable
  | artifactUnavailable
  | sddArtifactNotFound
  | sddBaselineNotFound
  | staleBaselineSubject
  | gateNotFound
  | gateAlreadyDecided
  | gateReviewerMismatch
  | gateReviewerIneligible
  | staleGateRevision
  | gateAssignmentConflict
  | selectionStale
  | acceptanceStale
  | deliverySnapshotConflict
  | evidenceUnavailableOrStale
  | formalDeliveryConflict
  | formalReviewStale
  | formalDeliveryBlocked
  | constraintViolated
  deriving DecidableEq, Repr

-- `routeCapabilities` is what the code reads out of the frozen route columns,
-- which never change: none where validate_frozen_route_snapshot raises.
structure RequirementRow where
  id : Uuid
  workspaceId : Uuid
  createdBy : String
  routeSnapshotVersion : Nat
  routeSnapshotHash : String
  routeCapabilities : Option (List String)
  acceptanceCriteriaVersion : Nat
  acceptanceCriteriaHash : String
  state : RequirementState
  requirementVersion : Nat
  requiredWorkItemSetVersion : Nat
  requiredWorkItemSetHash : String
  currentSddBaselineId : Option Uuid
  currentIntegrationBaselineSelectionId : Option Uuid
  currentAcceptanceGateId : Option Uuid
  revision : Nat
  deriving DecidableEq

structure WorkItem where
  id : Uuid
  createdBy : String
  humanOwnerId : Option String
  requiredCapabilities : List String
  assignmentState : AssignmentState
  repositoryState : RepositoryState
  state : WorkItemState
  repositoryId : String
  baseCommitSha : Option String
  taskBranch : Option String
  repositoryBlockedReasonCode : Option RepositoryBindingBlockedReason
  repositoryBlockedAt : Option Time
  integrationDeliveryState : IntegrationDeliveryState
  integrationMergeRequestBindingId : Option Uuid
  integrationBlockedReasonCode : Option IntegrationDeliveryBlockedReason
  formalDeliveryState : FormalDeliveryState
  formalMergeRequestBindingId : Option Uuid
  formalBlockedReasonCode : Option FormalDeliveryBlockedReason
  formalUpdatedAt : Option Time
  revision : Nat
  deriving DecidableEq

structure WorkItemAssignment where
  id : Uuid
  workItemId : Uuid
  assigneeId : String
  assignedBy : String
  reason : String
  revision : Nat
  supersededAt : Option Time
  deriving DecidableEq

structure SddBaseline where
  id : Uuid
  requirementVersion : Nat
  artifactId : String
  artifactVersion : String
  artifactHash : String
  routeSnapshotVersion : Nat
  routeSnapshotHash : String
  createdBy : String
  deriving DecidableEq

structure GateInstance where
  id : Uuid
  requirementVersion : Nat
  sddBaselineId : Uuid
  artifactId : String
  artifactVersion : String
  artifactHash : String
  routeSnapshotVersion : Nat
  routeSnapshotHash : String
  policyCode : String
  policyVersion : Nat
  policySnapshotHash : String
  state : GateState
  revision : Nat
  deriving DecidableEq

structure GateAssignment where
  id : Uuid
  gateId : Uuid
  defaultReviewerId : String
  currentReviewerId : String
  revision : Nat
  supersededAt : Option Time
  deriving DecidableEq

-- requirement.decision: what a reviewer said of a baseline.
structure GateDecision where
  id : Uuid
  gateInstanceId : Uuid
  gateAssignmentId : Uuid
  reviewerId : String
  outcome : DecisionOutcome
  reason : String
  subjectRevision : Nat
  decidedAt : Time
  deriving DecidableEq

structure DeliverySnapshot where
  id : Uuid
  requirementVersion : Nat
  requiredWorkItemSetVersion : Nat
  requiredWorkItemSetHash : String
  workItemIds : List Uuid
  snapshotHash : String
  createdBy : String
  deriving DecidableEq

structure IntegrationBaselineSelection where
  id : Uuid
  deliverySnapshotId : Uuid
  integrationBaselineId : Uuid
  integrationBaselineHash : String
  requirementVersionBefore : Nat
  requirementVersionAfter : Nat
  selectedBy : String
  selectedAt : Time
  invalidatedAt : Option Time
  invalidationReason : Option String
  deriving DecidableEq

structure DeliveryGate where
  id : Uuid
  gateType : DeliveryGateType
  workItemId : Option Uuid
  selectionId : Uuid
  requirementVersion : Nat
  acceptanceCriteriaVersion : Nat
  acceptanceCriteriaHash : String
  integrationBaselineId : Uuid
  integrationBaselineHash : String
  formalMergeRequestBindingId : Option Uuid
  subjectHeadSha : Option String
  policyCode : String
  policyVersion : Nat
  policySnapshotHash : String
  state : DeliveryGateState
  revision : Nat
  createdAt : Time
  decidedAt : Option Time
  invalidatedAt : Option Time
  invalidationReason : Option String
  deriving DecidableEq

structure Reassignment where
  actorId : String
  reason : String
  previousAssignmentId : Uuid
  deriving DecidableEq

-- `policy` is the frozen policy envelope, kept as the text of its JSON.
structure ResolutionSnapshot where
  policy : String
  reassignment : Option Reassignment
  deriving DecidableEq

structure DeliveryGateAssignment where
  id : Uuid
  gateId : Uuid
  defaultReviewerId : String
  currentReviewerId : String
  resolutionSnapshot : ResolutionSnapshot
  revision : Nat
  supersededAt : Option Time
  deriving DecidableEq

structure DeliveryDecision where
  id : Uuid
  gateId : Uuid
  gateAssignmentId : Uuid
  reviewerId : String
  outcome : DecisionOutcome
  reason : String
  subjectRevision : Nat
  requirementVersion : Nat
  acceptanceCriteriaVersion : Nat
  acceptanceCriteriaHash : String
  integrationBaselineId : Uuid
  integrationBaselineHash : String
  subjectHeadSha : Option String
  validity : DecisionValidity
  decidedAt : Time
  invalidatedAt : Option Time
  invalidationReason : Option String
  deriving DecidableEq

structure ArtifactEvidenceReference where
  artifactId : String
  artifactVersion : String
  artifactHash : String
  deriving DecidableEq

structure RepositoryBindingPayload where
  workItemId : Uuid
  repositoryId : String
  deriving DecidableEq

structure IntegrationDeliveryPayload where
  kind : DeliveryRequestKind
  requirementId : Uuid
  requirementRevision : Nat
  workItemId : Uuid
  workItemRevision : Nat
  integrationMergeRequestBindingId : Option Uuid
  repositoryId : String
  actorId : String
  deriving DecidableEq

structure ExternalValidationPayload where
  artifactReferences : List ArtifactEvidenceReference
  integrationMergeCommitSha : String
  integrationMergeRequestBindingId : Uuid
  notes : String
  reference : String
  repositoryId : String
  requirementId : Uuid
  requirementVersion : Nat
  submittedBy : String
  targetCommitSha : String
  workItemId : Uuid
  workItemRevision : Nat
  deriving DecidableEq

structure IntegrationBaselinePayload where
  deliverySnapshotHash : String
  deliverySnapshotId : Uuid
  requestedBy : String
  requiredWorkItemSetHash : String
  requiredWorkItemSetVersion : Nat
  requirementId : Uuid
  requirementVersion : Nat
  workItemIds : List Uuid
  deriving DecidableEq

structure IntegrationBaselineSelectedPayload where
  integrationBaselineHash : String
  integrationBaselineId : Uuid
  requirementId : Uuid
  requirementVersion : Nat
  selectionId : Uuid
  deriving DecidableEq

structure FormalDeliveryPayload where
  acceptanceDecisionId : Uuid
  actorId : String
  formalMergeRequestBindingId : Option Uuid
  formalReviewDecisionId : Option Uuid
  kind : DeliveryRequestKind
  repositoryId : String
  requestedHeadSha : String
  requirementId : Uuid
  requirementRevision : Nat
  workItemId : Uuid
  workItemRevision : Nat
  deriving DecidableEq

-- The topic of a message is the kind of its payload.
inductive OutboxPayload where
  | repositoryBinding (payload : RepositoryBindingPayload)
  | integrationDelivery (payload : IntegrationDeliveryPayload)
  | externalValidation (payload : ExternalValidationPayload)
  | integrationBaseline (payload : IntegrationBaselinePayload)
  | integrationBaselineSelected (payload : IntegrationBaselineSelectedPayload)
  | formalDelivery (payload : FormalDeliveryPayload)
  deriving DecidableEq

structure OutboxMessage where
  id : Uuid
  aggregateVersion : Nat
  payload : OutboxPayload
  createdAt : Time
  deriving DecidableEq

-- _FIRST_BATCH_TRANSITIONS
def firstBatchTransitions : RequirementState → List RequirementState
  | .created => [.preparing,.canceled]
  | .preparing => [.awaitingConfirmation,.canceled]
  | .awaitingConfirmation => [.ready,.preparing,.canceled]
  | .ready => [.inProgress,.canceled]
  | .inProgress => [.verifying,.canceled]
  | .verifying => [.awaitingAcceptance,.canceled]
  | .awaitingAcceptance => [.awaitingMerge,.inProgress,.verifying,.canceled]
  | .awaitingMerge => [.completed,.inProgress,.verifying,.canceled]
  | .completed => []
  | .canceled => []

def transitionRequirement (current target : RequirementState) : Except RequirementError RequirementState :=
  if target ∈ firstBatchTransitions current then .ok target else .error .invalidRequirementTransition

def deriveWorkItemState (requirement : RequirementState) (assignment : AssignmentState)
    (repository : RepositoryState) : WorkItemState :=
  if requirement = .ready ∧ assignment = .assigned ∧ repository = .bound then .ready else .draft

def transitionHumanWorkStarted (requirement : RequirementState) (workItem : WorkItemState) :
    Except RequirementError (RequirementState × WorkItemState) :=
  if requirement ∈ [.ready,.inProgress] ∧ workItem = .ready then .ok (.inProgress,.inProgress)
  else .error .invalidRequirementTransition

def transitionIntegrationMrReady (requiredWorkItems : List WorkItemState) : RequirementState :=
  if requiredWorkItems.all fun state => state ∈ [.verifying,.completed] then .verifying else .inProgress

def decisionTarget : DecisionOutcome → RequirementState
  | .approved => .ready
  | .changesRequested => .preparing
  | .rejected => .canceled

-- The formal states in which a request to Source Control is outstanding.
def FormalDeliveryState.pending : FormalDeliveryState → Bool
  | .mrPending | .mergePending | .reconciliationPending => true
  | _ => false

-- The blocked reasons that put the accepted evidence itself in doubt.
def FormalDeliveryBlockedReason.invalidates : FormalDeliveryBlockedReason → Bool
  | .externalMergeDrift | .headShaChanged | .noDeliveryCommit | .sourceBranchMissingAfterIntegration => true
  | _ => false

def FormalDeliveryBlockedReason.value : FormalDeliveryBlockedReason → String
  | .ownerIneligible => "OWNER_INELIGIBLE"
  | .mergeActorIneligible => "MERGE_ACTOR_INELIGIBLE"
  | .repositoryNotAuthorized => "REPOSITORY_NOT_AUTHORIZED"
  | .branchBindingMissing => "BRANCH_BINDING_MISSING"
  | .targetBranchNotFound => "TARGET_BRANCH_NOT_FOUND"
  | .targetBranchNotProtected => "TARGET_BRANCH_NOT_PROTECTED"
  | .noDeliveryCommit => "NO_DELIVERY_COMMIT"
  | .headShaChanged => "HEAD_SHA_CHANGED"
  | .mrConflict => "MR_CONFLICT"
  | .mrClosed => "MR_CLOSED"
  | .mrChecksBlocked => "MR_CHECKS_BLOCKED"
  | .mergeConflict => "MERGE_CONFLICT"
  | .projectProfileUnsupported => "PROJECT_PROFILE_UNSUPPORTED"
  | .sourceBranchMissingAfterIntegration => "SOURCE_BRANCH_MISSING_AFTER_INTEGRATION"
  | .externalMergeDrift => "EXTERNAL_MERGE_DRIFT"

def DecisionOutcome.value : DecisionOutcome → String
  | .approved => "APPROVED"
  | .changesRequested => "CHANGES_REQUESTED"
  | .rejected => "REJECTED"

-- ck_requirement_work_item_*: what the table lets a row say. The texts it
-- compares with '' are normalized before they are written.
structure WorkItem.Checks (row : WorkItem) : Prop where
  assignment : row.assignmentState = .assigned ↔ row.humanOwnerId ≠ none
  bound : row.repositoryState = .bound ↔ row.baseCommitSha ≠ none
  branch : row.baseCommitSha = none ↔ row.taskBranch = none
  repositoryBlocked : row.repositoryState = .blocked ↔ row.repositoryBlockedReasonCode ≠ none
  state : row.state = .draft ∨ row.state = .canceled ∨ row.assignmentState = .assigned ∧ row.repositoryState = .bound
  integrationUnbound : row.integrationDeliveryState ∈ [.notStarted,.implementing,.mrPending] →
    row.integrationMergeRequestBindingId = none
  integrationBound : row.integrationDeliveryState ∈ [.mrOpen,.mergePending,.integrated] →
    row.integrationMergeRequestBindingId ≠ none
  integrationBlocked : row.integrationDeliveryState = .blocked ↔ row.integrationBlockedReasonCode ≠ none
  formalUnbound : row.formalDeliveryState = .notStarted → row.formalMergeRequestBindingId = none
  formalBound : row.formalDeliveryState ∈ [.mrOpen,.mergePending,.merged] → row.formalMergeRequestBindingId ≠ none
  formalBlocked : row.formalDeliveryState = .blocked ↔ row.formalBlockedReasonCode ≠ none
  formalCompletion : row.formalDeliveryState = .merged → row.state = .completed

theorem WorkItem.checks_iff (row : WorkItem) :
    row.Checks ↔
      (row.assignmentState = .assigned ↔ row.humanOwnerId ≠ none) ∧
      (row.repositoryState = .bound ↔ row.baseCommitSha ≠ none) ∧
      (row.baseCommitSha = none ↔ row.taskBranch = none) ∧
      (row.repositoryState = .blocked ↔ row.repositoryBlockedReasonCode ≠ none) ∧
      (row.state = .draft ∨ row.state = .canceled ∨ row.assignmentState = .assigned ∧ row.repositoryState = .bound) ∧
      (row.integrationDeliveryState ∈ [.notStarted,.implementing,.mrPending] →
        row.integrationMergeRequestBindingId = none) ∧
      (row.integrationDeliveryState ∈ [.mrOpen,.mergePending,.integrated] →
        row.integrationMergeRequestBindingId ≠ none) ∧
      (row.integrationDeliveryState = .blocked ↔ row.integrationBlockedReasonCode ≠ none) ∧
      (row.formalDeliveryState = .notStarted → row.formalMergeRequestBindingId = none) ∧
      (row.formalDeliveryState ∈ [.mrOpen,.mergePending,.merged] → row.formalMergeRequestBindingId ≠ none) ∧
      (row.formalDeliveryState = .blocked ↔ row.formalBlockedReasonCode ≠ none) ∧
      (row.formalDeliveryState = .merged → row.state = .completed) := by
  constructor
  · rintro ⟨_,_,_,_,_,_,_,_,_,_,_,_⟩
    refine ⟨?_,?_,?_,?_,?_,?_,?_,?_,?_,?_,?_,?_⟩ <;> assumption
  · rintro ⟨_,_,_,_,_,_,_,_,_,_,_,_⟩
    constructor <;> assumption

instance (row : WorkItem) : Decidable row.Checks := decidable_of_iff' _ row.checks_iff

end EngineeringPlatform.Requirement
