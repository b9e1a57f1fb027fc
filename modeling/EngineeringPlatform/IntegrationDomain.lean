import EngineeringPlatform.KeyedRows
import EngineeringPlatform.SourceControlDomain
namespace EngineeringPlatform.Integration
open EngineeringPlatform.SourceControl

inductive GitLabError where
  | accessDenied
  | projectNotFound
  | projectPolicyUnsupported
  | targetBranchNotProtected
  | branchNotFound
  | mergeRequestNotFound
  | mergeRequestHeadChanged
  | mergeRequestBlocked
  | providerUnavailable
  | resultUnknown
  deriving DecidableEq, Repr

-- "opened", "merged", "closed" and "locked" of a snapshot; a stored observation says
-- OPEN for the first.
inductive MergeRequestState where
  | opened
  | merged
  | closed
  | locked
  deriving DecidableEq, Repr

structure GitLabMergeRequestSnapshot where
  projectId : String
  iid : Nat
  sourceBranch : String
  targetBranch : String
  headSha : String
  state : MergeRequestState
  detailedMergeStatus : String
  hasConflicts : Bool
  blockingDiscussionsResolved : Bool
  headPipelineStatus : Option String
  mergeCommitSha : Option String
  mergeUserId : Option String
  mergedAt : Option Time
  deriving DecidableEq

structure BranchSnapshot where
  name : String
  commitSha : String
  deriving DecidableEq

structure GitLabProjectDeliveryProfile where
  projectId : String
  projectPath : String
  defaultBranch : String
  mergeMethod : String
  deriving DecidableEq

structure GitLabMergeRequestLocator where
  projectId : String
  iid : Nat
  sourceBranch : String
  targetBranch : String
  deriving DecidableEq

structure GitLabRepositoryProfile where
  repositoryId : String
  projectId : String
  projectPath : String
  connectionRef : String
  defaultBranch : String
  credentialSecretRef : String
  deriving DecidableEq

def repositoryProfile (row : WorkspaceRepository) : GitLabRepositoryProfile :=
  ⟨row.id,row.projectId,row.projectPath,row.connectionRef,row.defaultBranch,row.credentialSecretRef⟩

def targetBranch : String := "dev"
def requirementTypePrefixes : List String := ["feat","fix","refactor","chore"]

inductive DeliveryRequestKind where
  | createMr
  | mergeMr
  deriving DecidableEq, Repr

inductive EffectOperation where
  | createIntegrationMr
  | mergeIntegrationMr
  deriving DecidableEq, Repr

inductive MergeRequestCreationOrigin where
  | platformCreated
  | externalAdopted
  deriving DecidableEq, Repr

def createPreflightReasons : List SourceControlReason :=
  [.branchBindingMissing,.headShaChanged,.mrConflict,.noDeliveryCommit,.ownerIneligible,.ownerMismatch,
    .projectProfileUnsupported,.repositoryNotAuthorized,.targetBranchNotFound,.targetBranchNotProtected]

def mergePreflightReasons : List SourceControlReason :=
  [.branchBindingMissing,.externalMergeDrift,.headShaChanged,.mergeActorIneligible,.mergeConflict,
    .mrChecksBlocked,.mrClosed,.mrConflict,.ownerMismatch,.projectProfileUnsupported,
    .repositoryNotAuthorized,.targetBranchNotFound,.targetBranchNotProtected]

def DeliveryRequestKind.preflightReasons : DeliveryRequestKind → List SourceControlReason
  | .createMr => createPreflightReasons
  | .mergeMr => mergePreflightReasons

-- The payload of an outbox row of the Requirement module, which the relay hashes.
structure DeliveryPayload where
  kind : DeliveryRequestKind
  requirementId : Uuid
  requirementRevision : Nat
  workItemId : Uuid
  workItemRevision : Nat
  integrationMergeRequestBindingId : Option Uuid
  repositoryId : String
  actorId : Uuid
  deriving DecidableEq

structure DeliveryRequest where
  messageId : Uuid
  kind : DeliveryRequestKind
  payloadHash : String
  requirementId : Uuid
  requirementRevision : Nat
  workItemId : Uuid
  workItemRevision : Nat
  repositoryId : String
  actorId : Uuid
  integrationMergeRequestBindingId : Option Uuid
  state : InboxState
  attempts : Nat
  availableAt : Time
  lastErrorCode : Option SourceControlReason := none
  processedAt : Option Time := none
  receivedAt : Time
  updatedAt : Time
  deriving DecidableEq

-- The reason of a preflight that was rejected, if one has been recorded.
def DeliveryRequest.preflight (row : DeliveryRequest) : Option SourceControlReason :=
  row.lastErrorCode.filter (· ∈ row.kind.preflightReasons)

inductive EffectSubject where
  | workItem (workItemId : Uuid) (headSha : String)
  | mergeRequest (bindingId : Uuid) (headSha : String)
  deriving DecidableEq

inductive EffectPayload where
  | create (branchBindingId : Uuid) (headSha : String)
  | merge (bindingId : Uuid) (requestedHeadSha : String)
  deriving DecidableEq

structure IntegrationEffect where
  id : Uuid
  operation : EffectOperation
  subject : EffectSubject
  payload : EffectPayload
  workItemId : Uuid
  requirementId : Uuid
  repositoryId : String
  requestFingerprint : String
  attempts : Nat
  nextReconcileAt : Option Time := none
  state : EffectState
  callbackState : RequirementCallbackState
  lastErrorCode : Option SourceControlReason := none
  createdAt : Time
  updatedAt : Time
  completedAt : Option Time := none
  deriving DecidableEq

-- A row of `merge_request_binding` of the kind INTEGRATION.
structure MergeRequestBinding where
  id : Uuid
  workItemId : Uuid
  requirementId : Uuid
  workspaceId : Uuid
  repositoryId : String
  branchBindingId : Uuid
  externalProjectId : String
  mergeRequestIid : Nat
  sourceBranch : String
  targetBranch : String
  createEffectId : Uuid
  headSha : String
  creationOrigin : MergeRequestCreationOrigin
  createdAt : Time
  supersededAt : Option Time := none
  deriving DecidableEq

structure MergeRequestObservation where
  id : Uuid
  bindingId : Uuid
  headSha : String
  state : MergeRequestState
  mergeCommitSha : Option String
  externalMergeUserId : Option String
  mergedAt : Option Time
  observationDigest : String
  observedAt : Time
  deriving DecidableEq

structure RequirementDeliveryContext where
  requirementId : Uuid
  requirementRevision : Nat
  requirementState : String
  workspaceId : Uuid
  workItemId : Uuid
  workItemRevision : Nat
  workItemState : String
  repositoryId : String
  repositoryState : String
  humanOwnerId : Option Uuid
  requiredCapabilities : List String
  baseCommitSha : Option String
  taskBranch : Option String
  integrationDeliveryState : String
  integrationMergeRequestBindingId : Option Uuid
  requestActorId : Uuid
  deriving DecidableEq

structure RequirementBindingContext where
  requirementId : Uuid
  requirementType : String
  workspaceId : Uuid
  workItemId : Uuid
  workItemRevision : Nat
  repositoryId : String
  requiredCapabilities : List String
  assignmentState : String
  humanOwnerId : Option Uuid
  deriving DecidableEq

-- The work item a callback speaks of, at the revision it expects.
structure CallbackSubject where
  workItemId : Uuid
  workItemRevision : Nat
  deriving DecidableEq

def DeliveryRequest.subject (row : DeliveryRequest) : CallbackSubject := ⟨row.workItemId,row.workItemRevision⟩
def RequirementDeliveryContext.subject (context : RequirementDeliveryContext) : CallbackSubject :=
  ⟨context.workItemId,context.workItemRevision⟩

inductive CallbackKind where
  | ready
  | merged
  | blocked
  | pending
  | externalDrift
  deriving DecidableEq, Repr

inductive CallbackSource where
  | effect (id : Uuid)
  | message (id : Uuid)
  deriving DecidableEq

-- A callback as the Requirement module received it.
structure RequirementCallback where
  source : CallbackSource
  subject : CallbackSubject
  kind : CallbackKind
  bindingId : Option Uuid
  reasonCode : Option SourceControlReason
  deriving DecidableEq

def blockedKind (reason : SourceControlReason) : CallbackKind :=
  if reason = .externalMergeDrift then .externalDrift else .blocked

-- The kind and the reason that carry the outcome of a settled effect.
def IntegrationEffect.outcome (row : IntegrationEffect) : Option (CallbackKind × Option SourceControlReason) :=
  match row.state with
  | .succeeded => some (match row.operation with
    | .createIntegrationMr => .ready
    | .mergeIntegrationMr => .merged,none)
  | .blocked => row.lastErrorCode.map fun reason => (blockedKind reason,some reason)
  | _ => none

inductive IntegrationError where
  | sourceControlDependencyUnavailable (message : String)
  | requirementCallbackUnavailable (message : String)
  | effectCollision
  | integrityError (constraint : String)
  deriving DecidableEq

structure IntegrationPolicy where
  payloadHash : DeliveryPayload → String
  observationDigest : GitLabMergeRequestSnapshot → String
  nextReconcileAt : Time → Nat → Time

end EngineeringPlatform.Integration
