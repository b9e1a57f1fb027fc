import EngineeringPlatform.ClaimedRows
import EngineeringPlatform.Platform
namespace EngineeringPlatform.SourceControl

inductive SourceControlReason where
  | accessDenied
  | bindingConflict
  | branchBindingMissing
  | connectorUnavailable
  | evidenceStale
  | evidenceUnavailable
  | externalMergeDrift
  | externalResultUnknown
  | formalDeliveryConflict
  | headShaChanged
  | mergeActorIneligible
  | mergeConflict
  | mrChecksBlocked
  | mrClosed
  | mrConflict
  | noDeliveryCommit
  | ownerIneligible
  | ownerMismatch
  | ownerUnassigned
  | projectProfileUnsupported
  | providerUnavailable
  | reconciliationPending
  | repositoryNotAuthorized
  | repositoryNotFound
  | repositoryRemoved
  | sourceBranchMissingAfterIntegration
  | targetBranchNotFound
  | targetBranchNotProtected
  deriving DecidableEq, Repr

inductive EffectState where
  | planned
  | inFlight
  | unknown
  | reconciliation
  | succeeded
  | blocked
  deriving DecidableEq, Repr

def EffectState.terminal : EffectState → Bool
  | .succeeded | .blocked => true
  | _ => false

inductive RequirementCallbackState where
  | pending
  | acked
  | failed
  deriving DecidableEq, Repr

inductive InboxState where
  | received
  | processing
  | processed
  | failed
  deriving DecidableEq, Repr

inductive RepositoryAuthorizationState where
  | authorized
  | removed
  deriving DecidableEq, Repr

structure WorkspaceRepository where
  id : String
  workspaceId : Uuid
  projectId : String
  projectPath : String
  defaultBranch : String
  connectionRef : String
  credentialSecretRef : String
  status : RepositoryAuthorizationState
  revision : Nat
  updatedAt : Time
  deriving DecidableEq

structure RepositoryBranchBinding where
  id : Uuid
  workItemId : Uuid
  requirementId : Uuid
  workspaceId : Uuid
  repositoryId : String
  workItemNumber : Nat
  baseCommitSha : String
  branchName : String
  effectId : Uuid
  createdAt : Time
  deriving DecidableEq

end EngineeringPlatform.SourceControl
