import EngineeringPlatform.IntegrationStore
namespace EngineeringPlatform.FormalDelivery
open Checked ClaimedRows EngineeringPlatform.SourceControl
open Integration (GitLabMergeRequestSnapshot MergeRequestState MergeRequestBinding MergeRequestObservation newerObservation)

inductive FormalError where
  | formalDeliveryConflict (message : String)
  | requirementCallbackUnavailable (message : String)
  | integrityError (constraint : String)
  deriving DecidableEq

inductive FormalOperation where
  | createFormalMr
  | mergeFormalMr
  deriving DecidableEq, Repr

structure FormalRequest where
  messageId : Uuid
  state : InboxState
  attempts : Nat
  lastErrorCode : Option SourceControlReason := none
  processedAt : Option Time := none
  updatedAt : Time
  deriving DecidableEq

structure FormalEffect where
  id : Uuid
  operation : FormalOperation
  attempts : Nat
  nextReconcileAt : Option Time := none
  state : EffectState
  callbackState : RequirementCallbackState
  lastErrorCode : Option SourceControlReason := none
  updatedAt : Time
  completedAt : Option Time := none
  deriving DecidableEq

structure FormalDeliveryAdmission where
  requirementId : Uuid
  workspaceId : Uuid
  workItemId : Uuid
  repositoryId : String
  taskBranch : String
  requestedHeadSha : String
  acceptanceDecisionId : Uuid
  formalMergeRequestBindingId : Option Uuid
  deriving DecidableEq

-- `resolutionSnapshot` is the canonical text of a JSON object.
structure FormalReviewRoutingSnapshot where
  defaultReviewerId : String
  policyCode : String
  policyVersion : Nat
  policySnapshotHash : String
  resolutionSnapshot : String
  deriving DecidableEq

structure FormalReviewAssignment where
  id : Uuid
  bindingId : Uuid
  acceptanceDecisionId : Uuid
  requirementId : Uuid
  workItemId : Uuid
  subjectHeadSha : String
  defaultReviewerId : String
  currentReviewerId : String
  policyCode : String
  policyVersion : Nat
  policySnapshotHash : String
  resolutionSnapshot : String
  revision : Nat
  assignedAt : Time
  supersededAt : Option Time := none
  deriving DecidableEq

-- What an observation digest is taken of.
structure ObservationPayload where
  projectId : String
  iid : Nat
  sourceBranch : String
  targetBranch : String
  headSha : String
  state : MergeRequestState
  mergeCommitSha : Option String
  mergeUserId : Option String
  mergedAt : Option Time
  deriving DecidableEq

def observationPayload (snapshot : GitLabMergeRequestSnapshot) : ObservationPayload :=
  ⟨snapshot.projectId,snapshot.iid,snapshot.sourceBranch,snapshot.targetBranch,snapshot.headSha,snapshot.state,
    snapshot.mergeCommitSha,snapshot.mergeUserId,snapshot.mergedAt⟩

-- SHA-256 of the canonical JSON of a payload.
abbrev Digest := ObservationPayload → String

def observationDigest (digest : Digest) (snapshot : GitLabMergeRequestSnapshot) : String := digest (observationPayload snapshot)

-- `bindings` are the rows of `merge_request_binding` of the kind FORMAL, and
-- `observations` those that belong to them.
structure FormalStore where
  inbox : Table Uuid FormalRequest
  effects : Table Uuid FormalEffect
  bindings : List MergeRequestBinding
  observations : List MergeRequestObservation
  assignments : List FormalReviewAssignment

def FormalStore.initial : FormalStore := ⟨.empty,.empty,[],[],[]⟩

namespace FormalStore
variable (s : FormalStore)

def formalBindingByWorkItem (workItemId : Uuid) : Option MergeRequestBinding :=
  s.bindings.find? fun row => row.workItemId = workItemId ∧ row.supersededAt = none
def observationsOf (bindingId : Uuid) : List MergeRequestObservation :=
  s.observations.filter fun row => row.bindingId = bindingId
def latestMergeRequestObservation (bindingId : Uuid) : Option MergeRequestObservation :=
  RankedRows.top newerObservation (s.observationsOf bindingId)
def assignmentsOf (bindingId : Uuid) : List FormalReviewAssignment :=
  s.assignments.filter fun row => row.bindingId = bindingId
def currentFormalReviewAssignment (bindingId : Uuid) : Option FormalReviewAssignment :=
  s.assignments.find? fun row => row.bindingId = bindingId ∧ row.supersededAt = none

end FormalStore

def effectColumns : Columns FormalEffect EffectState := ⟨FormalEffect.state,FormalEffect.attempts⟩
def inboxColumns : Columns FormalRequest InboxState := ⟨FormalRequest.state,FormalRequest.attempts⟩

def FormalRequest.complete (now : Time) (row : FormalRequest) : FormalRequest :=
  {row with state := .processed, processedAt := some now, updatedAt := now, lastErrorCode := none}

def completeFormalRequest (messageId : Uuid) (attempts : Nat) (now : Time) (s : FormalStore) :
    Except FormalError FormalStore := do
  let (rows,_) ← orRaise (transition inboxColumns s.inbox messageId .processing (some attempts) (FormalRequest.complete now))
    (.requirementCallbackUnavailable "Formal Delivery inbox lease was lost")
  pure {s with inbox := rows}

def transitionEffect (id : Uuid) (expected : EffectState) (attempts : Nat) (change : FormalEffect → FormalEffect)
    (s : FormalStore) : Option (FormalStore × FormalEffect) :=
  (transition effectColumns s.effects id expected (some attempts) change).map fun (rows,row) => ({s with effects := rows},row)

def insertMergeRequestBinding (row : MergeRequestBinding) (s : FormalStore) : Except FormalError FormalStore := do
  require (∀ other ∈ s.bindings, other.id ≠ row.id) (.integrityError "merge_request_binding_pkey")
  require (∀ other ∈ s.bindings, other.createEffectId ≠ row.createEffectId)
    (.integrityError "uq_source_control_mr_binding_effect")
  require (∀ other ∈ s.bindings,
      ¬(other.repositoryId = row.repositoryId ∧ other.mergeRequestIid = row.mergeRequestIid))
    (.integrityError "uq_source_control_mr_binding_external")
  require (∀ other ∈ s.bindings, other.supersededAt = none → other.workItemId ≠ row.workItemId)
    (.integrityError "uq_sc_current_mr_binding_kind_work_item")
  require (∀ other ∈ s.bindings, other.supersededAt = none → other.branchBindingId ≠ row.branchBindingId)
    (.integrityError "uq_sc_current_mr_binding_kind_branch")
  pure {s with bindings := s.bindings ++ [row]}

def observationRow (digest : Digest) (id bindingId : Uuid) (snapshot : GitLabMergeRequestSnapshot) (now : Time) :
    MergeRequestObservation :=
  ⟨id,bindingId,snapshot.headSha,snapshot.state,snapshot.mergeCommitSha,snapshot.mergeUserId,snapshot.mergedAt,
    observationDigest digest snapshot,now⟩

-- INSERT … ON CONFLICT (binding_id, observation_digest) DO NOTHING RETURNING *
def appendMergeRequestObservation (row : MergeRequestObservation) (s : FormalStore) :
    Except FormalError (FormalStore × Option MergeRequestObservation) :=
  if ∃ other ∈ s.observations, other.bindingId = row.bindingId ∧ other.observationDigest = row.observationDigest then
    pure (s,none)
  else do
    require (∀ other ∈ s.observations, other.id ≠ row.id) (.integrityError "merge_request_observation_pkey")
    pure ({s with observations := s.observations ++ [row]},some row)

def FormalReviewAssignment.supersede (now : Time) (row : FormalReviewAssignment) : FormalReviewAssignment :=
  {row with supersededAt := some now}

-- UPDATE … WHERE id AND revision AND superseded_at IS NULL
def supersedeFormalReviewAssignment (id : Uuid) (revision : Nat) (now : Time) (s : FormalStore) :
    Except FormalError FormalStore := do
  let row ← orRaise (s.assignments.find? fun row => row.id = id ∧ row.revision = revision ∧ row.supersededAt = none)
    (.requirementCallbackUnavailable "Formal Review assignment lease was lost")
  require (row.assignedAt ≤ now) (.integrityError "ck_sc_formal_review_times")
  pure {s with assignments := KeyedRows.update FormalReviewAssignment.id s.assignments id (·.supersede now)}

def insertFormalReviewAssignment (row : FormalReviewAssignment) (s : FormalStore) : Except FormalError FormalStore := do
  require (∀ other ∈ s.assignments, other.id ≠ row.id) (.integrityError "formal_review_assignment_pkey")
  require (∀ other ∈ s.assignmentsOf row.bindingId, other.acceptanceDecisionId ≠ row.acceptanceDecisionId)
    (.integrityError "uq_sc_formal_review_acceptance")
  require (∀ other ∈ s.assignmentsOf row.bindingId, other.revision ≠ row.revision)
    (.integrityError "uq_sc_formal_review_revision")
  require (∀ other ∈ s.assignmentsOf row.bindingId, other.supersededAt ≠ none)
    (.integrityError "uq_sc_current_formal_review")
  require (1 ≤ row.revision) (.integrityError "ck_sc_formal_review_values")
  pure {s with assignments := s.assignments ++ [row]}

end EngineeringPlatform.FormalDelivery
