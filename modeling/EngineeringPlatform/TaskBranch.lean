import EngineeringPlatform.BranchNaming
import EngineeringPlatform.Checked
import EngineeringPlatform.KeyedRows
import EngineeringPlatform.SharedWorkers
import EngineeringPlatform.SourceControlDomain
namespace EngineeringPlatform.TaskBranch
open Checked ClaimedRows SharedWorkers EngineeringPlatform.SourceControl

inductive TaskBranchError where
  | requirementCallbackUnavailable (message : String)
  | inboxClaimLost (messageId : Uuid)
  | invalidBranchName (message : String)
  | integrityError (constraint : String)
  deriving DecidableEq

inductive GitLabError where
  | accessDenied
  | defaultBranchNotFound
  | branchNotFound
  | branchAlreadyExists
  | providerUnavailable
  | resultUnknown
  | branchConflict
  deriving DecidableEq, Repr

structure BindingRequest where
  messageId : Uuid
  payloadHash : String
  requirementId : Uuid
  workItemId : Uuid
  repositoryId : String
  state : InboxState
  attempts : Nat
  availableAt : Time
  processedAt : Option Time := none
  updatedAt : Time
  deriving DecidableEq

structure BranchEffect where
  id : Uuid
  workItemId : Uuid
  requirementId : Uuid
  repositoryId : String
  workItemNumber : Nat
  branchName : String
  baseCommitSha : String
  requestFingerprint : String
  attempts : Nat
  state : EffectState
  lastErrorCode : Option SourceControlReason := none
  callbackState : RequirementCallbackState
  nextReconcileAt : Option Time := none
  createdAt : Time
  updatedAt : Time
  completedAt : Option Time := none
  deriving DecidableEq

structure RequirementBindingContext where
  requirementId : Uuid
  requirementType : String
  requirementTitle : String
  workspaceId : Uuid
  workItemId : Uuid
  repositoryId : String
  assignmentState : String
  humanOwnerId : Option Uuid
  deriving DecidableEq

structure BindingEligibility where
  eligible : Bool
  reasonCode : Option SourceControlReason
  deriving DecidableEq

structure SourceControlPolicy where
  text : UnicodeText
  nextReconcileAt : Time → Nat → Time

-- The name on the strings of a row.
def buildTaskBranchName (unicode : UnicodeText) (requirementType : String) (workItemNumber : Nat) (title : String) :
    Except TaskBranchError String :=
  match SourceControl.buildTaskBranchName unicode (PythonText.text requirementType) workItemNumber (PythonText.text title) with
  | .ok name => .ok (String.ofList (name.map Char.ofNat))
  | .error refused => .error (.invalidBranchName refused.message)

-- `bindings` is a list, so that its unique constraints are checks on insertion; the
-- unique work item of an effect is kept as an index. `lastNumber` is the sequence.
structure TaskBranchStore where
  inbox : Table Uuid BindingRequest
  repositories : Table String WorkspaceRepository
  effects : Table Uuid BranchEffect
  byWorkItem : Table Uuid Uuid
  bindings : List RepositoryBranchBinding
  lastNumber : Nat

def TaskBranchStore.initial : TaskBranchStore := ⟨.empty,.empty,.empty,.empty,[],0⟩

namespace TaskBranchStore
variable (s : TaskBranchStore)

def effect (workItemId : Uuid) : Option BranchEffect := (s.byWorkItem workItemId).bind s.effects
def binding (workItemId : Uuid) : Option RepositoryBranchBinding :=
  KeyedRows.find RepositoryBranchBinding.workItemId s.bindings workItemId
def putInbox (row : BindingRequest) : TaskBranchStore := {s with inbox := s.inbox.put row.messageId row}
def putEffects (rows : Table Uuid BranchEffect) : TaskBranchStore := {s with effects := rows}
def addBinding (row : RepositoryBranchBinding) : TaskBranchStore := {s with bindings := s.bindings ++ [row]}

end TaskBranchStore

def effectColumns : Columns BranchEffect EffectState := ⟨BranchEffect.state,BranchEffect.attempts⟩

-- `timedelta(minutes=2)`
def claimLease : Nat := 120

def BindingRequest.claimable (now : Time) (row : BindingRequest) : Bool :=
  row.state = .received ∨ row.state = .failed ∨ row.state = .processing ∧ row.availableAt ≤ now

def claimBindingRequest (messageId : Uuid) (now : Time) (s : TaskBranchStore) :
    Option (TaskBranchStore × BindingRequest) :=
  match s.inbox messageId with
  | some row =>
    if row.claimable now = true then
      let claimed := {row with
        state := .processing, attempts := row.attempts + 1, availableAt := now + claimLease, updatedAt := now}
      some ({s with inbox := s.inbox.put messageId claimed},claimed)
    else none
  | none => none

def completeBindingRequest (messageId : Uuid) (now : Time) (s : TaskBranchStore) : TaskBranchStore :=
  match s.inbox messageId with
  | some row =>
    if row.state = .processed then s
    else {s with inbox := s.inbox.put messageId {row with
      state := .processed, processedAt := some now, updatedAt := now}}
  | none => s

def transitionEffect (id : Uuid) (expected : EffectState) (attempts : Option Nat)
    (change : BranchEffect → BranchEffect) (s : TaskBranchStore) : Option (TaskBranchStore × BranchEffect) :=
  (transition effectColumns s.effects id expected attempts change).map fun (rows,row) => (s.putEffects rows,row)

def insertBinding (row : RepositoryBranchBinding) (s : TaskBranchStore) :
    Except TaskBranchError TaskBranchStore := do
  require (s.binding row.workItemId = none) (.integrityError "uq_source_control_binding_work_item")
  require (∀ other ∈ s.bindings, ¬(other.repositoryId = row.repositoryId ∧ other.branchName = row.branchName))
    (.integrityError "uq_source_control_binding_branch")
  require (∀ other ∈ s.bindings, other.effectId ≠ row.effectId) (.integrityError "uq_source_control_binding_effect")
  pure (s.addBinding row)

def insertBindingWhen (condition : Prop) [Decidable condition] (row : RepositoryBranchBinding)
    (s : TaskBranchStore) : Except TaskBranchError TaskBranchStore :=
  if condition then insertBinding row s else pure s

structure PlanEnvironment where
  now : Time
  effectId : Uuid
  number : Nat

def plannedEffect (env : PlanEnvironment) (request : BindingRequest) (context : RequirementBindingContext)
    (base branchName : String) : BranchEffect where
  id := env.effectId
  workItemId := context.workItemId
  requirementId := context.requirementId
  repositoryId := context.repositoryId
  workItemNumber := env.number
  branchName := branchName
  baseCommitSha := base
  requestFingerprint := request.payloadHash
  attempts := 0
  state := .planned
  callbackState := .pending
  createdAt := env.now
  updatedAt := env.now

-- The planning transaction: the effect of the work item, planned now if there is
-- none. A number drawn by a transaction that rolled back is skipped.
def planEffect (policy : SourceControlPolicy) (env : PlanEnvironment) (request : BindingRequest)
    (context : RequirementBindingContext) (base : String) (s : TaskBranchStore) :
    Except TaskBranchError (TaskBranchStore × BranchEffect) :=
  match s.effect context.workItemId with
  | some effect => pure (s,effect)
  | none => do
    require (s.lastNumber < env.number) (.integrityError "work_item_number_seq")
    let branchName ← buildTaskBranchName policy.text context.requirementType env.number context.requirementTitle
    require (s.byWorkItem context.workItemId = none) (.integrityError "uq_source_control_effect_work_item")
    require (s.effects env.effectId = none) (.integrityError "source_control_effect_pkey")
    let effect := plannedEffect env request context base branchName
    pure ({s with
      effects := s.effects.put effect.id effect
      byWorkItem := s.byWorkItem.put effect.workItemId effect.id
      lastNumber := env.number},effect)

def BranchEffect.start (attempts : Nat) (now : Time) (row : BranchEffect) : BranchEffect :=
  {row with
    state := .inFlight, attempts := attempts + 1, nextReconcileAt := some (now + claimLease), updatedAt := now}

def startEffect (effect : BranchEffect) (now : Time) (s : TaskBranchStore) :
    Option (TaskBranchStore × BranchEffect) :=
  transitionEffect effect.id .planned none (BranchEffect.start effect.attempts now) s

-- What an attempt came to.
inductive Outcome where
  | succeeded
  | unknown
  | blocked (reason : SourceControlReason)
  deriving DecidableEq

def Outcome.state : Outcome → EffectState
  | .succeeded => .succeeded
  | .unknown => .unknown
  | .blocked _ => .blocked

-- The columns written by the first processing …
def BranchEffect.finish (policy : SourceControlPolicy) (attempts : Nat) (now : Time) (outcome : Outcome)
    (row : BranchEffect) : BranchEffect :=
  match outcome with
  | .succeeded =>
    {row with state := .succeeded, nextReconcileAt := none, completedAt := some now, updatedAt := now}
  | .unknown =>
    {row with
      state := .unknown, lastErrorCode := some .externalResultUnknown
      nextReconcileAt := some (policy.nextReconcileAt now attempts), updatedAt := now}
  | .blocked reason =>
    {row with
      state := .blocked, lastErrorCode := some reason, nextReconcileAt := none, completedAt := some now
      updatedAt := now}

-- … and by a reconciliation, which opens the callback of a terminal outcome again.
def BranchEffect.reconcile (policy : SourceControlPolicy) (attempts : Nat) (now : Time) (outcome : Outcome)
    (row : BranchEffect) : BranchEffect :=
  match outcome with
  | .succeeded =>
    {row with
      state := .succeeded, lastErrorCode := none, nextReconcileAt := none, callbackState := .pending
      completedAt := some now, updatedAt := now}
  | .unknown => row.finish policy attempts now .unknown
  | .blocked reason => {row.finish policy attempts now (.blocked reason) with callbackState := .pending}

structure CompletionEnvironment where
  now : Time
  bindingId : Uuid

-- The completing transaction of the first processing. A completion that is lost is
-- answered with no row.
def finishInFlight (policy : SourceControlPolicy) (env : CompletionEnvironment) (messageId : Uuid)
    (context : RequirementBindingContext) (effect : BranchEffect) (outcome : Outcome) (verified : String)
    (s : TaskBranchStore) : Except TaskBranchError (TaskBranchStore × Option BranchEffect) :=
  match transitionEffect effect.id .inFlight (some effect.attempts)
      (BranchEffect.finish policy effect.attempts env.now outcome) s with
  | some (s,row) => do
    let s ← insertBindingWhen (outcome = .succeeded) ⟨env.bindingId,context.workItemId,context.requirementId,
      context.workspaceId,context.repositoryId,effect.workItemNumber,verified,effect.branchName,effect.id,env.now⟩ s
    pure (completeBindingRequest messageId env.now s,some row)
  | none => do
    require (s.effects effect.id ≠ none) (.requirementCallbackUnavailable "Source Control effect is unavailable")
    pure (s,none)

-- The completing transaction of a reconciliation: `_complete_success`,
-- `_complete_block` and `_return_unknown`.
def finishReconciliation (policy : SourceControlPolicy) (env : CompletionEnvironment)
    (workspaceId : Uuid) (effect : BranchEffect) (outcome : Outcome) (s : TaskBranchStore) :
    Except TaskBranchError (TaskBranchStore × Option BranchEffect) :=
  match transitionEffect effect.id .reconciliation (some effect.attempts)
      (BranchEffect.reconcile policy effect.attempts env.now outcome) s with
  | some (s,row) => do
    let s ← insertBindingWhen (outcome = .succeeded ∧ s.binding effect.workItemId = none)
      ⟨env.bindingId,effect.workItemId,effect.requirementId,workspaceId,effect.repositoryId,
        effect.workItemNumber,effect.baseCommitSha,effect.branchName,effect.id,env.now⟩ s
    pure (s,some row)
  | none => pure (s,none)

def reconcilable (now : Time) (row : BranchEffect) : Bool :=
  (row.state = .unknown ∨ row.state = .inFlight ∨ row.state = .reconciliation) ∧
    row.nextReconcileAt.any (· ≤ now) = true

def BranchEffect.claim (now : Time) (row : BranchEffect) : BranchEffect :=
  {row with
    state := .reconciliation, attempts := row.attempts + 1, nextReconcileAt := some (now + claimLease)
    updatedAt := now}

-- `ids` are the due rows the scan returned: a locked row is skipped.
def claimUnknownEffects (limit : Nat) (now : Time) (ids : List Uuid) (s : TaskBranchStore) :
    Option (TaskBranchStore × List BranchEffect) :=
  if ids.Nodup ∧ ids.length ≤ limit ∧ (∀ id ∈ ids, (s.effects id).any (reconcilable now) = true) then
    let rows := claimAll s.effects ids (BranchEffect.claim now)
    some (s.putEffects rows,ids.filterMap rows)
  else none

def BranchEffect.mark (callback : RequirementCallbackState) (now : Time) (row : BranchEffect) : BranchEffect :=
  {row with callbackState := callback, updatedAt := now}

-- `_set_callback_state`: the row must be in the expected state, under any attempt.
def setCallbackState (id : Uuid) (expected : EffectState) (callback : RequirementCallbackState) (now : Time)
    (s : TaskBranchStore) : TaskBranchStore :=
  match transitionEffect id expected none (BranchEffect.mark callback now) s with
  | some (s,_) => s
  | none => s

-- `make_unknown_effect_due`, as the webhook inbox calls it.
def makeUnknownEffectDue (repositoryId branchName : String) (now : Time) (s : TaskBranchStore) :
    TaskBranchStore :=
  s.putEffects (s.effects.updateAll fun _ row =>
    if row.repositoryId = repositoryId ∧ row.branchName = branchName ∧ row.state = .unknown then
      {row with nextReconcileAt := some now, updatedAt := now}
    else row)

-- A branch that could not be created may exist all the same: it is looked up, and
-- its head decides.
def createAndVerifyBranch (created : Except GitLabError Unit) (observed : Except GitLabError String)
    (baseCommitSha : String) : Except GitLabError String :=
  match created with
  | .ok _ | .error .branchAlreadyExists | .error .resultUnknown =>
    match observed with
    | .error .accessDenied | .error .branchNotFound | .error .providerUnavailable => .error .resultUnknown
    | .error error => .error error
    | .ok commitSha => if commitSha ≠ baseCommitSha then .error .branchConflict else .ok commitSha
  | .error error => .error error

end EngineeringPlatform.TaskBranch
