import EngineeringPlatform.TaskBranch
namespace EngineeringPlatform.TaskBranch
open Checked ClaimedRows SharedWorkers EngineeringPlatform.SourceControl

-- What a worker does after the row in its hands.
inductive Rest where
  | done
  | reconcile (rest : List BranchEffect)
  | deliver (rest : List BranchEffect)
  deriving DecidableEq

inductive TaskBranchWorker where
  | idle
  | requested (request : BindingRequest) (claimed : Bool)
  | known (request : BindingRequest) (claimed : Bool) (context : RequirementBindingContext)
  | looked (request : BindingRequest) (claimed : Bool) (context : RequirementBindingContext)
      (binding : Option RepositoryBranchBinding) (effect : Option BranchEffect)
  | evaluating (request : BindingRequest) (context : RequirementBindingContext)
  | profiling (request : BindingRequest) (context : RequirementBindingContext)
  | basing (request : BindingRequest) (context : RequirementBindingContext)
  | refusing (request : BindingRequest) (reason : SourceControlReason)
  | closing (request : BindingRequest)
  | planning (request : BindingRequest) (context : RequirementBindingContext) (base : String)
  | planned (request : BindingRequest) (context : RequirementBindingContext) (effect : BranchEffect)
  | creating (request : BindingRequest) (context : RequirementBindingContext) (effect : BranchEffect)
  | finishing (request : BindingRequest) (context : RequirementBindingContext) (effect : BranchEffect)
      (outcome : Outcome) (verified : String)
  | reconciling (effect : BranchEffect) (rest : List BranchEffect)
  | judging (effect : BranchEffect) (context : RequirementBindingContext) (rest : List BranchEffect)
  | checking (effect : BranchEffect) (context : RequirementBindingContext) (rest : List BranchEffect)
  | lookingUp (effect : BranchEffect) (context : RequirementBindingContext) (rest : List BranchEffect)
  | completing (effect : BranchEffect) (workspaceId : Uuid) (outcome : Outcome) (rest : List BranchEffect)
  | delivering (effects : List BranchEffect)
  | calling (effect : BranchEffect) (expected : EffectState) (rest : Rest)
  | marking (effect : BranchEffect) (expected : EffectState) (callback : RequirementCallbackState) (rest : Rest)
  deriving DecidableEq

inductive TaskBranchEvent where
  | claim (messageId : Uuid) (claimRequired : Bool) (now : Time)
  | context (context : RequirementBindingContext)
  | look
  | route (now : Time)
  | evaluate (owner : BindingEligibility)
  | profile
  | base (answer : Except GitLabError String)
  | refuse
  | close (now : Time)
  | plan (env : PlanEnvironment)
  | start (now : Time)
  | create (created : Except GitLabError Unit) (observed : Except GitLabError String)
  | finish (env : CompletionEnvironment)
  | claimUnknown (limit : Nat) (now : Time) (ids : List Uuid)
  | available (context : Option RequirementBindingContext)
  | lookup (looked : Except GitLabError String) (created : Except GitLabError Unit)
      (observed : Except GitLabError String)
  | scan (ids : List Uuid)
  | deliver
  | callback (acknowledged : Bool)
  | mark (now : Time)

def nextReconciled : List BranchEffect → TaskBranchWorker
  | [] => .idle
  | effect :: rest => .reconciling effect rest

def Rest.next : Rest → TaskBranchWorker
  | .done => .idle
  | .reconcile rest => nextReconciled rest
  | .deliver rest => .delivering rest

def assigned (context : RequirementBindingContext) : Bool :=
  context.assignmentState = "ASSIGNED" ∧ context.humanOwnerId ≠ none

def ineligibleReason (owner : BindingEligibility) : SourceControlReason :=
  owner.reasonCode.getD .ownerIneligible

def repositoryAuthorized (row : Option WorkspaceRepository) (workspaceId : Uuid) : Bool :=
  row.any fun row => row.status = .authorized ∧ row.workspaceId = workspaceId

-- Where a request goes once its effect and its binding have been read: a bound work
-- item is replayed, and only a claimed request goes on.
def routed (request : BindingRequest) (claimed : Bool) (context : RequirementBindingContext)
    (binding : Option RepositoryBranchBinding) (effect : Option BranchEffect) : TaskBranchWorker :=
  match binding,effect with
  | some _,some effect => .calling effect .succeeded .done
  | _,_ =>
    if claimed = false then .idle
    else if assigned context = false then .refusing request .ownerUnassigned
    else .evaluating request context

def based (request : BindingRequest) (context : RequirementBindingContext) (answer : Except GitLabError String) :
    Option TaskBranchWorker :=
  match answer with
  | .ok base => some (.planning request context base)
  | .error .accessDenied => some (.refusing request .accessDenied)
  | .error .defaultBranchNotFound => some (.refusing request .repositoryNotFound)
  | .error .providerUnavailable => some (.refusing request .connectorUnavailable)
  | .error _ => none

-- An error that no clause catches ends the processing as a crash does.
def created (request : BindingRequest) (context : RequirementBindingContext) (effect : BranchEffect)
    (answer : Except GitLabError String) : Option TaskBranchWorker :=
  match answer with
  | .ok verified => some (.finishing request context effect .succeeded verified)
  | .error .resultUnknown => some (.finishing request context effect .unknown "")
  | .error .accessDenied => some (.finishing request context effect (.blocked .accessDenied) "")
  | .error .providerUnavailable => some (.finishing request context effect (.blocked .connectorUnavailable) "")
  | .error .branchConflict => some (.finishing request context effect (.blocked .bindingConflict) "")
  | .error _ => none

def observedOutcome (observed baseCommitSha : String) : Outcome :=
  if observed = baseCommitSha then .succeeded else .blocked .bindingConflict

def lookedUp (looked : Except GitLabError String) (created : Except GitLabError Unit)
    (observed : Except GitLabError String) (baseCommitSha : String) : Option Outcome :=
  match looked with
  | .ok head => some (observedOutcome head baseCommitSha)
  | .error .branchNotFound =>
    match createAndVerifyBranch created observed baseCommitSha with
    | .ok head => some (observedOutcome head baseCommitSha)
    | .error .providerUnavailable | .error .resultUnknown => some .unknown
    | .error .accessDenied => some (.blocked .accessDenied)
    | .error .branchConflict => some (.blocked .bindingConflict)
    | .error _ => none
  | .error .providerUnavailable | .error .resultUnknown => some .unknown
  | .error .accessDenied => some (.blocked .accessDenied)
  | .error _ => none

def pendingCallback (row : BranchEffect) : Bool :=
  (row.state = .succeeded ∨ row.state = .blocked) ∧ row.callbackState ≠ .acked

-- A reconciled outcome is called back only when it was recorded and is terminal.
def afterReconcile (outcome : Outcome) (recorded : Option BranchEffect) (rest : List BranchEffect) :
    TaskBranchWorker :=
  match outcome,recorded with
  | .unknown,_ | _,none => nextReconciled rest
  | _,some effect => .calling effect effect.state (.reconcile rest)

def taskBranchStep (policy : SourceControlPolicy) (s : TaskBranchStore) :
    TaskBranchWorker → TaskBranchEvent → Option (TaskBranchStore × TaskBranchWorker)
  | .idle,.claim messageId claimRequired now =>
    match claimBindingRequest messageId now s with
    | some (s,claimed) => some (s,.requested claimed true)
    | none => (s.inbox messageId).map fun request =>
      (s,if claimRequired then .idle else .requested request false)
  | .requested request claimed,.context context => some (s,.known request claimed context)
  | .known request claimed context,.look =>
    some (s,.looked request claimed context (s.binding context.workItemId) (s.effect context.workItemId))
  | .looked request claimed context binding effect,.route now =>
    let s := if claimed = true ∧ effect.any (fun effect => effect.state ≠ .planned) = true then
      completeBindingRequest request.messageId now s else s
    some (s,routed request claimed context binding effect)
  | .evaluating request context,.evaluate owner =>
    some (s,if owner.eligible = false then .refusing request (ineligibleReason owner)
      else .profiling request context)
  | .profiling request context,.profile =>
    some (s,if repositoryAuthorized (s.repositories context.repositoryId) context.workspaceId = true ∧
        request.repositoryId = context.repositoryId then .basing request context
      else .refusing request .repositoryNotAuthorized)
  | .basing request context,.base answer => (based request context answer).map fun memory => (s,memory)
  | .refusing request _,.refuse => some (s,.closing request)
  | .closing request,.close now => some (completeBindingRequest request.messageId now s,.idle)
  | .planning request context base,.plan env =>
    (planEffect policy env request context base s).toOption.map fun (s,effect) =>
      (s,if effect.state = .planned then .planned request context effect else .idle)
  | .planned request context effect,.start now =>
    match startEffect effect now s with
    | some (s,effect) => some (s,.creating request context effect)
    | none => some (s,.idle)
  | .creating request context effect,.create created' observed =>
    (created request context effect (createAndVerifyBranch created' observed effect.baseCommitSha)).map
      fun memory => (s,memory)
  | .finishing request context effect outcome verified,.finish env =>
    (finishInFlight policy env request.messageId context effect outcome verified s).toOption.map
      fun (s,recorded) => (s,match recorded with
        | some effect => .calling effect outcome.state .done
        | none => .idle)
  | .idle,.claimUnknown limit now ids =>
    (claimUnknownEffects limit now ids s).map fun (s,claimed) => (s,nextReconciled claimed)
  | .reconciling effect rest,.available context =>
    some (s,match context with
      | none => .completing effect 0 .unknown rest
      | some context =>
        if assigned context = false then .completing effect context.workspaceId (.blocked .ownerUnassigned) rest
        else .judging effect context rest)
  | .judging effect context rest,.evaluate owner =>
    some (s,if owner.eligible = false then
        .completing effect context.workspaceId (.blocked (ineligibleReason owner)) rest
      else .checking effect context rest)
  | .checking effect context rest,.profile =>
    some (s,if repositoryAuthorized (s.repositories effect.repositoryId) context.workspaceId = true ∧
        context.repositoryId = effect.repositoryId then .lookingUp effect context rest
      else .completing effect context.workspaceId (.blocked .repositoryRemoved) rest)
  | .lookingUp effect context rest,.lookup looked created' observed =>
    (lookedUp looked created' observed effect.baseCommitSha).map fun outcome =>
      (s,.completing effect context.workspaceId outcome rest)
  | .completing effect workspaceId outcome rest,.finish env =>
    (finishReconciliation policy env workspaceId effect outcome s).toOption.map fun (s,recorded) =>
      (s,afterReconcile outcome recorded rest)
  | .idle,.scan ids =>
    some (s,.delivering ((ids.filterMap s.effects).filter pendingCallback))
  | .delivering [],.deliver => some (s,.idle)
  | .delivering (effect :: rest),.deliver =>
    some (s,if effect.state = .blocked ∨ s.binding effect.workItemId ≠ none then
        .calling effect effect.state (.deliver rest)
      else .delivering rest)
  | .calling effect expected rest,.callback acknowledged =>
    some (s,.marking effect expected (if acknowledged then .acked else .failed) rest)
  | .marking effect expected callback rest,.mark now =>
    some (setCallbackState effect.id expected callback now s,rest.next)
  | _,_ => none

inductive TaskBranchTransaction where
  | accept (row : BindingRequest)
  | repository (row : WorkspaceRepository)
  | webhook (repositoryId branchName : String) (now : Time)

def commitTaskBranch (s : TaskBranchStore) : TaskBranchTransaction → Option TaskBranchStore
  | .accept row =>
    if s.inbox row.messageId = none ∧ row.state = .received ∧ row.attempts = 0 then some (s.putInbox row) else none
  | .repository row => some {s with repositories := s.repositories.put row.id row}
  | .webhook repositoryId branchName now => some (makeUnknownEffectDue repositoryId branchName now s)

abbrev TaskBranchLabel := Label TaskBranchTransaction TaskBranchEvent
abbrev TaskBranchSystem := System TaskBranchStore TaskBranchWorker

def taskBranchProgram (policy : SourceControlPolicy) :
    Program TaskBranchStore TaskBranchWorker TaskBranchTransaction TaskBranchEvent :=
  ⟨.idle,commitTaskBranch,taskBranchStep policy⟩

def taskBranchInitial : TaskBranchSystem := ⟨.initial,fun _ => .idle⟩

-- The attempt a worker acts for: the effect as it read or claimed it.
def TaskBranchWorker.attempt : TaskBranchWorker → Option BranchEffect
  | .planned _ _ effect | .creating _ _ effect | .finishing _ _ effect _ _ | .reconciling effect _
  | .judging effect _ _ | .checking effect _ _ | .lookingUp effect _ _ | .completing effect _ _ _
  | .calling effect _ _ | .marking effect _ _ _ => some effect
  | _ => none

-- The inbox claim a processor acts under; a request it has completed is not claimed again.
def TaskBranchWorker.request : TaskBranchWorker → Option BindingRequest
  | .requested request true | .known request true _ | .looked request true _ _ _ | .evaluating request _
  | .profiling request _ | .basing request _ | .refusing request _ | .closing request | .planning request _ _
  | .planned request _ _ | .creating request _ _ | .finishing request _ _ _ _ => some request
  | _ => none

-- Another worker has claimed the effect or the request since.
def superseded (s : TaskBranchStore) (memory : TaskBranchWorker) : Prop :=
  (memory.attempt.any fun effect => (s.effects effect.id).any fun row => effect.attempts < row.attempts) = true ∨
    (memory.request.any fun request => (s.inbox request.messageId).any fun row => request.attempts < row.attempts) = true

instance (s : TaskBranchStore) (memory : TaskBranchWorker) : Decidable (superseded s memory) :=
  inferInstanceAs (Decidable (_ ∨ _))

-- The row is as a commit looks for it that does not compare all attempts it acts under:
-- none in the processor but those of the effect it finishes, and none in a mark.
def admits (s : TaskBranchStore) : TaskBranchWorker → TaskBranchEvent → Bool
  | .looked request _ _ _ effect,.route _ =>
    effect.any (fun effect => effect.state ≠ .planned) && (s.inbox request.messageId).any fun row => row.state ≠ .processed
  | .closing request,.close _ => (s.inbox request.messageId).any fun row => row.state ≠ .processed
  | .planning _ context _,.plan _ => s.effect context.workItemId = none
  | .planned _ _ effect,.start _ => (s.effects effect.id).any fun row => row.state = .planned
  | .finishing _ _ effect _ _,.finish _ =>
    (s.effects effect.id).any fun row => row.state = .inFlight ∧ row.attempts = effect.attempts
  | .marking effect .unknown _ _,.mark _ => (s.effects effect.id).any fun row => row.state = .unknown
  | _,_ => false

-- Such a commit is not made by a worker whose claim was taken over.
def fenced (s : TaskBranchStore) (memory : TaskBranchWorker) (event : TaskBranchEvent) : Prop :=
  superseded s memory → admits s memory event = false

instance (s : TaskBranchStore) (memory : TaskBranchWorker) (event : TaskBranchEvent) : Decidable (fenced s memory event) :=
  inferInstanceAs (Decidable (_ → _))

end EngineeringPlatform.TaskBranch
