import EngineeringPlatform.IntegrationAdmission
namespace EngineeringPlatform.Integration
open Checked ClaimedRows EngineeringPlatform.SourceControl

structure CompletionEnvironment where
  now : Time
  bindingId : Uuid
  observationId : Uuid

structure AcquireEnvironment where
  now : Time
  effectId : Uuid

-- The final state and the reason that a merge request proven in some state gives the
-- effect which created it.
def settledCreate : MergeRequestState → Option (EffectState × Option SourceControlReason)
  | .opened => some (.succeeded,none)
  | .closed => some (.blocked,some .mrClosed)
  | .merged => some (.blocked,some .externalMergeDrift)
  | .locked => none

def plannedEffect (env : AcquireEnvironment) (request : DeliveryRequest) (context : RequirementDeliveryContext)
    (operation : EffectOperation) (subject : EffectSubject) (payload : EffectPayload) : IntegrationEffect where
  id := env.effectId
  operation := operation
  subject := subject
  payload := payload
  workItemId := context.workItemId
  requirementId := context.requirementId
  repositoryId := context.repositoryId
  requestFingerprint := request.payloadHash
  attempts := 0
  state := .planned
  callbackState := .pending
  createdAt := env.now
  updatedAt := env.now

-- The effect of the subject, planned now if there is none.
def planEffect (effect : IntegrationEffect) (s : IntegrationStore) :
    Except IntegrationError (IntegrationStore × IntegrationEffect) :=
  match s.effectBySubject effect.operation effect.subject with
  | some row => pure (s,row)
  | none => (insertEffect effect s).map fun s => (s,effect)

-- `_acquire_in_flight_effect` up to its second transaction …
def acquireCreateEffect (env : AcquireEnvironment) (request : DeliveryRequest) (admission : Admission)
    (headSha : String) (s : IntegrationStore) : Except IntegrationError (IntegrationStore × IntegrationEffect) :=
  planEffect (plannedEffect env request admission.context .createIntegrationMr
    (createSubject admission.context.workItemId headSha) (.create admission.branchBindingId headSha)) s

def createEffectValid (request : DeliveryRequest) (admission : Admission) (headSha : String)
    (effect : IntegrationEffect) : Bool :=
  validatedEffectPayload effect (createSubject admission.context.workItemId headSha)
    admission.context.requirementId admission.context.repositoryId request.payloadHash admission.branchBindingId
    admission.context.workItemId = some headSha

def acquireMergeEffect (env : AcquireEnvironment) (request : DeliveryRequest) (admission : MergeAdmission)
    (headSha : String) (s : IntegrationStore) : Except IntegrationError (IntegrationStore × IntegrationEffect) :=
  planEffect (plannedEffect env request admission.context .mergeIntegrationMr
    (mergeEffectSubject admission.binding.id headSha) (.merge admission.binding.id headSha)) s

-- … and the second one: the claim of a planned effect.
def IntegrationEffect.start (now : Time) (row : IntegrationEffect) : IntegrationEffect :=
  {row with
    state := .inFlight, attempts := row.attempts + 1, nextReconcileAt := some (now + claimLease), updatedAt := now}

def startEffect (effect : IntegrationEffect) (now : Time) (s : IntegrationStore) :
    Option (IntegrationStore × IntegrationEffect) :=
  transitionEffect effect.id .planned effect.attempts (IntegrationEffect.start now) s

-- The columns of a settled effect. The first processing leaves the callback as it is …
def IntegrationEffect.settle (state : EffectState) (reason : Option SourceControlReason) (now : Time)
    (row : IntegrationEffect) : IntegrationEffect :=
  {row with
    state := state, lastErrorCode := reason, nextReconcileAt := none, completedAt := some now, updatedAt := now}

-- … and a reconciliation opens it again.
def IntegrationEffect.reconcile (state : EffectState) (reason : Option SourceControlReason) (now : Time)
    (row : IntegrationEffect) : IntegrationEffect :=
  {row.settle state reason now with callbackState := .pending}

def IntegrationEffect.unresolved (policy : IntegrationPolicy) (now : Time) (row : IntegrationEffect) :
    IntegrationEffect :=
  {row with
    state := .unknown, lastErrorCode := some .externalResultUnknown
    nextReconcileAt := some (policy.nextReconcileAt now row.attempts), updatedAt := now}

def leaseLost : IntegrationError := .requirementCallbackUnavailable "Integration MR effect lease was lost"

-- The binding of a proven merge request replaces the current one of its work item.
def replaceBinding (policy : IntegrationPolicy) (env : CompletionEnvironment) (binding : MergeRequestBinding)
    (snapshot : GitLabMergeRequestSnapshot) (s : IntegrationStore) :
    Except IntegrationError (IntegrationStore × Option MergeRequestObservation) := do
  let s ← insertMergeRequestBinding binding (supersedeCurrentIntegrationBinding binding.workItemId env.now s)
  pure (appendMergeRequestObservation (observation policy env.observationId binding.id snapshot env.now) s)

def provenBinding (env : CompletionEnvironment) (effectId workItemId requirementId workspaceId : Uuid)
    (repositoryId : String) (branchBindingId : Uuid) (proof : ProviderProof) : MergeRequestBinding where
  id := env.bindingId
  workItemId := workItemId
  requirementId := requirementId
  workspaceId := workspaceId
  repositoryId := repositoryId
  branchBindingId := branchBindingId
  externalProjectId := proof.snapshot.projectId
  mergeRequestIid := proof.snapshot.iid
  sourceBranch := proof.snapshot.sourceBranch
  targetBranch := proof.snapshot.targetBranch
  createEffectId := effectId
  headSha := proof.snapshot.headSha
  creationOrigin := proof.creationOrigin
  createdAt := env.now

def commitFinalFacts (policy : IntegrationPolicy) (env : CompletionEnvironment) (request : DeliveryRequest)
    (admission : Admission) (effect : IntegrationEffect) (proof : ProviderProof) (state : EffectState)
    (reason : Option SourceControlReason) (s : IntegrationStore) :
    Except IntegrationError (IntegrationStore × IntegrationEffect) := do
  let (s,observation) ← replaceBinding policy env (provenBinding env effect.id admission.context.workItemId
    admission.context.requirementId admission.context.workspaceId admission.context.repositoryId
    admission.branchBindingId proof) proof.snapshot s
  let (s,row) ← orRaise (transitionEffect effect.id .inFlight effect.attempts
    (IntegrationEffect.settle state reason env.now) s) leaseLost
  require (observation ≠ none) leaseLost
  let s ← completeDeliveryRequest request.messageId request.attempts env.now s
  pure (s,row)

def completeCreateReconciliation (policy : IntegrationPolicy) (env : CompletionEnvironment)
    (context : CreateReconciliationContext) (effect : IntegrationEffect) (proof : ProviderProof)
    (state : EffectState) (reason : Option SourceControlReason) (s : IntegrationStore) :
    Except IntegrationError (IntegrationStore × IntegrationEffect) := do
  let (s,observation) ← replaceBinding policy env (provenBinding env effect.id effect.workItemId effect.requirementId
    context.workspaceId effect.repositoryId context.branchBindingId proof) proof.snapshot s
  let (s,row) ← orRaise (transitionEffect effect.id .reconciliation effect.attempts
    (IntegrationEffect.reconcile state reason env.now) s)
    (.sourceControlDependencyUnavailable "Integration effect lease was lost")
  require (observation ≠ none) (.sourceControlDependencyUnavailable "Integration effect lease was lost")
  pure (s,row)

def appendReadback (policy : IntegrationPolicy) (env : CompletionEnvironment) (bindingId : Uuid)
    (readback : GitLabMergeRequestSnapshot) (s : IntegrationStore) :
    IntegrationStore × Option MergeRequestObservation :=
  appendMergeRequestObservation (observation policy env.observationId bindingId readback env.now) s

-- A fact of the provider recorded beside another write: a repeated one is refused.
def recordReadback (policy : IntegrationPolicy) (env : CompletionEnvironment)
    (readback : Option (Uuid × GitLabMergeRequestSnapshot)) (s : IntegrationStore) :
    Except IntegrationError IntegrationStore :=
  match readback with
  | none => pure s
  | some (bindingId,snapshot) =>
    match appendReadback policy env bindingId snapshot s with
    | (s,some _) => pure s
    | (_,none) => .error (.requirementCallbackUnavailable "Integration MR lease was lost")

def completeEffectBlock (policy : IntegrationPolicy) (env : CompletionEnvironment) (request : DeliveryRequest)
    (effect : IntegrationEffect) (reason : SourceControlReason)
    (readback : Option (Uuid × GitLabMergeRequestSnapshot)) (s : IntegrationStore) :
    Except IntegrationError (IntegrationStore × IntegrationEffect) := do
  let s ← recordReadback policy env readback s
  let (s,row) ← orRaise (transitionEffect effect.id effect.state effect.attempts
    (IntegrationEffect.settle .blocked (some reason) env.now) s) leaseLost
  let s ← completeDeliveryRequest request.messageId request.attempts env.now s
  pure (s,row)

def markUnknown (policy : IntegrationPolicy) (now : Time) (request : DeliveryRequest) (effect : IntegrationEffect)
    (s : IntegrationStore) : Except IntegrationError (IntegrationStore × IntegrationEffect) := do
  let (s,row) ← orRaise (transitionEffect effect.id .inFlight effect.attempts
    (IntegrationEffect.unresolved policy now) s) leaseLost
  let s ← completeDeliveryRequest request.messageId request.attempts now s
  pure (s,row)

def commitMergeSuccess (policy : IntegrationPolicy) (env : CompletionEnvironment) (request : DeliveryRequest)
    (bindingId : Uuid) (effect : IntegrationEffect) (readback : GitLabMergeRequestSnapshot) (s : IntegrationStore) :
    Except IntegrationError (IntegrationStore × IntegrationEffect) := do
  let s ← recordReadback policy env (some (bindingId,readback)) s
  let (s,row) ← orRaise (transitionEffect effect.id .inFlight effect.attempts
    (IntegrationEffect.settle .succeeded none env.now) s) leaseLost
  let s ← completeDeliveryRequest request.messageId request.attempts env.now s
  pure (s,row)

-- `_commit_external_merge_drift` and `_commit_proven_merge_conflict`, up to the callback.
def commitMergeFact (policy : IntegrationPolicy) (env : CompletionEnvironment) (request : DeliveryRequest)
    (bindingId : Uuid) (readback : GitLabMergeRequestSnapshot) (reason : SourceControlReason) (s : IntegrationStore) :
    Except IntegrationError IntegrationStore := do
  let s ← recordReadback policy env (some (bindingId,readback)) s
  recordPreflightOutcome request.messageId request.attempts reason env.now s

def IntegrationEffect.renew (now : Time) (row : IntegrationEffect) : IntegrationEffect :=
  {row with nextReconcileAt := some (now + claimLease), updatedAt := now}

def renewReconciliationLease (effect : IntegrationEffect) (now : Time) (s : IntegrationStore) :
    Option (IntegrationStore × IntegrationEffect) :=
  transitionEffect effect.id .reconciliation effect.attempts (IntegrationEffect.renew now) s

def returnReconciliationUnknown (policy : IntegrationPolicy) (effect : IntegrationEffect) (now : Time)
    (s : IntegrationStore) : IntegrationStore :=
  match transitionEffect effect.id .reconciliation effect.attempts (IntegrationEffect.unresolved policy now) s with
  | some (s,_) => s
  | none => s

def completeReconciliationBlock (effect : IntegrationEffect) (reason : SourceControlReason) (now : Time)
    (s : IntegrationStore) : Option (IntegrationStore × IntegrationEffect) :=
  transitionEffect effect.id .reconciliation effect.attempts
    (IntegrationEffect.reconcile .blocked (some reason) now) s

-- A merge fact that a reconciliation has seen before is taken as it was recorded.
def completeMergeReconciliation (policy : IntegrationPolicy) (env : CompletionEnvironment) (bindingId : Uuid)
    (effect : IntegrationEffect) (snapshot : GitLabMergeRequestSnapshot) (state : EffectState)
    (reason : Option SourceControlReason) (s : IntegrationStore) :
    Except IntegrationError (IntegrationStore × IntegrationEffect) := do
  let (s,observation) := appendReadback policy env bindingId snapshot s
  require (observation ≠ none ∨ (s.latestObservation bindingId).any fun row =>
      row.observationDigest = policy.observationDigest snapshot)
    (.sourceControlDependencyUnavailable "Integration merge observation is unavailable")
  orRaise (transitionEffect effect.id .reconciliation effect.attempts
    (IntegrationEffect.reconcile state reason env.now) s)
    (.sourceControlDependencyUnavailable "Integration merge lease was lost")

-- How the Requirement module answers a callback. The last is an accepted callback
-- whose acknowledgement is not recorded.
inductive CallbackAnswer where
  | accepted
  | refused
  | acceptedLost
  deriving DecidableEq, Repr

def callbackHasSubject (kind : CallbackKind) (bindingId : Option Uuid) (reason : Option SourceControlReason) : Bool :=
  match kind with
  | .ready | .merged | .externalDrift => bindingId ≠ none
  | .blocked => reason ≠ none
  | .pending => true

def IntegrationEffect.mark (callback : RequirementCallbackState) (now : Time) (row : IntegrationEffect) :
    IntegrationEffect :=
  {row with callbackState := callback, updatedAt := now}

-- `_record_effect_callback`: the row stays locked around the call. The second
-- component says whether it returned.
def recordEffectCallback (effect : IntegrationEffect) (callback : RequirementCallback) (answer : CallbackAnswer)
    (now : Time) (s : IntegrationStore) : IntegrationStore × Bool :=
  match s.effectBySubject effect.operation effect.subject with
  | none => (s,false)
  | some locked =>
    if locked.id ≠ effect.id ∨ locked.state ≠ effect.state ∨ locked.attempts ≠ effect.attempts then (s,false)
    else if locked.callbackState = .acked then (s,true)
    else if callbackHasSubject callback.kind callback.bindingId callback.reasonCode = false then (s,false)
    else match answer with
    | .accepted =>
      ({s.called callback with effects := s.effects.put locked.id (locked.mark .acked now)},true)
    | .refused => (s.putEffects (s.effects.put locked.id (locked.mark .failed now)),true)
    | .acceptedLost => (s.called callback,false)

-- `_finish_preflight_callback`, with the inbox row locked.
def finishPreflightCallback (messageId : Uuid) (attempts : Nat) (callback : RequirementCallback)
    (reason : SourceControlReason) (answer : CallbackAnswer) (now : Time) (s : IntegrationStore) :
    IntegrationStore :=
  match s.inbox messageId with
  | none => s
  | some row =>
    if row.state ≠ .processing ∨ row.attempts ≠ attempts ∨ row.lastErrorCode ≠ some reason then s
    else if callback.kind = .externalDrift ∧ callback.bindingId = none then s
    else match answer with
    | .refused => s
    | .acceptedLost => s.called callback
    | .accepted =>
      match completeDeliveryRequest messageId attempts now (s.called callback) with
      | .ok s => s
      | .error _ => s.called callback

end EngineeringPlatform.Integration
