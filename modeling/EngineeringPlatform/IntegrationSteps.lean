import EngineeringPlatform.IntegrationWorkers
namespace EngineeringPlatform.Integration
open Checked SharedWorkers EngineeringPlatform.SourceControl

abbrev Moved := IntegrationStore × IntegrationWorker

-- The only effect of a request, with the head of its payload when it is the request's own.
def existingEffect (request : DeliveryRequest) (branch : Option RepositoryBranchBinding) :
    List IntegrationEffect → Except Unit (Option (IntegrationEffect × String))
  | [] => .ok none
  | [effect] =>
    match branch.bind fun branch => validatedEffectPayload effect effect.subject request.requirementId
        request.repositoryId request.payloadHash branch.id request.workItemId with
    | some headSha => .ok (some (effect,headSha))
    | none => .error ()
  | _ => .error ()

def routeCreate (request : DeliveryRequest) (claimed : Bool) (branch : Option RepositoryBranchBinding)
    (effects : List IntegrationEffect) (now : Time) (s : IntegrationStore) : Moved :=
  match request.preflight with
  | some reason => (s,if claimed then blockingPreflight request request.subject reason none else .idle)
  | none =>
    match existingEffect request branch effects with
    | .error _ => (s,if claimed then blockingPreflight request request.subject .mrConflict none else .idle)
    | .ok existing =>
      if claimed = false then
        (s,if request.state = .processed ∧ existing ≠ none then .create (.replaying request) else .idle)
      else if existing.all (fun found => found.1.state = .planned) = true then
        (s,.create (.admitting request branch existing))
      else match completeDeliveryRequest request.messageId request.attempts now s with
        | .ok s => (s,.create (.replaying request))
        | .error _ => (s,.idle)

def admitCreate (request : DeliveryRequest) (branch : Option RepositoryBranchBinding)
    (existing : Option (IntegrationEffect × String)) (answers : AdmissionAnswers) (s : IntegrationStore) :
    IntegrationWorker :=
  match readAdmission request branch answers s with
  | .error _ => .idle
  | .ok (.error reason) => blockingPreflight request request.subject reason none
  | .ok (.ok admission) => .create (.preflighting request admission existing)

def headAlreadyIntegrated (workItemId : Uuid) (headSha : String) (s : IntegrationStore) : Bool :=
  (s.bindingsOf workItemId).any fun binding => binding.headSha = headSha ∧
    (s.latestObservation binding.id).any (fun row => row.state = .merged ∧ row.headSha = headSha) = true

def integrateCreate (request : DeliveryRequest) (admission : Admission)
    (existing : Option (IntegrationEffect × String)) (source : BranchSnapshot) (s : IntegrationStore) :
    IntegrationWorker :=
  if headAlreadyIntegrated admission.context.workItemId source.commitSha s = true then
    blockingPreflight request request.subject .noDeliveryCommit none
  else match existing with
  | some (effect,headSha) =>
    if headSha ≠ source.commitSha then
      .finish (.settling request admission.context.subject effect .headShaChanged none none)
    else .create (.acquiring request admission headSha)
  | none => .create (.acquiring request admission source.commitSha)

-- A commit that failed for another reason than a lost lease is looked up.
def commitCreate (policy : IntegrationPolicy) (env : CompletionEnvironment) (fate : CommitFate)
    (request : DeliveryRequest) (admission : Admission) (effect : IntegrationEffect) (proof : ProviderProof)
    (state : EffectState) (reason : Option SourceControlReason) (s : IntegrationStore) : Moved :=
  match commitFinalFacts policy env request admission effect proof state reason s,fate with
  | .ok (s,effect),.committed => (s,callOutcome effect request.subject (some env.bindingId))
  | .ok (s,_),.storedUnreported => (s,.create (.resolving request effect))
  | .ok _,.failed => (s,.create (.resolving request effect))
  | .error (.requirementCallbackUnavailable _),_ => (s,.idle)
  | .error _,_ => (s,.create (.resolving request effect))

-- `_resolve_atomic_fact_commit`
def resolveCreate (request : DeliveryRequest) (effect : IntegrationEffect) (s : IntegrationStore) :
    IntegrationWorker :=
  match s.effectBySubject .createIntegrationMr effect.subject,s.inbox request.messageId with
  | some persisted,some inbox =>
    match s.bindingByEffect effect.id with
    | some binding =>
      if persisted.state.terminal = true ∧ inbox.state = .processed ∧ s.latestObservation binding.id ≠ none then
        if persisted.state = .succeeded ∨ persisted.lastErrorCode = some .mrClosed ∨
            persisted.lastErrorCode = some .externalMergeDrift then
          callOutcome persisted request.subject (some binding.id)
        else .idle
      else if persisted.state = .inFlight then .finish (.unknowing request request.subject persisted none)
      else .idle
    | none =>
      if persisted.state = .inFlight then .finish (.unknowing request request.subject persisted none) else .idle
  | _,_ => .idle

-- `_replay_processed_request`
def replayCreate (request : DeliveryRequest) (s : IntegrationStore) : IntegrationWorker :=
  match s.effectsByFingerprint .createIntegrationMr request.workItemId request.payloadHash with
  | [effect] =>
    if effect.callbackState = .acked then .idle
    else if undecided effect.state = true then callPending effect request.subject none
    else callOutcome effect request.subject ((s.bindingByEffect effect.id).map MergeRequestBinding.id)
  | _ => .idle

def createStep (policy : IntegrationPolicy) (s : IntegrationStore) :
    CreateWorker → IntegrationEvent → Option Moved
  | .requested request claimed,.look =>
    some (s,.create (.looked request claimed (s.branches request.workItemId)
      (s.effectsByFingerprint .createIntegrationMr request.workItemId request.payloadHash)))
  | .looked request claimed branch effects,.route now => some (routeCreate request claimed branch effects now s)
  | .admitting request branch existing,.admission answers => some (s,admitCreate request branch existing answers s)
  | .preflighting request admission existing,.preflight project source =>
    some (s,match readProviderPreflight admission.repositoryProfile admission.taskBranch admission.baseCommitSha
        project source with
      | .ok source => .create (.integrating request admission existing source)
      | .error (.blocked reason _) => blockingPreflight request request.subject reason none
      | .error .unresolved => .finish (.releasing request)
      | .error .uncaught => .idle)
  | .integrating request admission existing source,.look =>
    some (s,integrateCreate request admission existing source s)
  | .acquiring request admission headSha,.acquire env =>
    some (match acquireCreateEffect env request admission headSha s with
      | .ok (s,effect) => (s,if createEffectValid request admission headSha effect = true then
          .create (.starting request admission effect)
        else blockingPreflight request request.subject .mrConflict none)
      | .error _ => (s,.idle))
  | .starting request admission effect,.start now =>
    some (match startEffect effect now s with
      | some (s,effect) => (s,.create (.binding request admission effect))
      | none => (s,.idle))
  | .binding request admission effect,.look =>
    some (s,.create (.proving request admission effect (boundMergeRequests admission.context.workItemId s)))
  | .proving request admission effect bound,.prove answers =>
    some (match proveCreatedOrAdoptedMergeRequest admission.repositoryProfile admission.taskBranch bound answers with
      | .ok (snapshot,origin) =>
        let proof := ⟨effect.id,snapshot,origin⟩
        ({s with proofs := s.proofs ++ [proof]},.create (.committing request admission effect proof))
      | .error (.blocked reason _) =>
        (s,.finish (.settling request admission.context.subject effect reason none none))
      | .error .unresolved => (s,.finish (.unknowing request admission.context.subject effect none))
      | .error .uncaught => (s,.idle))
  | .committing request admission effect proof,.commit env fate =>
    (settledCreate proof.snapshot.state).map fun (state,reason) =>
      commitCreate policy env fate request admission effect proof state reason s
  | .resolving request effect,.look => some (s,resolveCreate request effect s)
  | .replaying request,.look => some (s,replayCreate request s)
  | _,_ => none

def routeMerge (request : DeliveryRequest) (claimed : Bool) (s : IntegrationStore) : IntegrationWorker :=
  match request.preflight with
  | some reason =>
    match readStoredMergeFacts request false s with
    | .error _ => .idle
    | .ok facts =>
      if claimed then .finish (.refusing request request.subject reason (some facts.binding.id)) else .idle
  | none =>
    match readStoredMergeFacts request true s with
    | .error .effectCollision => if claimed then .merge (.admitting request none true) else .idle
    | .error _ => .idle
    | .ok facts =>
      match facts.effect.filter fun effect => effect.state ≠ .planned with
      | some effect =>
        if claimed = false ∧ request.state ≠ .processed then .idle
        else .merge (.replaying request claimed facts effect)
      | none => if claimed then .merge (.admitting request facts.effect false) else .idle

-- `_replay_merge_effect`, once its request is complete.
def replayMerge (request : DeliveryRequest) (bindingId : Uuid) (effect : IntegrationEffect) : IntegrationWorker :=
  if effect.callbackState = .acked then .idle
  else if undecided effect.state = true then callPending effect request.subject (some bindingId)
  else callOutcome effect request.subject (some bindingId)

def mergeConflict (request : DeliveryRequest) (admission : MergeAdmission)
    (mergeRequest : GitLabMergeRequestSnapshot) : IntegrationWorker :=
  if mergeRequest.state = .merged then
    .finish (.conflicting request admission.context.subject .mrConflict admission.binding.id mergeRequest)
  else blockingPreflight request admission.context.subject .mrConflict (some admission.binding.id)

def admitMerge (request : DeliveryRequest) (stored : Option IntegrationEffect) (collided : Bool)
    (answers : AdmissionAnswers) (s : IntegrationStore) : IntegrationWorker :=
  match readMergeAdmission request answers s with
  | .error _ => .idle
  | .ok admission =>
    match admission.blockedReason with
    | none => .merge (.proving request admission stored collided)
    | some reason => blockingPreflight request admission.context.subject
        (if collided then .mrConflict else reason) (some admission.binding.id)

def proveMerge (request : DeliveryRequest) (admission : MergeAdmission) (stored : Option IntegrationEffect)
    (collided : Bool) (answers : MergeAnswers) : IntegrationWorker :=
  match readMergeProviderProof admission.repositoryProfile admission.binding answers with
  | .ok proof =>
    if collided then mergeConflict request admission proof.mergeRequest
    else .merge (.classifying request admission stored proof)
  | .error (.blocked reason _) => blockingPreflight request admission.context.subject
      (if collided then .mrConflict else reason) (some admission.binding.id)
  | .error .unresolved =>
    if collided then blockingPreflight request admission.context.subject .mrConflict (some admission.binding.id)
    else .finish (.releasing request)
  | .error .uncaught => .idle

def settleMerge (request : DeliveryRequest) (admission : MergeAdmission) (effect : IntegrationEffect)
    (reason : SourceControlReason) (readback : Option GitLabMergeRequestSnapshot) : IntegrationWorker :=
  .finish (.settling request admission.context.subject effect reason (some admission.binding.id)
    (readback.map fun readback => (admission.binding.id,readback)))

-- A stored effect of a merged request whose source branch is gone was merged by it.
def mergeProviderReason (proof : MergeProviderProof) (existing : Option IntegrationEffect) :
    Option SourceControlReason :=
  if providerBlockReason proof.mergeRequest = some .externalMergeDrift ∧ proof.source = none ∧ existing ≠ none then
    some .sourceBranchMissingAfterIntegration
  else providerBlockReason proof.mergeRequest

def mergedReadback (mergeRequest : GitLabMergeRequestSnapshot) : Option GitLabMergeRequestSnapshot :=
  if mergeRequest.state = .merged then some mergeRequest else none

def decideMerge (request : DeliveryRequest) (admission : MergeAdmission) (proof : MergeProviderProof)
    (existing : Option IntegrationEffect) : IntegrationWorker :=
  match existing,mergeProviderReason proof existing with
  | some effect,some reason =>
    settleMerge request admission effect reason
      (if reason = .externalMergeDrift ∨ reason = .sourceBranchMissingAfterIntegration then some proof.mergeRequest
        else none)
  | none,some reason =>
    if reason = .externalMergeDrift then
      .finish (.conflicting request admission.context.subject reason admission.binding.id proof.mergeRequest)
    else blockingPreflight request admission.context.subject reason (some admission.binding.id)
  | _,none => .merge (.acquiring request admission proof)

def classifyMerge (request : DeliveryRequest) (admission : MergeAdmission) (stored : Option IntegrationEffect)
    (proof : MergeProviderProof) (s : IntegrationStore) : IntegrationWorker :=
  match classifyCurrentMergeEffect request admission proof.currentHeadSha stored s with
  | .error _ => mergeConflict request admission proof.mergeRequest
  | .ok none => decideMerge request admission proof none
  | .ok (some effect) =>
    if effect.state ≠ .planned then .idle
    else if validatedMergeEffect effect admission request.payloadHash ≠ some proof.currentHeadSha then
      settleMerge request admission effect .headShaChanged (mergedReadback proof.mergeRequest)
    else decideMerge request admission proof (some effect)

def commitMerge (policy : IntegrationPolicy) (env : CompletionEnvironment) (fate : CommitFate)
    (request : DeliveryRequest) (admission : MergeAdmission) (effect : IntegrationEffect)
    (readback : GitLabMergeRequestSnapshot) (s : IntegrationStore) : Moved :=
  match commitMergeSuccess policy env request admission.binding.id effect readback s,fate with
  | .ok (s,effect),.committed => (s,callOutcome effect admission.context.subject (some admission.binding.id))
  | .ok (s,_),.storedUnreported => (s,.merge (.resolving request admission effect))
  | _,_ => (s,.merge (.resolving request admission effect))

-- `_resolve_merge_fact_commit`
def resolveMerge (request : DeliveryRequest) (admission : MergeAdmission) (effect : IntegrationEffect)
    (s : IntegrationStore) : IntegrationWorker :=
  match s.inbox request.messageId with
  | none => .idle
  | some inbox =>
    match readStoredMergeFacts inbox true s with
    | .error _ => .idle
    | .ok facts =>
      match facts.effect with
      | none => .idle
      | some persisted =>
        if persisted.state.terminal = true ∧ inbox.state = .processed then
          replayMerge inbox facts.binding.id persisted
        else if persisted.id = effect.id ∧ persisted.state = .inFlight ∧ persisted.attempts = effect.attempts ∧
            inbox.state = .processing ∧ inbox.attempts = request.attempts then
          .finish (.unknowing request admission.context.subject persisted (some admission.binding.id))
        else .idle

def mergeStep (policy : IntegrationPolicy) (s : IntegrationStore) :
    MergeWorker → IntegrationEvent → Option Moved
  | .requested request claimed,.look => some (s,routeMerge request claimed s)
  | .replaying request claimed facts effect,.route now =>
    some (if claimed then
        match completeDeliveryRequest request.messageId request.attempts now s with
        | .ok s => (s,replayMerge request facts.binding.id effect)
        | .error _ => (s,.idle)
      else (s,replayMerge request facts.binding.id effect))
  | .admitting request stored collided,.admission answers => some (s,admitMerge request stored collided answers s)
  | .proving request admission stored collided,.proof answers =>
    some (s,proveMerge request admission stored collided answers)
  | .classifying request admission stored proof,.look => some (s,classifyMerge request admission stored proof s)
  | .acquiring request admission proof,.acquire env =>
    some (match acquireMergeEffect env request admission proof.currentHeadSha s with
      | .ok (s,effect) =>
        (s,if validatedMergeEffect effect admission request.payloadHash = some proof.currentHeadSha then
            .merge (.starting request admission proof effect)
          else mergeConflict request admission proof.mergeRequest)
      | .error _ => (s,.idle))
  | .starting request admission proof effect,.start now =>
    some (match startEffect effect now s with
      | some (s,effect) => (s,match effect.payload with
        | .merge _ headSha => .merge (.merging request admission proof effect headSha)
        | .create _ _ => .idle)
      | none => (s,.idle))
  | .merging request admission proof effect headSha,.merge answers =>
    some (s,match mergeExactHead admission.binding headSha proof.mergeRequest answers with
      | .ok readback => .merge (.committing request admission effect readback)
      | .error (.blocked reason readback) => settleMerge request admission effect reason readback
      | .error .unresolved =>
        .finish (.unknowing request admission.context.subject effect (some admission.binding.id))
      | .error .uncaught => .idle)
  | .committing request admission effect readback,.commit env fate =>
    some (commitMerge policy env fate request admission effect readback s)
  | .resolving request admission effect,.look => some (s,resolveMerge request admission effect s)
  | _,_ => none

def finishStep (policy : IntegrationPolicy) (s : IntegrationStore) :
    FinishWorker → IntegrationEvent → Option Moved
  | .blocking request subject reason bindingId,.record env =>
    some (match recordPreflightOutcome request.messageId request.attempts reason env.now s with
      | .ok s => (s,.finish (.refusing request subject reason bindingId))
      | .error _ => (s,.idle))
  | .conflicting request subject reason bindingId readback,.record env =>
    some (match commitMergeFact policy env request bindingId readback reason s with
      | .ok s => (s,.finish (.refusing request subject reason (some bindingId)))
      | .error _ => (s,.idle))
  -- `EXTERNAL_MERGE_DRIFT` is recorded for a proven drift only, which has its own callback.
  | .refusing request subject reason bindingId,.refuse answer now =>
    some (finishPreflightCallback request.messageId request.attempts
      ⟨.message request.messageId,subject,blockedKind reason,bindingId,some reason⟩ reason answer now s,.idle)
  | .releasing request,.record env =>
    some (match releaseDeliveryRequest request.messageId request.attempts env.now s with
      | .ok s => (s,.idle)
      | .error _ => (s,.idle))
  | .settling request subject effect reason bindingId readback,.record env =>
    some (match completeEffectBlock policy env request effect reason readback s with
      | .ok (s,effect) => (s,callOutcome effect subject bindingId)
      | .error _ => (s,.idle))
  | .unknowing request subject effect bindingId,.record env =>
    some (match markUnknown policy env.now request effect s with
      | .ok (s,effect) => (s,callPending effect subject bindingId)
      | .error _ => (s,.idle))
  | _,_ => none

end EngineeringPlatform.Integration
