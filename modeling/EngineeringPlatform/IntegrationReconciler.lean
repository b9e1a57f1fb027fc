import EngineeringPlatform.IntegrationSteps
namespace EngineeringPlatform.Integration
open Checked SharedWorkers EngineeringPlatform.SourceControl

-- A reconciled outcome is called back when the worker recorded it itself.
def callReconciled (recorded : Option (IntegrationStore × IntegrationEffect)) (s : IntegrationStore)
    (notice : IntegrationEffect → CallbackKind × Option SourceControlReason) (bindingId : Option Uuid)
    (rest : List IntegrationEffect) : Moved :=
  match recorded with
  | some (s,effect) => (s,.call (.addressing effect (some (notice effect)) bindingId (.reconcile rest)))
  | none => (s,nextReconciled rest)

-- `deliver_create_completion`
def createNotice (reason : Option SourceControlReason) (effect : IntegrationEffect) :
    CallbackKind × Option SourceControlReason :=
  if effect.state = .succeeded then (.ready,reason)
  else if reason = some .externalMergeDrift then (.externalDrift,reason)
  else (.blocked,reason)

-- `deliver_merge_completion`
def mergeNotice (reason : Option SourceControlReason) (effect : IntegrationEffect) :
    CallbackKind × Option SourceControlReason :=
  if effect.state = .succeeded then (.merged,reason) else (.blocked,reason)

def failReconciliation (effect : IntegrationEffect) (bindingId : Option Uuid) (rest : List IntegrationEffect) :
    ProviderFailure → IntegrationWorker
  | .blocked reason _ => .reconcile (.blocking effect reason bindingId rest)
  | .unresolved => .reconcile (.unknowing effect rest)
  | .uncaught => .idle

-- What a proof of the merge request decides before any call is made.
def reconcileMergeProof (effect : IntegrationEffect) (context : MergeReconciliationContext)
    (proof : MergeProviderProof) (rest : List IntegrationEffect) : IntegrationWorker :=
  if proof.mergeRequest.headSha ≠ context.requestedHeadSha then
    .reconcile (.blocking effect .headShaChanged (some context.binding.id) rest)
  else if proof.mergeRequest.state = .merged then
    .reconcile (.completingMerge effect context.binding.id proof.mergeRequest
      (if proof.source = none then some .sourceBranchMissingAfterIntegration else none) rest)
  else match providerBlockReason proof.mergeRequest with
    | some reason => .reconcile (.completingMerge effect context.binding.id proof.mergeRequest (some reason) rest)
    | none => .reconcile (.renewingMerge effect context proof rest)

def reconcileMergeCall (effect : IntegrationEffect) (context : MergeReconciliationContext)
    (rest : List IntegrationEffect) : Except ProviderFailure GitLabMergeRequestSnapshot → IntegrationWorker
  | .ok readback => .reconcile (.completingMerge effect context.binding.id readback none rest)
  | .error (.blocked reason (some readback)) =>
    .reconcile (.completingMerge effect context.binding.id readback (some reason) rest)
  | .error failure => failReconciliation effect (some context.binding.id) rest failure

def settledState (reason : Option SourceControlReason) : EffectState :=
  match reason with
  | none => .succeeded
  | some _ => .blocked

def reconcileStep (policy : IntegrationPolicy) (s : IntegrationStore) :
    ReconcileWorker → IntegrationEvent → Option Moved
  | .reconciling effect rest,.look =>
    some (s,match effect.operation with
      | .createIntegrationMr =>
        match readCreateReconciliationContext effect s with
        | .ok context => .reconcile (.discovering effect context rest)
        | .error reason => .reconcile (.blocking effect reason none rest)
      | .mergeIntegrationMr =>
        match readMergeReconciliationContext effect s with
        | .ok context => .reconcile (.proving effect context rest)
        | .error reason => .reconcile (.blocking effect reason none rest))
  | .discovering effect context rest,.discover project candidates =>
    some (s,match discoverCreateCandidate context.profile context.sourceBranch context.boundMergeRequests
        project candidates with
      | .ok none => .reconcile (.renewingCreate effect context rest)
      | .ok (some candidate) => .reconcile (.provingCreate effect context candidate.iid .externalAdopted rest)
      | .error failure => failReconciliation effect none rest failure)
  | .renewingCreate effect context rest,.start now =>
    some (match renewReconciliationLease effect now s with
      | some (s,effect) => (s,.reconcile (.retrying effect context rest))
      | none => (s,.reconcile (.unknowing effect rest)))
  | .retrying effect context rest,.retry bindingContext created =>
    some (s,match retryCreateMergeRequest context.profile context.sourceBranch context.workspaceId effect
        bindingContext created with
      | .ok iid => .reconcile (.provingCreate effect context iid .platformCreated rest)
      | .error failure => failReconciliation effect none rest failure)
  | .provingCreate effect context iid origin rest,.readback readback source =>
    some (match proveCreateMergeRequest context.profile context.sourceBranch iid readback source with
      | .ok snapshot =>
        let proof := ⟨effect.id,snapshot,origin⟩
        ({s with proofs := s.proofs ++ [proof]},.reconcile (.completingCreate effect context proof rest))
      | .error failure => (s,failReconciliation effect none rest failure))
  | .completingCreate effect context proof rest,.record env =>
    some (match settledCreate proof.snapshot.state with
      | some (state,reason) =>
        callReconciled (completeCreateReconciliation policy env context effect proof state reason s).toOption s
          (createNotice reason) (some env.bindingId) rest
      | none => (s,.reconcile (.unknowing effect rest)))
  | .proving effect context rest,.proof answers =>
    some (s,match readMergeProviderProof context.repositoryProfile context.binding answers with
      | .ok proof => reconcileMergeProof effect context proof rest
      | .error failure => failReconciliation effect (some context.binding.id) rest failure)
  | .renewingMerge effect context proof rest,.start now =>
    some (match renewReconciliationLease effect now s with
      | some (s,effect) => (s,.reconcile (.merging effect context proof rest))
      | none => (s,.reconcile (.unknowing effect rest)))
  | .merging effect context proof rest,.merge answers =>
    some (s,reconcileMergeCall effect context rest
      (mergeExactHead context.binding context.requestedHeadSha proof.mergeRequest answers))
  | .completingMerge effect bindingId snapshot reason rest,.record env =>
    some (callReconciled (completeMergeReconciliation policy env bindingId effect snapshot (settledState reason) reason
      s).toOption s (mergeNotice reason) (some bindingId) rest)
  | .blocking effect reason bindingId rest,.record env =>
    some (callReconciled (completeReconciliationBlock effect reason env.now s) s
      (fun _ => (blockedKind reason,some reason)) bindingId rest)
  | .unknowing effect rest,.record env =>
    some (returnReconciliationUnknown policy effect env.now s,nextReconciled rest)
  | _,_ => none

def pendingCallback (row : IntegrationEffect) : Bool :=
  (row.state = .succeeded ∨ row.state = .blocked) ∧ row.callbackState ≠ .acked

def replayBinding (effect : IntegrationEffect) (s : IntegrationStore) : Option MergeRequestBinding :=
  match effect.operation,effect.payload with
  | .createIntegrationMr,_ => s.bindingByEffect effect.id
  | .mergeIntegrationMr,.merge bindingId _ => s.bindingById bindingId
  | .mergeIntegrationMr,.create _ _ => none

-- `replay_pending_integration_callbacks`: what is retried for one effect.
def replayNotice (effect : IntegrationEffect) (binding : Option MergeRequestBinding) :
    Option (CallbackKind × Option SourceControlReason) :=
  if effect.state = .succeeded ∧ binding = none then none else effect.outcome

def sameCoordinates (effect : IntegrationEffect) (context : RequirementDeliveryContext) : Bool :=
  context.workItemId = effect.workItemId ∧ context.requirementId = effect.requirementId ∧
    context.repositoryId = effect.repositoryId

-- An effect whose notice is missing is passed over; a blocked one without a reason
-- ends the batch.
def addressCallback (effect : IntegrationEffect) (notice : Option (CallbackKind × Option SourceControlReason))
    (bindingId : Option Uuid) (rest : Rest) (context : RequirementDeliveryContext) : IntegrationWorker :=
  if sameCoordinates effect context = false then rest.next
  else match notice with
  | some (kind,reason) => .call (.calling effect context.subject kind reason bindingId rest)
  | none => if effect.state = .blocked then .idle else rest.next

def callStep (s : IntegrationStore) : CallWorker → IntegrationEvent → Option Moved
  | .delivering [],.look => some (s,.idle)
  | .delivering (effect :: rest),.look =>
    some (s,.call (.addressing effect (replayNotice effect (replayBinding effect s))
      ((replayBinding effect s).map MergeRequestBinding.id) (.deliver rest)))
  | .addressing effect notice bindingId rest,.context context =>
    some (s,addressCallback effect notice bindingId rest context)
  | .calling effect subject kind reason bindingId rest,.callback answer now =>
    let (s,returned) := recordEffectCallback effect ⟨.effect effect.id,subject,kind,bindingId,reason⟩ answer now s
    some (s,if returned then rest.next else .idle)
  | _,_ => none

def claimRequest (messageId : Uuid) (kind : DeliveryRequestKind) (claimRequired : Bool) (now : Time)
    (s : IntegrationStore) : Option Moved :=
  let requested (request : DeliveryRequest) (claimed : Bool) : IntegrationWorker :=
    match kind with
    | .createMr => .create (.requested request claimed)
    | .mergeMr => .merge (.requested request claimed)
  match claimDeliveryRequest messageId kind now s with
  | some (s,request) => some (s,requested request true)
  | none => (s.inbox messageId).map fun request =>
    (s,if request.kind ≠ kind ∨ claimRequired = true then .idle else requested request false)

def integrationStep (policy : IntegrationPolicy) (s : IntegrationStore) :
    IntegrationWorker → IntegrationEvent → Option Moved
  | .idle,.claimRequest messageId kind claimRequired now => claimRequest messageId kind claimRequired now s
  | .idle,.claimEffects limit now ids =>
    (claimEffects limit now ids s).map fun (s,claimed) => (s,nextReconciled claimed)
  | .idle,.scan ids => some (s,.call (.delivering ((ids.filterMap s.effects).filter pendingCallback)))
  | .idle,_ => none
  | .create worker,event => createStep policy s worker event
  | .merge worker,event => mergeStep policy s worker event
  | .finish worker,event => finishStep policy s worker event
  | .reconcile worker,event => reconcileStep policy s worker event
  | .call worker,event => callStep s worker event

-- What others write: the Requirement module its outbox, the commands the repositories,
-- the branch saga the bindings of branches, the webhook inbox the next reconciliation.
inductive IntegrationTransaction where
  | request (messageId : Uuid) (payload : DeliveryPayload)
  | accept (messageId : Uuid) (now : Time)
  | repository (row : WorkspaceRepository)
  | branch (row : RepositoryBranchBinding)
  | webhook (event : MergeRequestEvent) (now : Time)

def commitIntegration (policy : IntegrationPolicy) (s : IntegrationStore) :
    IntegrationTransaction → Option IntegrationStore
  | .request messageId payload => requestDelivery messageId payload s
  | .accept messageId now => acceptDeliveryRequest policy messageId now s
  | .repository row => some {s with repositories := s.repositories.put row.id row}
  | .branch row =>
    if s.branches row.workItemId = none then some {s with branches := s.branches.put row.workItemId row} else none
  | .webhook event now => some (makeIntegrationEffectDue event now s)

abbrev IntegrationSystem := System IntegrationStore IntegrationWorker

def integrationProgram (policy : IntegrationPolicy) :
    Program IntegrationStore IntegrationWorker IntegrationTransaction IntegrationEvent :=
  ⟨.idle,commitIntegration policy,integrationStep policy⟩

def integrationInitial : IntegrationSystem := ⟨.initial,fun _ => .idle⟩

end EngineeringPlatform.Integration
