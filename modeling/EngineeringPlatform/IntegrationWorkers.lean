import EngineeringPlatform.IntegrationTransactions
import EngineeringPlatform.SharedWorkers
namespace EngineeringPlatform.Integration
open Checked SharedWorkers EngineeringPlatform.SourceControl

-- What a worker does after the effect in its hands.
inductive Rest where
  | done
  | reconcile (rest : List IntegrationEffect)
  | deliver (rest : List IntegrationEffect)
  deriving DecidableEq

-- A request of the inbox as the worker claimed or read it; `claimed` says which.
inductive CreateWorker where
  | requested (request : DeliveryRequest) (claimed : Bool)
  | looked (request : DeliveryRequest) (claimed : Bool) (branch : Option RepositoryBranchBinding)
      (effects : List IntegrationEffect)
  | admitting (request : DeliveryRequest) (branch : Option RepositoryBranchBinding)
      (existing : Option (IntegrationEffect × String))
  | preflighting (request : DeliveryRequest) (admission : Admission) (existing : Option (IntegrationEffect × String))
  | integrating (request : DeliveryRequest) (admission : Admission) (existing : Option (IntegrationEffect × String))
      (source : BranchSnapshot)
  | acquiring (request : DeliveryRequest) (admission : Admission) (headSha : String)
  | starting (request : DeliveryRequest) (admission : Admission) (effect : IntegrationEffect)
  | binding (request : DeliveryRequest) (admission : Admission) (effect : IntegrationEffect)
  | proving (request : DeliveryRequest) (admission : Admission) (effect : IntegrationEffect)
      (bound : List (String × Nat))
  | committing (request : DeliveryRequest) (admission : Admission) (effect : IntegrationEffect) (proof : ProviderProof)
  | resolving (request : DeliveryRequest) (effect : IntegrationEffect)
  | replaying (request : DeliveryRequest)
  deriving DecidableEq

-- `collided` says that the stored effect of the request was no use.
inductive MergeWorker where
  | requested (request : DeliveryRequest) (claimed : Bool)
  | replaying (request : DeliveryRequest) (claimed : Bool) (facts : StoredMergeFacts) (effect : IntegrationEffect)
  | admitting (request : DeliveryRequest) (stored : Option IntegrationEffect) (collided : Bool)
  | proving (request : DeliveryRequest) (admission : MergeAdmission) (stored : Option IntegrationEffect)
      (collided : Bool)
  | classifying (request : DeliveryRequest) (admission : MergeAdmission) (stored : Option IntegrationEffect)
      (proof : MergeProviderProof)
  | acquiring (request : DeliveryRequest) (admission : MergeAdmission) (proof : MergeProviderProof)
  | starting (request : DeliveryRequest) (admission : MergeAdmission) (proof : MergeProviderProof)
      (effect : IntegrationEffect)
  | merging (request : DeliveryRequest) (admission : MergeAdmission) (proof : MergeProviderProof)
      (effect : IntegrationEffect) (headSha : String)
  | committing (request : DeliveryRequest) (admission : MergeAdmission) (effect : IntegrationEffect)
      (readback : GitLabMergeRequestSnapshot)
  | resolving (request : DeliveryRequest) (admission : MergeAdmission) (effect : IntegrationEffect)
  deriving DecidableEq

inductive FinishWorker where
  | blocking (request : DeliveryRequest) (subject : CallbackSubject) (reason : SourceControlReason)
      (bindingId : Option Uuid)
  | conflicting (request : DeliveryRequest) (subject : CallbackSubject) (reason : SourceControlReason)
      (bindingId : Uuid) (readback : GitLabMergeRequestSnapshot)
  | refusing (request : DeliveryRequest) (subject : CallbackSubject) (reason : SourceControlReason)
      (bindingId : Option Uuid)
  | releasing (request : DeliveryRequest)
  | settling (request : DeliveryRequest) (subject : CallbackSubject) (effect : IntegrationEffect)
      (reason : SourceControlReason) (bindingId : Option Uuid)
      (readback : Option (Uuid × GitLabMergeRequestSnapshot))
  | unknowing (request : DeliveryRequest) (subject : CallbackSubject) (effect : IntegrationEffect)
      (bindingId : Option Uuid)
  deriving DecidableEq

inductive ReconcileWorker where
  | reconciling (effect : IntegrationEffect) (rest : List IntegrationEffect)
  | discovering (effect : IntegrationEffect) (context : CreateReconciliationContext) (rest : List IntegrationEffect)
  | renewingCreate (effect : IntegrationEffect) (context : CreateReconciliationContext)
      (rest : List IntegrationEffect)
  | retrying (effect : IntegrationEffect) (context : CreateReconciliationContext) (rest : List IntegrationEffect)
  | provingCreate (effect : IntegrationEffect) (context : CreateReconciliationContext) (iid : Nat)
      (origin : MergeRequestCreationOrigin) (rest : List IntegrationEffect)
  | completingCreate (effect : IntegrationEffect) (context : CreateReconciliationContext) (proof : ProviderProof)
      (rest : List IntegrationEffect)
  | proving (effect : IntegrationEffect) (context : MergeReconciliationContext) (rest : List IntegrationEffect)
  | renewingMerge (effect : IntegrationEffect) (context : MergeReconciliationContext) (proof : MergeProviderProof)
      (rest : List IntegrationEffect)
  | merging (effect : IntegrationEffect) (context : MergeReconciliationContext) (proof : MergeProviderProof)
      (rest : List IntegrationEffect)
  | completingMerge (effect : IntegrationEffect) (bindingId : Uuid) (snapshot : GitLabMergeRequestSnapshot)
      (reason : Option SourceControlReason) (rest : List IntegrationEffect)
  | blocking (effect : IntegrationEffect) (reason : SourceControlReason) (bindingId : Option Uuid)
      (rest : List IntegrationEffect)
  | unknowing (effect : IntegrationEffect) (rest : List IntegrationEffect)
  deriving DecidableEq

inductive CallWorker where
  | delivering (effects : List IntegrationEffect)
  | addressing (effect : IntegrationEffect) (notice : Option (CallbackKind × Option SourceControlReason))
      (bindingId : Option Uuid) (rest : Rest)
  | calling (effect : IntegrationEffect) (subject : CallbackSubject) (kind : CallbackKind)
      (reason : Option SourceControlReason) (bindingId : Option Uuid) (rest : Rest)
  deriving DecidableEq

inductive IntegrationWorker where
  | idle
  | create (worker : CreateWorker)
  | merge (worker : MergeWorker)
  | finish (worker : FinishWorker)
  | reconcile (worker : ReconcileWorker)
  | call (worker : CallWorker)
  deriving DecidableEq

-- Whether a commit that was reported as failed had been stored all the same.
inductive CommitFate where
  | committed
  | storedUnreported
  | failed
  deriving DecidableEq, Repr

inductive IntegrationEvent where
  | claimRequest (messageId : Uuid) (kind : DeliveryRequestKind) (claimRequired : Bool) (now : Time)
  | claimEffects (limit : Nat) (now : Time) (ids : List Uuid)
  | scan (ids : List Uuid)
  | look
  | route (now : Time)
  | admission (answers : AdmissionAnswers)
  | preflight (project : Except GitLabError GitLabProjectDeliveryProfile) (source : Except GitLabError BranchSnapshot)
  | acquire (env : AcquireEnvironment)
  | start (now : Time)
  | prove (answers : CreateAnswers)
  | proof (answers : MergeAnswers)
  | merge (answers : MergeCallAnswers)
  | commit (env : CompletionEnvironment) (fate : CommitFate)
  | record (env : CompletionEnvironment)
  | refuse (answer : CallbackAnswer) (now : Time)
  | discover (project : Except GitLabError GitLabProjectDeliveryProfile)
      (candidates : Except GitLabError (List GitLabMergeRequestSnapshot))
  | retry (context : RequirementBindingContext) (created : Except GitLabError GitLabMergeRequestLocator)
  | readback (readback : Except GitLabError GitLabMergeRequestSnapshot) (source : Except GitLabError BranchSnapshot)
  | context (context : RequirementDeliveryContext)
  | callback (answer : CallbackAnswer) (now : Time)

def nextReconciled : List IntegrationEffect → IntegrationWorker
  | [] => .idle
  | effect :: rest => .reconcile (.reconciling effect rest)

def Rest.next : Rest → IntegrationWorker
  | .done => .idle
  | .reconcile rest => nextReconciled rest
  | .deliver rest => .call (.delivering rest)

def blockingPreflight (request : DeliveryRequest) (subject : CallbackSubject) (reason : SourceControlReason)
    (bindingId : Option Uuid) : IntegrationWorker :=
  .finish (.blocking request subject reason bindingId)

-- The callback that tells the Requirement module of a settled effect.
def callOutcome (effect : IntegrationEffect) (subject : CallbackSubject) (bindingId : Option Uuid) : IntegrationWorker :=
  match effect.outcome with
  | some (kind,reason) => .call (.calling effect subject kind reason bindingId .done)
  | none => .idle

def callPending (effect : IntegrationEffect) (subject : CallbackSubject) (bindingId : Option Uuid) : IntegrationWorker :=
  .call (.calling effect subject .pending none bindingId .done)

def undecided (state : EffectState) : Bool :=
  state = .inFlight ∨ state = .unknown ∨ state = .reconciliation

end EngineeringPlatform.Integration
