import EngineeringPlatform.Checked
import EngineeringPlatform.IntegrationDomain
import EngineeringPlatform.RankedRows
namespace EngineeringPlatform.Integration
open Checked ClaimedRows EngineeringPlatform.SourceControl

-- What the provider answered about the merge request of a create effect.
structure ProviderProof where
  effectId : Uuid
  snapshot : GitLabMergeRequestSnapshot
  creationOrigin : MergeRequestCreationOrigin
  deriving DecidableEq

-- `outbox` and `revisions` belong to the Requirement module; `branches` is keyed by
-- the work item. `proofs` and `callbacks` are what the provider and the Requirement
-- module have said so far.
structure IntegrationStore where
  outbox : Table Uuid DeliveryPayload
  revisions : Uuid → Nat
  inbox : Table Uuid DeliveryRequest
  repositories : Table String WorkspaceRepository
  branches : Table Uuid RepositoryBranchBinding
  effects : Table Uuid IntegrationEffect
  effectIds : List Uuid
  bindings : List MergeRequestBinding
  observations : List MergeRequestObservation
  proofs : List ProviderProof
  callbacks : List RequirementCallback

def IntegrationStore.initial : IntegrationStore :=
  ⟨.empty,fun _ => 0,.empty,.empty,.empty,.empty,[],[],[],[],[]⟩

-- `timedelta(minutes=2)` and `timedelta(minutes=1)`
def claimLease : Nat := 120
def retryDelay : Nat := 60

def newerObservation (one two : MergeRequestObservation) : Bool :=
  two.observedAt < one.observedAt ∨ one.observedAt = two.observedAt ∧ two.id < one.id

namespace IntegrationStore
variable (s : IntegrationStore)

def effectRows : List IntegrationEffect := s.effectIds.filterMap s.effects
def effectBySubject (operation : EffectOperation) (subject : EffectSubject) : Option IntegrationEffect :=
  s.effectRows.find? fun row => row.operation = operation ∧ row.subject = subject
def effectsByFingerprint (operation : EffectOperation) (workItemId : Uuid) (fingerprint : String) :
    List IntegrationEffect :=
  (s.effectRows.filter fun row =>
    row.operation = operation ∧ row.workItemId = workItemId ∧ row.requestFingerprint = fingerprint).take 2
def bindingById (id : Uuid) : Option MergeRequestBinding := KeyedRows.find MergeRequestBinding.id s.bindings id
def bindingByEffect (effectId : Uuid) : Option MergeRequestBinding :=
  KeyedRows.find MergeRequestBinding.createEffectId s.bindings effectId
def currentBinding (workItemId : Uuid) : Option MergeRequestBinding :=
  s.bindings.find? fun row => row.workItemId = workItemId ∧ row.supersededAt = none
def bindingsOf (workItemId : Uuid) : List MergeRequestBinding :=
  s.bindings.filter fun row => row.workItemId = workItemId
def latestObservation (bindingId : Uuid) : Option MergeRequestObservation :=
  RankedRows.top newerObservation (s.observations.filter fun row => row.bindingId = bindingId)
def putInbox (row : DeliveryRequest) : IntegrationStore := {s with inbox := s.inbox.put row.messageId row}
def putEffects (rows : Table Uuid IntegrationEffect) : IntegrationStore := {s with effects := rows}
def called (callback : RequirementCallback) : IntegrationStore := {s with callbacks := s.callbacks ++ [callback]}

end IntegrationStore

def effectColumns : Columns IntegrationEffect EffectState := ⟨IntegrationEffect.state,IntegrationEffect.attempts⟩
def inboxColumns : Columns DeliveryRequest InboxState := ⟨DeliveryRequest.state,DeliveryRequest.attempts⟩

def DeliveryRequest.claim (now : Time) (row : DeliveryRequest) : DeliveryRequest :=
  {row with
    state := .processing, attempts := row.attempts + 1, availableAt := now + claimLease, updatedAt := now}

def DeliveryRequest.claimable (now : Time) (row : DeliveryRequest) : Bool :=
  row.availableAt ≤ now ∧ (row.state = .received ∨ row.state = .failed ∨ row.state = .processing)

def claimDeliveryRequest (messageId : Uuid) (kind : DeliveryRequestKind) (now : Time) (s : IntegrationStore) :
    Option (IntegrationStore × DeliveryRequest) :=
  match s.inbox messageId with
  | some row =>
    if row.kind = kind ∧ row.claimable now = true then
      some ({s with inbox := s.inbox.put messageId (row.claim now)},row.claim now)
    else none
  | none => none

-- UPDATE … WHERE message_id AND state='PROCESSING' AND attempts: every write of a
-- processing to its inbox row.
def updateDeliveryRequest (messageId : Uuid) (attempts : Nat) (change : DeliveryRequest → DeliveryRequest)
    (s : IntegrationStore) : Except IntegrationError IntegrationStore :=
  (orRaise (transition inboxColumns s.inbox messageId .processing (some attempts) change)
    (.requirementCallbackUnavailable "Integration MR inbox lease was lost")).map
    fun (rows,_) => {s with inbox := rows}

def DeliveryRequest.record (reason : SourceControlReason) (now : Time) (row : DeliveryRequest) : DeliveryRequest :=
  {row with lastErrorCode := some reason, updatedAt := now}

def DeliveryRequest.release (now : Time) (row : DeliveryRequest) : DeliveryRequest :=
  {row with
    state := .failed, availableAt := now + retryDelay, lastErrorCode := some .providerUnavailable, updatedAt := now}

def DeliveryRequest.complete (now : Time) (row : DeliveryRequest) : DeliveryRequest :=
  {row with state := .processed, processedAt := some now, updatedAt := now}

def recordPreflightOutcome (messageId : Uuid) (attempts : Nat) (reason : SourceControlReason) (now : Time) :
    IntegrationStore → Except IntegrationError IntegrationStore :=
  updateDeliveryRequest messageId attempts (DeliveryRequest.record reason now)

def releaseDeliveryRequest (messageId : Uuid) (attempts : Nat) (now : Time) :
    IntegrationStore → Except IntegrationError IntegrationStore :=
  updateDeliveryRequest messageId attempts (DeliveryRequest.release now)

def completeDeliveryRequest (messageId : Uuid) (attempts : Nat) (now : Time) :
    IntegrationStore → Except IntegrationError IntegrationStore :=
  updateDeliveryRequest messageId attempts (DeliveryRequest.complete now)

def transitionEffect (id : Uuid) (expected : EffectState) (attempts : Nat)
    (change : IntegrationEffect → IntegrationEffect) (s : IntegrationStore) :
    Option (IntegrationStore × IntegrationEffect) :=
  (transition effectColumns s.effects id expected (some attempts) change).map fun (rows,row) => (s.putEffects rows,row)

def insertEffect (row : IntegrationEffect) (s : IntegrationStore) : Except IntegrationError IntegrationStore := do
  require (s.effects row.id = none) (.integrityError "source_control_effect_pkey")
  require (s.effectBySubject row.operation row.subject = none)
    (.integrityError "uq_source_control_effect_operation_subject")
  pure {s with effects := s.effects.put row.id row, effectIds := s.effectIds ++ [row.id]}

def supersedeCurrentIntegrationBinding (workItemId : Uuid) (now : Time) (s : IntegrationStore) : IntegrationStore :=
  {s with bindings := s.bindings.map fun row =>
    if row.workItemId = workItemId ∧ row.supersededAt = none then {row with supersededAt := some now} else row}

def insertMergeRequestBinding (row : MergeRequestBinding) (s : IntegrationStore) :
    Except IntegrationError IntegrationStore := do
  require (s.bindingById row.id = none) (.integrityError "merge_request_binding_pkey")
  require (s.bindingByEffect row.createEffectId = none) (.integrityError "uq_source_control_mr_binding_effect")
  require (∀ other ∈ s.bindings,
      ¬(other.repositoryId = row.repositoryId ∧ other.mergeRequestIid = row.mergeRequestIid))
    (.integrityError "uq_source_control_mr_binding_external")
  require (s.currentBinding row.workItemId = none) (.integrityError "uq_sc_current_mr_binding_kind_work_item")
  pure {s with bindings := s.bindings ++ [row]}

def observation (policy : IntegrationPolicy) (id bindingId : Uuid) (snapshot : GitLabMergeRequestSnapshot)
    (now : Time) : MergeRequestObservation :=
  ⟨id,bindingId,snapshot.headSha,snapshot.state,snapshot.mergeCommitSha,snapshot.mergeUserId,snapshot.mergedAt,
    policy.observationDigest snapshot,now⟩

-- INSERT … ON CONFLICT (binding_id, observation_digest) DO NOTHING RETURNING *
def appendMergeRequestObservation (row : MergeRequestObservation) (s : IntegrationStore) :
    IntegrationStore × Option MergeRequestObservation :=
  if s.observations.any fun other =>
      other.bindingId = row.bindingId ∧ other.observationDigest = row.observationDigest then (s,none)
  else ({s with observations := s.observations ++ [row]},some row)

def DeliveryPayload.request (policy : IntegrationPolicy) (messageId : Uuid) (now : Time) (payload : DeliveryPayload) :
    DeliveryRequest where
  messageId := messageId
  kind := payload.kind
  payloadHash := policy.payloadHash payload
  requirementId := payload.requirementId
  requirementRevision := payload.requirementRevision
  workItemId := payload.workItemId
  workItemRevision := payload.workItemRevision
  repositoryId := payload.repositoryId
  actorId := payload.actorId
  integrationMergeRequestBindingId := payload.integrationMergeRequestBindingId
  state := .received
  attempts := 0
  availableAt := now
  receivedAt := now
  updatedAt := now

-- A command of the Requirement module raises the revision of its requirement and
-- requests a delivery at the new one.
def requestDelivery (messageId : Uuid) (payload : DeliveryPayload) (s : IntegrationStore) : Option IntegrationStore :=
  if s.outbox messageId = none ∧ payload.requirementRevision = s.revisions payload.requirementId + 1 then
    some {s with
      outbox := s.outbox.put messageId payload
      revisions := Function.update s.revisions payload.requirementId payload.requirementRevision}
  else none

def acceptDeliveryRequest (policy : IntegrationPolicy) (messageId : Uuid) (now : Time) (s : IntegrationStore) :
    Option IntegrationStore :=
  match s.inbox messageId,s.outbox messageId with
  | none,some payload => some (s.putInbox (payload.request policy messageId now))
  | _,_ => none

def reconcilable (now : Time) (row : IntegrationEffect) : Bool :=
  (row.state = .unknown ∨ row.state = .inFlight ∨ row.state = .reconciliation) ∧
    row.nextReconcileAt.any (· ≤ now) = true

def IntegrationEffect.claim (now : Time) (row : IntegrationEffect) : IntegrationEffect :=
  {row with
    state := .reconciliation, attempts := row.attempts + 1, nextReconcileAt := some (now + claimLease)
    updatedAt := now}

-- `ids` are the due rows the scan returned: a locked row is skipped.
def claimEffects (limit : Nat) (now : Time) (ids : List Uuid) (s : IntegrationStore) :
    Option (IntegrationStore × List IntegrationEffect) :=
  if ids.Nodup ∧ ids.length ≤ limit ∧ (∀ id ∈ ids, (s.effects id).any (reconcilable now) = true) then
    let rows := claimAll s.effects ids (IntegrationEffect.claim now)
    some (s.putEffects rows,ids.filterMap rows)
  else none

def IntegrationEffect.wake (now : Time) (row : IntegrationEffect) : IntegrationEffect :=
  {row with nextReconcileAt := some now, updatedAt := now}

-- `make_integration_effect_due`, as the webhook inbox calls it.
structure MergeRequestEvent where
  repositoryId : String
  projectId : String
  mrIid : Nat
  sourceBranch : String
  targetBranch : String

def MergeRequestEvent.matches (event : MergeRequestEvent) (s : IntegrationStore) (row : IntegrationEffect) : Bool :=
  let bound := s.bindings.filter fun binding =>
    binding.repositoryId = event.repositoryId ∧ binding.mergeRequestIid = event.mrIid
  match row.payload with
  | .merge bindingId _ => bound.any fun binding =>
      binding.id = bindingId ∧ binding.externalProjectId = event.projectId ∧
        binding.sourceBranch = event.sourceBranch ∧ binding.targetBranch = event.targetBranch
  | .create branchBindingId _ => bound.isEmpty && event.targetBranch = Integration.targetBranch &&
      (s.branches row.workItemId).any fun branch => branch.id = branchBindingId ∧
        branch.repositoryId = event.repositoryId ∧ branch.branchName = event.sourceBranch

def MergeRequestEvent.wakes (event : MergeRequestEvent) (s : IntegrationStore) (row : IntegrationEffect) : Bool :=
  row.repositoryId = event.repositoryId ∧ row.state = .unknown ∧ event.matches s row = true

def makeIntegrationEffectDue (event : MergeRequestEvent) (now : Time) (s : IntegrationStore) : IntegrationStore :=
  s.putEffects (s.effects.updateAll fun _ row =>
    if event.wakes s row = true then row.wake now else row)

end EngineeringPlatform.Integration
