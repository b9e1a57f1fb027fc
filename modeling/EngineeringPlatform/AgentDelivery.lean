import EngineeringPlatform.Checked
import EngineeringPlatform.KeyedRows
import EngineeringPlatform.SharedWorkers
import EngineeringPlatform.SourceControlDomain
namespace EngineeringPlatform.Delivery
open Checked ClaimedRows SharedWorkers EngineeringPlatform.SourceControl

inductive AgentPushState where
  | authorized
  | inFlight
  | unknown
  | reconciliation
  | succeeded
  | blocked
  | fenced
  deriving DecidableEq, Repr

def AgentPushState.terminal : AgentPushState → Bool
  | .succeeded | .blocked | .fenced => true
  | _ => false

inductive AgentDeliveryFactTopic where
  | confirmed
  | fenced
  deriving DecidableEq, Repr

inductive RevocationState where
  | pending
  | unknown
  | succeeded
  deriving DecidableEq, Repr

inductive DeliveryError where
  | invalidAgentPushGrant (message : String)
  | agentPushBindingRejected
  | agentPushIdempotencyConflict (message : String)
  | agentPushNotFound
  | integrityError (constraint : String)
  deriving DecidableEq

structure AgentPushRequestSpec where
  idempotencyKey : String
  correlationId : String
  attemptId : Uuid
  attemptGeneration : Nat
  requirementId : Uuid
  workItemId : Uuid
  workspaceId : Uuid
  repositoryId : String
  branchBindingId : Uuid
  branchName : String
  expectedRemoteHeadSha : String
  targetCommitSha : String
  contentDigest : String
  artifactRefs : List String
  expiresAt : Time
  deriving DecidableEq

structure AgentExecutionBindingSnapshot where
  attemptId : Uuid
  attemptGeneration : Nat
  executionBindingDigest : String
  requirementId : Uuid
  workItemId : Uuid
  workspaceId : Uuid
  repositoryId : String
  branchBindingId : Uuid
  branchName : String
  active : Bool
  fenced : Bool
  deriving DecidableEq

def AgentExecutionBindingSnapshot.matches (binding : AgentExecutionBindingSnapshot)
    (spec : AgentPushRequestSpec) : Bool :=
  binding.active = true ∧ binding.fenced = false ∧ binding.attemptId = spec.attemptId ∧
    binding.attemptGeneration = spec.attemptGeneration ∧ binding.requirementId = spec.requirementId ∧
    binding.workItemId = spec.workItemId ∧ binding.workspaceId = spec.workspaceId ∧
    binding.repositoryId = spec.repositoryId ∧ binding.branchBindingId = spec.branchBindingId ∧
    binding.branchName = spec.branchName

-- The columns copied from the request are kept together, as `_spec_from_row`
-- reads them back.
structure AgentPushRequest where
  id : Uuid
  spec : AgentPushRequestSpec
  requestFingerprint : String
  executionBindingDigest : String
  grantDigest : String
  state : AgentPushState
  attempts : Nat
  issuedAt : Time
  nextReconcileAt : Option Time := none
  consumedAt : Option Time := none
  observedAt : Option Time := none
  completedAt : Option Time := none
  remoteHeadSha : Option String := none
  lastErrorCode : Option String := none
  createdAt : Time
  updatedAt : Time
  deriving DecidableEq

structure AgentDeliveryFence where
  attemptId : Uuid
  fencedGeneration : Nat
  reasonCode : String
  correlationId : String
  revocationState : RevocationState
  revokeAttempts : Nat
  nextRevokeAt : Option Time
  createdAt : Time
  updatedAt : Time
  deriving DecidableEq

structure AgentDeliveryFactPayload where
  attemptId : Uuid
  attemptGeneration : Nat
  requirementId : Uuid
  workItemId : Uuid
  workspaceId : Uuid
  repositoryId : String
  branchBindingId : Uuid
  branchName : String
  targetCommitSha : String
  contentDigest : String
  artifactRefs : List String
  executorType : String
  correlationId : String
  observedAt : Time
  reasonCode : Option String
  deriving DecidableEq

structure AgentDeliveryFact where
  id : Uuid
  pushRequestId : Uuid
  topic : AgentDeliveryFactTopic
  payload : AgentDeliveryFactPayload
  correlationId : String
  occurredAt : Time
  deriving DecidableEq

-- SHA-256 of the request and of the grant; a blank grant has no digest.
structure DeliveryCryptography where
  requestFingerprint : AgentPushRequestSpec → String
  grantDigest : String → Option String

structure AgentDeliveryPolicy where
  maxPushGrantTtl : Nat
  nextReconcileAt : Time → Nat → Time

abbrev Coordinate := Uuid × String × String × String × String

def AgentPushRequestSpec.coordinate (spec : AgentPushRequestSpec) : Coordinate :=
  (spec.attemptId,spec.repositoryId,spec.branchName,spec.targetCommitSha,spec.contentDigest)

-- One successful consumption of a grant, with the fence its UPDATE saw.
structure Consumption where
  requestId : Uuid
  rawGrant : String
  consumedAt : Time
  fencedGeneration : Option Nat
  deriving DecidableEq

-- The two unique constraints of the request table are kept as indexes.
-- `unguarded` records the requests inserted without a lock on the fence of their
-- attempt, `consumptions` what was consumed and `pushed` which requests the broker
-- was asked to push.
structure DeliveryStore where
  repositories : Table String WorkspaceRepository
  branches : Table Uuid RepositoryBranchBinding
  requests : Table Uuid AgentPushRequest
  byIdempotency : Table (Uuid × String) Uuid
  byCoordinate : Table Coordinate Uuid
  fences : Table Uuid AgentDeliveryFence
  facts : List AgentDeliveryFact
  unguarded : List Uuid
  consumptions : List Consumption
  pushed : List Uuid

def DeliveryStore.initial : DeliveryStore := ⟨.empty,.empty,.empty,.empty,.empty,.empty,[],[],[],[]⟩

namespace DeliveryStore
variable (s : DeliveryStore)

def fact (requestId : Uuid) : Option AgentDeliveryFact :=
  KeyedRows.find AgentDeliveryFact.pushRequestId s.facts requestId
def putRequests (rows : Table Uuid AgentPushRequest) : DeliveryStore := {s with requests := rows}
def putFence (attemptId : Uuid) (row : AgentDeliveryFence) : DeliveryStore :=
  {s with fences := s.fences.put attemptId row}
def putFences (rows : Table Uuid AgentDeliveryFence) : DeliveryStore := {s with fences := rows}
def addFact (row : AgentDeliveryFact) : DeliveryStore := {s with facts := s.facts ++ [row]}
def unguard (requestId : Uuid) : DeliveryStore := {s with unguarded := s.unguarded ++ [requestId]}
def consume (entry : Consumption) : DeliveryStore := {s with consumptions := s.consumptions ++ [entry]}
def push (requestId : Uuid) : DeliveryStore := {s with pushed := s.pushed ++ [requestId]}

end DeliveryStore

def requestColumns : Columns AgentPushRequest AgentPushState := ⟨AgentPushRequest.state,AgentPushRequest.attempts⟩

def AgentDeliveryFence.covers (fence : AgentDeliveryFence) (generation : Nat) : Bool :=
  generation ≤ fence.fencedGeneration

def bindingIsValid (binding : AgentExecutionBindingSnapshot) (spec : AgentPushRequestSpec)
    (expectedDigest : Option String) : Bool :=
  binding.matches spec ∧ expectedDigest.all (binding.executionBindingDigest = ·)

def validateSourceControlBinding (spec : AgentPushRequestSpec) (s : DeliveryStore) :
    Except DeliveryError Unit := do
  let repository ← orRaise (s.repositories spec.repositoryId) .agentPushBindingRejected
  let branch ← orRaise (s.branches spec.branchBindingId) .agentPushBindingRejected
  require (repository.status = .authorized ∧ repository.workspaceId = spec.workspaceId ∧
    branch.workItemId = spec.workItemId ∧ branch.requirementId = spec.requirementId ∧
    branch.workspaceId = spec.workspaceId ∧ branch.repositoryId = spec.repositoryId ∧
    branch.branchName = spec.branchName) .agentPushBindingRejected

def isLocallyFenced (attemptId : Uuid) (generation : Nat) (s : DeliveryStore) : Bool :=
  (s.fences attemptId).any fun fence => fence.covers generation

structure AuthorizeEnvironment where
  now : Time
  requestId : Uuid
  grantDigest : String
  binding : AgentExecutionBindingSnapshot
  deriving DecidableEq

def authorizedRequest (crypto : DeliveryCryptography) (env : AuthorizeEnvironment)
    (spec : AgentPushRequestSpec) : AgentPushRequest where
  id := env.requestId
  spec := spec
  requestFingerprint := crypto.requestFingerprint spec
  executionBindingDigest := env.binding.executionBindingDigest
  grantDigest := env.grantDigest
  state := .authorized
  attempts := 0
  issuedAt := env.now
  createdAt := env.now
  updatedAt := env.now

def insertAgentPush (row : AgentPushRequest) (s : DeliveryStore) : Except DeliveryError DeliveryStore := do
  require (s.requests row.id = none) (.integrityError "agent_push_request_pkey")
  require (s.byIdempotency (row.spec.workspaceId,row.spec.idempotencyKey) = none)
    (.integrityError "uq_sc_agent_push_idempotency")
  require (s.byCoordinate row.spec.coordinate = none) (.integrityError "uq_sc_agent_push_coordinate")
  pure {s with
    requests := s.requests.put row.id row
    byIdempotency := s.byIdempotency.put (row.spec.workspaceId,row.spec.idempotencyKey) row.id
    byCoordinate := s.byCoordinate.put row.spec.coordinate row.id}

-- The authorization transaction down to its fence check. `FOR UPDATE` locks the fence
-- row of the attempt, and nothing when there is none.
def checkAgentPush (policy : AgentDeliveryPolicy) (env : AuthorizeEnvironment) (spec : AgentPushRequestSpec)
    (s : DeliveryStore) : Except DeliveryError Unit := do
  require (0 < policy.maxPushGrantTtl ∧ env.now < spec.expiresAt ∧
    spec.expiresAt - env.now ≤ policy.maxPushGrantTtl)
    (.invalidAgentPushGrant "Agent push grant expiry is invalid")
  validateSourceControlBinding spec s
  require (bindingIsValid env.binding spec none = true) .agentPushBindingRejected
  require (isLocallyFenced spec.attemptId spec.attemptGeneration s = false) .agentPushBindingRejected

-- The rest of it. A lost race on a unique key rolls back, and the caller is answered
-- from the row that won.
def recordAgentPush (crypto : DeliveryCryptography) (env : AuthorizeEnvironment) (spec : AgentPushRequestSpec)
    (s : DeliveryStore) : Except DeliveryError (DeliveryStore × AgentPushRequest × Bool) :=
  match (s.byIdempotency (spec.workspaceId,spec.idempotencyKey)).bind s.requests with
  | some existing => do
    require (existing.requestFingerprint = crypto.requestFingerprint spec)
      (.agentPushIdempotencyConflict "Agent push idempotency conflict")
    pure (s,existing,true)
  | none => do
    let row := authorizedRequest crypto env spec
    let s ← insertAgentPush row s
    pure (s,row,false)

def authorizeAgentPush (crypto : DeliveryCryptography) (policy : AgentDeliveryPolicy)
    (env : AuthorizeEnvironment) (spec : AgentPushRequestSpec) (s : DeliveryStore) :
    Except DeliveryError (DeliveryStore × AgentPushRequest × Bool) := do
  checkAgentPush policy env spec s
  recordAgentPush crypto env spec s

def AgentPushRequest.inFlight (now nextReconcileAt : Time) (row : AgentPushRequest) : AgentPushRequest :=
  {row with
    state := .inFlight, attempts := row.attempts + 1, consumedAt := some now
    nextReconcileAt := some nextReconcileAt, updatedAt := now}

-- One UPDATE: the grant is consumed only while the request is AUTHORIZED, unexpired
-- and not covered by a fence.
def consumeAgentPush (crypto : DeliveryCryptography) (requestId : Uuid) (rawGrant : String)
    (now nextReconcileAt : Time) (s : DeliveryStore) : Option (DeliveryStore × AgentPushRequest) :=
  match s.requests requestId with
  | some row =>
    if row.state = .authorized ∧ crypto.grantDigest rawGrant = some row.grantDigest ∧
        now < row.spec.expiresAt ∧
        isLocallyFenced row.spec.attemptId row.spec.attemptGeneration s = false then
      let consumed := row.inFlight now nextReconcileAt
      some ((s.putRequests (s.requests.put requestId consumed)).consume ⟨requestId,rawGrant,now,
        (s.fences row.spec.attemptId).map AgentDeliveryFence.fencedGeneration⟩,consumed)
    else none
  | none => none

def transitionAgentPush (requestId : Uuid) (expected : AgentPushState) (attempts : Option Nat)
    (change : AgentPushRequest → AgentPushRequest) (s : DeliveryStore) :
    Option (DeliveryStore × AgentPushRequest) :=
  (transition requestColumns s.requests requestId expected attempts change).map fun (rows,row) =>
    (s.putRequests rows,row)

def AgentPushRequest.grantExpired (now : Time) (row : AgentPushRequest) : AgentPushRequest :=
  {row with
    state := .blocked, completedAt := some now, lastErrorCode := some "GRANT_EXPIRED"
    nextReconcileAt := none, updatedAt := now}

-- The consuming transaction of an execution: the consumed row, or what the caller
-- is answered with.
def consumeGrant (crypto : DeliveryCryptography) (policy : AgentDeliveryPolicy) (requestId : Uuid)
    (rawGrant : String) (now : Time) (s : DeliveryStore) :
    Except DeliveryError (DeliveryStore × Option AgentPushRequest) := do
  let digest ← orRaise (crypto.grantDigest rawGrant) (.invalidAgentPushGrant "Agent push grant is invalid")
  match consumeAgentPush crypto requestId rawGrant now (policy.nextReconcileAt now 1) s with
  | some (s,consumed) => pure (s,some consumed)
  | none => do
    let current ← orRaise (s.requests requestId) .agentPushNotFound
    if current.state ≠ .authorized then pure (s,none)
    else if current.spec.expiresAt ≤ now then do
      let (s,_) ← orRaise (transitionAgentPush requestId .authorized none
        (AgentPushRequest.grantExpired now) s) .agentPushBindingRejected
      pure (s,none)
    else do
      require (current.grantDigest = digest) (.invalidAgentPushGrant "Agent push grant is invalid")
      .error .agentPushBindingRejected

-- The columns one completion writes.
structure Completion where
  state : AgentPushState
  errorCode : Option String := none
  observation : Option (String × Time) := none
  nextReconcileAt : Option Time := none
  deriving DecidableEq

def Completion.unknown (policy : AgentDeliveryPolicy) (row : AgentPushRequest) (now : Time)
    (observation : Option (String × Time)) : Completion :=
  ⟨.unknown,some "RESULT_UNKNOWN",observation,some (policy.nextReconcileAt now row.attempts)⟩
def Completion.denied : Completion := {state := .blocked, errorCode := some "BROKER_DENIED"}
def Completion.headConflict (observation : Option (String × Time)) : Completion :=
  {state := .blocked, errorCode := some "REMOTE_HEAD_CONFLICT", observation := observation}
def Completion.fenced (head : String) (observedAt : Time) : Completion :=
  {state := .fenced, errorCode := some "PUSH_OBSERVED_AFTER_FENCE", observation := some (head,observedAt)}
def Completion.confirmed (head : String) (observedAt : Time) : Completion :=
  {state := .succeeded, observation := some (head,observedAt)}

def AgentPushRequest.complete (now : Time) (completion : Completion) (row : AgentPushRequest) :
    AgentPushRequest :=
  {row with
    state := completion.state, nextReconcileAt := completion.nextReconcileAt
    lastErrorCode := completion.errorCode
    completedAt := if completion.state.terminal then some now else row.completedAt
    remoteHeadSha := (completion.observation.map Prod.fst).or row.remoteHeadSha
    observedAt := (completion.observation.map Prod.snd).or row.observedAt
    updatedAt := now}

def factPayload (row : AgentPushRequest) (observedAt : Time) (reasonCode : Option String) :
    AgentDeliveryFactPayload :=
  ⟨row.spec.attemptId,row.spec.attemptGeneration,row.spec.requirementId,row.spec.workItemId,
    row.spec.workspaceId,row.spec.repositoryId,row.spec.branchBindingId,row.spec.branchName,
    row.spec.targetCommitSha,row.spec.contentDigest,row.spec.artifactRefs,"AGENT",row.spec.correlationId,
    observedAt,reasonCode⟩

def insertFact (id : Uuid) (topic : AgentDeliveryFactTopic) (row : AgentPushRequest) (observedAt : Time)
    (reasonCode : Option String) (s : DeliveryStore) : Except DeliveryError DeliveryStore := do
  require (s.fact row.id = none) (.integrityError "uq_sc_agent_fact_request")
  pure (s.addFact ⟨id,row.id,topic,factPayload row observedAt reasonCode,row.spec.correlationId,observedAt⟩)

-- A completion of a claimed row, with the confirmed fact of a success in the same
-- transaction. A lost completion is answered with the row as it is.
def finish (expected : AgentPushState) (claimed : AgentPushRequest) (completion : Completion) (now : Time)
    (factId : Uuid) (s : DeliveryStore) : Except DeliveryError (DeliveryStore × AgentPushRequest) :=
  match transitionAgentPush claimed.id expected (some claimed.attempts)
      (AgentPushRequest.complete now completion) s with
  | some (s,row) =>
    match completion.state,completion.observation with
    | .succeeded,some (_,observedAt) => do
      let s ← insertFact factId .confirmed row observedAt none s
      pure (s,row)
    | .succeeded,none => .error .agentPushBindingRejected
    | _,_ => pure (s,row)
  | none => do
    let current ← orRaise (s.requests claimed.id) .agentPushNotFound
    pure (s,current)

-- `_finish_inflight` and `_confirm_inflight`, then `_finish_reconciliation`.
def finishInflight := finish .inFlight
def finishReconciliation := finish .reconciliation

def AgentPushRequest.recordObservation (head : String) (observedAt now : Time) (row : AgentPushRequest) :
    AgentPushRequest :=
  {row with
    remoteHeadSha := some head, observedAt := some observedAt
    lastErrorCode := some "PUSH_OBSERVED_AFTER_FENCE", updatedAt := now}

def recordFencedObservation (requestId : Uuid) (head : String) (observedAt now : Time) (factId : Uuid)
    (s : DeliveryStore) : Except DeliveryError (DeliveryStore × AgentPushRequest) :=
  match transitionAgentPush requestId .fenced none
      (AgentPushRequest.recordObservation head observedAt now) s with
  | some (s,row) => do
    if s.fact requestId = none then
      let s ← insertFact factId .fenced row observedAt (some "PUSH_OBSERVED_AFTER_FENCE") s
      pure (s,row)
    else pure (s,row)
  | none => do
    let current ← orRaise (s.requests requestId) .agentPushNotFound
    pure (s,current)

def reconcilable (now : Time) (row : AgentPushRequest) : Bool :=
  (row.state = .inFlight ∨ row.state = .unknown ∨ row.state = .reconciliation) ∧
    row.nextReconcileAt.any (· ≤ now) = true

def AgentPushRequest.claim (now leaseUntil : Time) (row : AgentPushRequest) : AgentPushRequest :=
  {row with
    state := .reconciliation, attempts := row.attempts + 1
    lastErrorCode := row.lastErrorCode.or (some "RESULT_UNKNOWN")
    nextReconcileAt := some leaseUntil, updatedAt := now}

-- `ids` are the due rows the scan returned: a locked row is skipped.
def claimReconcilable (limit : Nat) (now leaseUntil : Time) (ids : List Uuid) (s : DeliveryStore) :
    Option (DeliveryStore × List AgentPushRequest) :=
  if 1 ≤ limit ∧ ids.Nodup ∧ ids.length ≤ limit ∧ (∀ id ∈ ids, (s.requests id).any (reconcilable now) = true) then
    let rows := claimAll s.requests ids (AgentPushRequest.claim now leaseUntil)
    some (s.putRequests rows,ids.filterMap rows)
  else none

structure FenceCommand where
  attemptId : Uuid
  fencedGeneration : Nat
  reasonCode : String
  correlationId : String
  deriving DecidableEq

def newFence (command : FenceCommand) (now : Time) : AgentDeliveryFence :=
  ⟨command.attemptId,command.fencedGeneration,command.reasonCode,command.correlationId,.pending,0,some now,now,now⟩

def AgentDeliveryFence.raise (command : FenceCommand) (now : Time) (fence : AgentDeliveryFence) :
    AgentDeliveryFence :=
  {newFence command now with createdAt := fence.createdAt}

-- INSERT … ON CONFLICT DO UPDATE WHERE the stored generation is lower.
def upsertAttemptFence (command : FenceCommand) (now : Time) (s : DeliveryStore) :
    DeliveryStore × AgentDeliveryFence :=
  match s.fences command.attemptId with
  | none => (s.putFence command.attemptId (newFence command now),newFence command now)
  | some fence =>
    if fence.fencedGeneration < command.fencedGeneration then
      (s.putFence command.attemptId (fence.raise command now),fence.raise command now)
    else (s,fence)

def AgentPushRequest.fence (reasonCode : String) (now : Time) (row : AgentPushRequest) : AgentPushRequest :=
  {row with
    state := .fenced, completedAt := some now, nextReconcileAt := none
    lastErrorCode := some reasonCode, updatedAt := now}

def openFor (attemptId : Uuid) (fencedGeneration : Nat) (row : AgentPushRequest) : Bool :=
  row.spec.attemptId = attemptId ∧ row.spec.attemptGeneration ≤ fencedGeneration ∧ row.state.terminal = false

-- One UPDATE: the rows that are not in its snapshot are `missed`.
def fenceOpenAgentPushes (fence : AgentDeliveryFence) (now : Time) (missed : List Uuid) (s : DeliveryStore) :
    DeliveryStore :=
  s.putRequests (s.requests.updateAll fun id row =>
    if openFor fence.attemptId fence.fencedGeneration row ∧ id ∉ missed then row.fence fence.reasonCode now else row)

def checkFence (command : FenceCommand) : Except DeliveryError Unit :=
  require (1 ≤ command.fencedGeneration ∧ blank command.reasonCode = false) .agentPushBindingRejected

-- The fencing transaction: local fencing first, the broker is told afterwards.
def fenceAgentAttempt (command : FenceCommand) (now : Time) (missed : List Uuid) (s : DeliveryStore) :
    DeliveryStore × AgentDeliveryFence :=
  let (s,fence) := upsertAttemptFence command now s
  (fenceOpenAgentPushes fence now missed s,fence)

def AgentDeliveryFence.settle (state : RevocationState) (attempts : Nat) (nextRevokeAt : Option Time)
    (now : Time) (fence : AgentDeliveryFence) : AgentDeliveryFence :=
  {fence with revocationState := state, revokeAttempts := attempts, nextRevokeAt := nextRevokeAt, updatedAt := now}

-- `_complete_revocation`: a compare-and-set on the generation and the state.
def completeRevocation (policy : AgentDeliveryPolicy) (fence : AgentDeliveryFence) (target : RevocationState)
    (attempts : Nat) (now : Time) (s : DeliveryStore) : DeliveryStore :=
  match s.fences fence.attemptId with
  | some current =>
    if current.fencedGeneration = fence.fencedGeneration ∧ current.revocationState = fence.revocationState then
      let nextRevokeAt := if target = .succeeded then none else some (policy.nextReconcileAt now (max attempts 1))
      s.putFence fence.attemptId (current.settle target attempts nextRevokeAt now)
    else s
  | none => s

def revocationDue (now : Time) (fence : AgentDeliveryFence) : Bool :=
  (fence.revocationState = .pending ∨ fence.revocationState = .unknown) ∧ fence.nextRevokeAt.any (· ≤ now) = true

def AgentDeliveryFence.claim (now leaseUntil : Time) (fence : AgentDeliveryFence) : AgentDeliveryFence :=
  {fence with
    revocationState := .unknown, revokeAttempts := fence.revokeAttempts + 1
    nextRevokeAt := some leaseUntil, updatedAt := now}

def claimDueRevocations (limit : Nat) (now leaseUntil : Time) (attemptIds : List Uuid) (s : DeliveryStore) :
    Option (DeliveryStore × List AgentDeliveryFence) :=
  if 1 ≤ limit ∧ attemptIds.Nodup ∧ attemptIds.length ≤ limit ∧
      (∀ id ∈ attemptIds, (s.fences id).any (revocationDue now) = true) then
    let rows := claimAll s.fences attemptIds (AgentDeliveryFence.claim now leaseUntil)
    some (s.putFences rows,attemptIds.filterMap rows)
  else none

end EngineeringPlatform.Delivery
