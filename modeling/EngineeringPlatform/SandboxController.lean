import EngineeringPlatform.SandboxRepository
import EngineeringPlatform.SharedWorkers
namespace EngineeringPlatform.Sandbox
open Checked Idempotency SharedWorkers
variable {κ : Type}

def commandOwnerTtl : Nat := 30

-- What a caller holds of a command between its transactions.
structure OwnedCommand (κ : Type) where
  scope : Scope
  fingerprint : String
  commandId : Uuid
  ownerId : Uuid
  phase : CommandPhase
  subjectId : Option Uuid
  created : Bool
  progress : Option ReconcileProgress
  deriving DecidableEq

def raiseReplay : IdempotencyError → SandboxError
  | .conflict | .inProgress => .idempotencyConflict "idempotent command is still in progress"
  | .replayUnavailable => .idempotencyReplayUnavailable "idempotent response is unavailable"

def CommandReceipt.idempotencyRow (row : CommandReceipt κ) : IdempotencyRow κ :=
  ⟨row.id,row.requestFingerprint,row.state,row.httpStatus,row.sealedResponse,row.createdAt,row.updatedAt,
    row.completedAt⟩

def replayResponse (crypto : SandboxCryptography κ) (row : CommandReceipt κ) :
    Except SandboxError (IdempotentResponse SandboxResult) :=
  replay crypto.sealing raiseReplay row.scope row.idempotencyRow

-- `_operation_row`: the caller still owns the command it works for.
def operationRow (scope : Scope) (fingerprint : String) (ownerId : Uuid) (s : SandboxStore κ) :
    Except SandboxError (CommandReceipt κ) := do
  let row ← orRaise (s.receiptByScope scope)
    (.idempotencyReplayUnavailable "idempotency claim is unavailable")
  require (row.requestFingerprint = fingerprint ∧ row.ownerId = some ownerId)
    (.idempotencyReplayUnavailable "idempotency claim is unavailable")
  pure row

def completeResponse (crypto : SandboxCryptography κ) (row : CommandReceipt κ) (ownerId : Uuid)
    (status : Nat) (result : SandboxResult) (now : Time) (s : SandboxStore κ) :
    Except SandboxError (SandboxStore κ) :=
  completeIdempotency row.id ownerId status
    (crypto.sealing.sealEnvelope ⟨row.scope,row.requestFingerprint,{statusCode := status, body := result}⟩) now s

def provisionStatus : ProvisionResult → Nat
  | .ready _ _ _ => 201
  | .blocked _ _ _ => 409
  | .failed _ _ _ => 503

structure ClaimEnvironment where
  now : Time
  commandId : Uuid
  ownerId : Uuid

structure ProvisionCommand where
  scope : Scope
  fingerprint : String
  binding : ExecutionBindingProjection

structure ProvisionEnvironment extends ClaimEnvironment where
  policy : AdmissionPolicySnapshot
  ids : ReservationIds
  fencingToken : String
  validationError : Option SandboxError

inductive ProvisionClaim where
  | answered (result : SandboxResult)
  | owned (reservation : ReservationRecord) (fencingToken : String) (ownerId commandId : Uuid)

def unsealRecovery (crypto : SandboxCryptography κ) (reservation : ReservationRecord) (capsule : κ) :
    Except SandboxError String := do
  let payload ← orRaise (crypto.unsealRecovery capsule)
    (.idempotencyReplayUnavailable "provision recovery is unavailable")
  require (payload.materializationId = reservation.materializationId ∧
    payload.leaseId = reservation.leaseId ∧ payload.executionId = reservation.executionId)
    (.idempotencyReplayUnavailable "provision recovery is unavailable")
  pure payload.fencingToken

def recoverable (phase : CommandPhase) : Bool :=
  phase = .reserved ∨ phase = .cleanupStarted ∨ phase = .cleanupQuarantined

def blocked (binding : ExecutionBindingProjection) (denial : CanonicalDenial) : ProvisionResult :=
  .blocked binding.executionId binding.bindingDigest denial

-- The claim transaction of a provision command: replay, recovery of a taken-over
-- command, a stored denial, or a new reservation.
def claimProvision (crypto : SandboxCryptography κ) (env : ProvisionEnvironment) (command : ProvisionCommand)
    (s : SandboxStore κ) : Except SandboxError (SandboxStore κ × ProvisionClaim) := do
  let (s,ownership) ← acquireCommand env.commandId env.ownerId command.scope command.fingerprint
    (env.now + commandOwnerTtl) env.now s
  let row ← orRaise (s.receiptByScope command.scope)
    (.idempotencyReplayUnavailable "idempotency claim is unavailable")
  if row.state = .completed then
    let response ← replayResponse crypto row
    pure (s,.answered response.body)
  else if ownership.created = false then
    let subject ← orRaise ownership.subjectId
      (.idempotencyReplayUnavailable "provision recovery is unavailable")
    require (recoverable ownership.phase = true)
      (.idempotencyReplayUnavailable "provision recovery is unavailable")
    let (reservation,capsule) ← provisionRecovery subject s
    let token ← unsealRecovery crypto reservation capsule
    pure (s,.owned reservation token env.ownerId ownership.commandId)
  else
    match env.validationError with
    | some error => do
      let denial ← orRaise error.denial error
      let result := SandboxResult.provision (blocked command.binding denial)
      let s ← completeResponse crypto row env.ownerId 409 result env.now s
      pure (s,.answered result)
    | none => do
      let (s,admission) ← reserveMaterialization command.binding env.policy env.ids
        (crypto.fencingTokenDigest env.fencingToken) env.now s
      match admission with
      | .error error => do
        let denial ← orRaise error.denial error
        let result := SandboxResult.provision (blocked command.binding denial)
        let s ← completeResponse crypto row env.ownerId 409 result env.now s
        pure (s,.answered result)
      | .ok reservation => do
        let capsule := crypto.sealRecovery ⟨reservation.materializationId,reservation.leaseId,
          reservation.executionId,env.fencingToken⟩
        let s ← bindCommandSubject ownership.commandId reservation.materializationId env.ownerId capsule
          env.now s
        pure (s,.owned reservation env.fencingToken env.ownerId ownership.commandId)

-- The caller of one transaction of a running command, with its clock.
structure Caller where
  scope : Scope
  fingerprint : String
  commandId : Uuid
  ownerId : Uuid
  now : Time
  deriving DecidableEq

def Caller.operationRow (caller : Caller) (s : SandboxStore κ) : Except SandboxError (CommandReceipt κ) :=
  Sandbox.operationRow caller.scope caller.fingerprint caller.ownerId s

def completeReady (crypto : SandboxCryptography κ) (caller : Caller) (reservation : ReservationRecord)
    (token protocolVersion : String) (s : SandboxStore κ) :
    Except SandboxError (SandboxStore κ × ProvisionResult) := do
  let row ← caller.operationRow s
  let (s,ready) ← markMaterializationReady reservation.materializationId reservation.generation caller.now s
  let result := ProvisionResult.ready ⟨ready.materializationId,ready.environmentId,ready.executionId,
    ready.leaseId,ready.generation,token,ready.revision,ready.deadlineAt⟩ ready.bindingDigest protocolVersion
  let s ← completeResponse crypto row caller.ownerId (provisionStatus result) (.provision result) caller.now s
  pure (s,result)

-- `_complete_failed`, before the cleanup.
def failProvision (caller : Caller) (materializationId : Uuid) (code : DenialCode) (dimension : String)
    (s : SandboxStore κ) : Except SandboxError (SandboxStore κ × CleanupRecord) := do
  let row ← caller.operationRow s
  let current ← cleanupRecord materializationId s
  if current.state = .provisioning then
    let (s,current) ← beginProvisionCleanup materializationId code dimension caller.now s
    let s ← advanceCommand row.id caller.ownerId .cleanupStarted (some materializationId) caller.now s
    pure (s,current)
  else pure (s,current)

-- A cleanup that another caller has completed already is not completed again.
def ensureCompleted (materializationId : Uuid) (state : MaterializationState) (expectedRevision : Nat)
    (terminal : MaterializationState) (now : Time) (s : SandboxStore κ) :
    Except SandboxError (SandboxStore κ) :=
  if state = terminal then pure s else completeCleanup materializationId expectedRevision terminal now s

-- `_complete_failed`, after the cleanup. `current` is what the cleanup last read.
def completeFailed (crypto : SandboxCryptography κ) (caller : Caller) (binding : ExecutionBindingProjection)
    (current : CleanupRecord) (denial : CanonicalDenial) (s : SandboxStore κ) :
    Except SandboxError (SandboxStore κ × ProvisionResult) := do
  let row ← caller.operationRow s
  let s ← ensureCompleted current.materializationId current.state current.revision .failed caller.now s
  let result := ProvisionResult.failed binding.executionId binding.bindingDigest denial
  let s ← completeResponse crypto row caller.ownerId (provisionStatus result) (.provision result) caller.now s
  pure (s,result)

def authorizeBoundSubject (authorized : Option (Uuid → Bool)) (subjectId : Option Uuid) (s : SandboxStore κ) :
    Except SandboxError Unit :=
  match authorized,subjectId with
  | some allowed,some subject => do
    let row ← orRaise (s.materialization subject) .staleRunnerGeneration
    require (allowed row.environmentId = true) (.application .runtimeCapabilityDenied "workload_scope" false)
  | _,_ => pure ()

-- `_claim_operation`, shared by every other command.
def claimOperation (crypto : SandboxCryptography κ) (scope : Scope) (fingerprint : String)
    (env : ClaimEnvironment) (authorized : Option (Uuid → Bool)) (s : SandboxStore κ) :
    Except SandboxError (SandboxStore κ × OwnedCommand κ × Option (IdempotentResponse SandboxResult)) := do
  let (s,ownership) ← acquireCommand env.commandId env.ownerId scope fingerprint
    (env.now + commandOwnerTtl) env.now s
  let row ← orRaise (s.receiptByScope scope)
    (.idempotencyReplayUnavailable "idempotency claim is unavailable")
  authorizeBoundSubject authorized ownership.subjectId s
  let work := ⟨scope,fingerprint,ownership.commandId,env.ownerId,ownership.phase,ownership.subjectId,
    ownership.created,row.progress⟩
  if row.state = .completed then
    let response ← replayResponse crypto row
    pure (s,work,some response)
  else pure (s,work,none)

-- The first transaction of `_cleanup` (checkpoint and release, finalize).
def beginLifecycle (crypto : SandboxCryptography κ) (caller : Caller) (guard : MaterializationGuard)
    (evidence : List (Uuid × EvidenceRef)) (transition terminal : MaterializationState) (s : SandboxStore κ) :
    Except SandboxError (SandboxStore κ × Nat) := do
  let _ ← caller.operationRow s
  let (s,revision) ← beginCleanup crypto guard evidence transition terminal none caller.now s
  let s ← advanceCommand caller.commandId caller.ownerId .cleanupStarted (some guard.materializationId)
    caller.now s
  pure (s,revision)

inductive CleanupMark where
  | evidencePersisted
  | fenced
  | secretRevoked
  | capacityReleased
  deriving DecidableEq, Repr

def applyMark (mark : CleanupMark) (materializationId : Uuid) (expectedRevision : Nat) (now : Time)
    (s : SandboxStore κ) : Except SandboxError (SandboxStore κ) :=
  match mark with
  | .evidencePersisted => markEvidencePersisted materializationId expectedRevision now s
  | .fenced => markFenced materializationId expectedRevision now s
  | .secretRevoked => markSecretRevoked materializationId expectedRevision now s
  | .capacityReleased => releaseCapacity materializationId expectedRevision now s

-- `commit_step` of `_continue_cleanup`.
def cleanupStep (caller : Caller) (mark : CleanupMark) (materializationId : Uuid) (expectedRevision : Nat)
    (s : SandboxStore κ) : Except SandboxError (SandboxStore κ × Unit) := do
  let _ ← caller.operationRow s
  let s ← applyMark mark materializationId expectedRevision caller.now s
  pure (s,())

def lifecycleReceipt (operation : String) (row : Materialization κ) (state : MaterializationState)
    (revision : Nat) (denial : Option CanonicalDenial) (s : SandboxStore κ) : LifecycleReceipt :=
  ⟨operation,row.id,state,revision,evidenceRefs row.id s,denial⟩

def completeLifecycle (crypto : SandboxCryptography κ) (caller : Caller) (materializationId : Uuid)
    (expectedRevision : Nat) (terminal : MaterializationState) (s : SandboxStore κ) :
    Except SandboxError (SandboxStore κ × LifecycleReceipt) := do
  let _ ← caller.operationRow s
  let current ← cleanupRecord materializationId s
  let s ← ensureCompleted materializationId current.state expectedRevision terminal caller.now s
  let status ← orRaise (s.materialization materializationId) .staleRunnerGeneration
  let receipt := lifecycleReceipt caller.scope.operation status terminal status.revision none s
  let row ← caller.operationRow s
  let s ← completeResponse crypto row caller.ownerId 200 (.lifecycle receipt) caller.now s
  pure (s,receipt)

def quarantineDenial : CanonicalDenial := ⟨.resourceExhausted,some "runtime_cleanup",true⟩

def quarantineLifecycle (caller : Caller) (materializationId : Uuid) (s : SandboxStore κ) :
    Except SandboxError (SandboxStore κ × LifecycleReceipt) := do
  let _ ← caller.operationRow s
  let current ← cleanupRecord materializationId s
  let s ← quarantineCleanup materializationId current.revision .resourceExhausted "runtime_cleanup" caller.now s
  let status ← orRaise (s.materialization materializationId) .staleRunnerGeneration
  let receipt := lifecycleReceipt caller.scope.operation status .quarantined status.revision
    (some quarantineDenial) s
  let row ← caller.operationRow s
  let s ← advanceCommand row.id caller.ownerId .cleanupQuarantined (some materializationId) caller.now s
  pure (s,receipt)

def completeLifecycleDenial (crypto : SandboxCryptography κ) (caller : Caller) (materializationId : Uuid)
    (error : SandboxError) (s : SandboxStore κ) : Except SandboxError (SandboxStore κ × LifecycleReceipt) := do
  let denial ← orRaise error.denial error
  let status ← orRaise (s.materialization materializationId) .staleRunnerGeneration
  let receipt := lifecycleReceipt caller.scope.operation status status.state status.revision (some denial) s
  let row ← caller.operationRow s
  let s ← completeResponse crypto row caller.ownerId 409 (.lifecycle receipt) caller.now s
  pure (s,receipt)

def cancelTerminal : CancellationReason → MaterializationState
  | .timedOut => .timedOut
  | _ => .canceled

def beginCancel (caller : Caller) (executionId : String) (authorizedEnvironmentId : Uuid)
    (reason : CancellationReason) (s : SandboxStore κ) :
    Except SandboxError (SandboxStore κ × CleanupRecord) := do
  let _ ← caller.operationRow s
  beginCancelCleanup executionId authorizedEnvironmentId (cancelTerminal reason) reason caller.commandId
    caller.ownerId caller.now s

-- The denial of `beginCancel` is recorded after its transaction has rolled back.
def auditCancelDenial (caller : Caller) (auditId : Uuid) (executionId : String) (error : SandboxError)
    (s : SandboxStore κ) : Except SandboxError (SandboxStore κ × Unit) := do
  let denial ← orRaise error.denial error
  pure (s.addAudit ⟨auditId,caller.now,caller.scope.actor,"sandbox.execution.cancel",executionId,"DENIED",
    denial.failureDimension.map fun dimension => s!"{denial.code.value}:{dimension}"⟩,())

-- The transaction of a handoff reads the guard under its locks and writes nothing.
def checkHandoff (crypto : SandboxCryptography κ) (guard : MaterializationGuard) (s : SandboxStore κ) :
    Except SandboxError (SandboxStore κ × Unit) := do
  let _ ← lockCurrentGuard crypto guard s
  pure (s,())

-- Cancellation of an execution whose materialization is already terminal.
def completeAlreadyTerminal (crypto : SandboxCryptography κ) (caller : Caller) (materializationId : Uuid)
    (s : SandboxStore κ) : Except SandboxError (SandboxStore κ × LifecycleReceipt) := do
  let status ← orRaise (s.materialization materializationId) .staleRunnerGeneration
  let denial := status.denialCode.map fun code => ⟨code,status.failureDimension,false⟩
  let receipt := lifecycleReceipt caller.scope.operation status status.state status.revision denial s
  let row ← caller.operationRow s
  let s ← completeResponse crypto row caller.ownerId 200 (.lifecycle receipt) caller.now s
  pure (s,receipt)

def beginPreview (crypto : SandboxCryptography κ) (caller : Caller) (guard : MaterializationGuard)
    (metadata : EvidenceRef) (expiresAt : Time) (s : SandboxStore κ) :
    Except SandboxError (SandboxStore κ × Nat) := do
  require (caller.now < expiresAt) (.application .runtimeBindingInvalid "preview_expiry" false)
  beginPreviewIntent crypto caller.commandId caller.ownerId guard metadata expiresAt caller.now s

def completePreview (crypto : SandboxCryptography κ) (caller : Caller) (evidenceId : Uuid)
    (metadata : EvidenceRef) (previewId accessRef : String) (expiresAt : Time) (s : SandboxStore κ) :
    Except SandboxError (SandboxStore κ × PreviewResult) := do
  let (s,revision) ← completePreviewIntent crypto caller.commandId caller.ownerId evidenceId metadata caller.now s
  let result := PreviewResult.published previewId accessRef expiresAt revision
  let row ← caller.operationRow s
  let s ← completeResponse crypto row caller.ownerId 201 (.preview result) caller.now s
  pure (s,result)

def completePreviewDenial (crypto : SandboxCryptography κ) (caller : Caller) (materializationId : Uuid)
    (error : SandboxError) (s : SandboxStore κ) : Except SandboxError (SandboxStore κ × PreviewResult) := do
  let denial ← orRaise error.denial error
  let status ← orRaise (s.materialization materializationId) .staleRunnerGeneration
  let result := PreviewResult.denied denial (some status.revision)
  let row ← caller.operationRow s
  let s ← completeResponse crypto row caller.ownerId 409 (.preview result) caller.now s
  pure (s,result)

end EngineeringPlatform.Sandbox
