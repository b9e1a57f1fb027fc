import EngineeringPlatform.KeyedRows
import EngineeringPlatform.SandboxDomain
import Mathlib.Data.List.Sort
namespace EngineeringPlatform.Sandbox
open Checked Idempotency
variable {κ : Type}

structure SandboxStore (κ : Type) where
  environments : List SandboxEnvironment
  ledgers : Table Uuid CapacityLedger
  materializations : List (Materialization κ)
  leases : List CapacityLease
  generations : List RunnerGeneration
  evidence : List EvidenceReference
  receipts : List (CommandReceipt κ)
  previews : Table Uuid PreviewIntentRow
  reconciliations : List ReconciliationRun
  ownerIds : List Uuid
  audit : List SandboxAuditAppend

-- `ownerIds` records the owner identifiers handed out so far; a random UUID is
-- never handed out twice.
def SandboxStore.initial : SandboxStore κ := ⟨[],.empty,[],[],[],[],[],.empty,[],[],[]⟩

-- One lease and one generation reference each materialization: `materialization_id`
-- is unique in both tables, and is the key they are joined on.
namespace SandboxStore
variable (s : SandboxStore κ)

def environment (id : Uuid) : Option SandboxEnvironment :=
  KeyedRows.find SandboxEnvironment.id s.environments id
def materialization (id : Uuid) : Option (Materialization κ) :=
  KeyedRows.find Materialization.id s.materializations id
def lease (materializationId : Uuid) : Option CapacityLease :=
  KeyedRows.find CapacityLease.materializationId s.leases materializationId
def runner (materializationId : Uuid) : Option RunnerGeneration :=
  KeyedRows.find RunnerGeneration.materializationId s.generations materializationId
def receipt (id : Uuid) : Option (CommandReceipt κ) := KeyedRows.find CommandReceipt.id s.receipts id
def receiptByScope (scope : Scope) : Option (CommandReceipt κ) :=
  KeyedRows.find CommandReceipt.scope s.receipts scope

def addEnvironment (row : SandboxEnvironment) : SandboxStore κ :=
  {s with environments := s.environments ++ [row]}
def putLedger (environmentId : Uuid) (row : CapacityLedger) : SandboxStore κ :=
  {s with ledgers := s.ledgers.put environmentId row}
def addMaterialization (row : Materialization κ) : SandboxStore κ :=
  {s with materializations := s.materializations ++ [row]}
def addLease (row : CapacityLease) : SandboxStore κ := {s with leases := s.leases ++ [row]}
def addGeneration (row : RunnerGeneration) : SandboxStore κ := {s with generations := s.generations ++ [row]}
def addEvidence (rows : List EvidenceReference) : SandboxStore κ := {s with evidence := s.evidence ++ rows}
def addReceipt (row : CommandReceipt κ) : SandboxStore κ := {s with receipts := s.receipts ++ [row]}
def putPreview (row : PreviewIntentRow) : SandboxStore κ := {s with previews := s.previews.put row.commandId row}
def addReconciliation (row : ReconciliationRun) : SandboxStore κ :=
  {s with reconciliations := s.reconciliations ++ [row]}
def addAudit (entry : SandboxAuditAppend) : SandboxStore κ := {s with audit := s.audit ++ [entry]}
def issue (ownerId : Uuid) : SandboxStore κ := {s with ownerIds := ownerId :: s.ownerIds}

def setMaterialization (id : Uuid) (change : Materialization κ → Materialization κ) : SandboxStore κ :=
  {s with materializations := KeyedRows.update Materialization.id s.materializations id change}
def setLease (materializationId : Uuid) (change : CapacityLease → CapacityLease) : SandboxStore κ :=
  {s with leases := KeyedRows.update CapacityLease.materializationId s.leases materializationId change}
def setGeneration (materializationId : Uuid) (change : RunnerGeneration → RunnerGeneration) : SandboxStore κ :=
  {s with generations :=
      KeyedRows.update RunnerGeneration.materializationId s.generations materializationId change}
def setReceipt (id : Uuid) (change : CommandReceipt κ → CommandReceipt κ) : SandboxStore κ :=
  {s with receipts := KeyedRows.update CommandReceipt.id s.receipts id change}

end SandboxStore

structure CommandOwnership where
  commandId : Uuid
  state : IdempotencyState
  phase : CommandPhase
  subjectId : Option Uuid
  created : Bool
  takenOver : Bool

def claimedReceipt (commandId ownerId : Uuid) (scope : Scope) (fingerprint : String)
    (ownerExpiresAt now : Time) : CommandReceipt κ where
  id := commandId
  scope := scope
  requestFingerprint := fingerprint
  state := .inProgress
  ownerId := some ownerId
  ownerExpiresAt := some ownerExpiresAt
  phase := .claimed
  createdAt := now
  updatedAt := now

namespace CommandReceipt
variable (now : Time) (row : CommandReceipt κ)

def takeOver (ownerId : Uuid) (ownerExpiresAt : Time) : CommandReceipt κ :=
  {row with ownerId := some ownerId, ownerExpiresAt := some ownerExpiresAt, updatedAt := now}
def advance (phase : CommandPhase) (subjectId : Option Uuid) : CommandReceipt κ :=
  {row with phase := phase, subjectId := row.subjectId.or subjectId, updatedAt := now}
def bindSubject (materializationId : Uuid) : CommandReceipt κ :=
  {row with subjectId := some materializationId, phase := .reserved, updatedAt := now}
def save (progress : ReconcileProgress) : CommandReceipt κ :=
  {row with progress := some progress, updatedAt := now}
def complete (status : Nat) (sealed : κ) : CommandReceipt κ :=
  {row with
    state := .completed, httpStatus := some status, sealedResponse := some sealed
    ownerId := none, ownerExpiresAt := none, phase := .completed
    completedAt := some now, updatedAt := now}

end CommandReceipt

-- INSERT … ON CONFLICT DO NOTHING on the command's scope, then a takeover of the
-- stored command once its owner's lease has run out.
def acquireCommand (commandId ownerId : Uuid) (scope : Scope) (fingerprint : String)
    (ownerExpiresAt now : Time) (s : SandboxStore κ) :
    Except SandboxError (SandboxStore κ × CommandOwnership) :=
  match s.receiptByScope scope with
  | none => do
    require (ownerId ∉ s.ownerIds) (.integrityError "owner_id")
    require (s.receipt commandId = none) (.integrityError "command_receipt_pkey")
    pure ((s.addReceipt (claimedReceipt commandId ownerId scope fingerprint ownerExpiresAt now)).issue ownerId,⟨commandId,.inProgress,.claimed,none,true,false⟩)
  | some row => do
    require (row.requestFingerprint = fingerprint)
      (.idempotencyConflict "Idempotency-Key is bound to a different request")
    if row.state = .completed then
      pure (s,⟨row.id,row.state,row.phase,row.subjectId,false,false⟩)
    else
      require (ownerId ∉ s.ownerIds) (.integrityError "owner_id")
      require (row.ownerExpiresAt.all (· ≤ now) = true)
        (.idempotencyConflict "idempotent command has a live owner")
      pure ((s.setReceipt row.id fun row => row.takeOver now ownerId ownerExpiresAt).issue ownerId,
        ⟨row.id,row.state,row.phase,row.subjectId,false,true⟩)

-- The rows `WHERE id AND state='IN_PROGRESS' AND owner_id` of the receipt table.
def ownedReceipt (commandId ownerId : Uuid) (s : SandboxStore κ) :
    Except SandboxError (CommandReceipt κ) := do
  let row ← orRaise (s.receipt commandId) (.idempotencyConflict "command ownership is unavailable")
  require (row.state = .inProgress ∧ row.ownerId = some ownerId)
    (.idempotencyConflict "command ownership is unavailable")
  pure row

def advanceCommand (commandId ownerId : Uuid) (phase : CommandPhase) (subjectId : Option Uuid) (now : Time)
    (s : SandboxStore κ) : Except SandboxError (SandboxStore κ) := do
  let row ← ownedReceipt commandId ownerId s
  require (row.subjectId = none ∨ row.subjectId = subjectId ∨ subjectId = none)
    (.idempotencyConflict "command ownership is unavailable")
  pure (s.setReceipt commandId fun row => row.advance now phase subjectId)

def saveCommandProgress (commandId ownerId : Uuid) (progress : ReconcileProgress) (now : Time)
    (s : SandboxStore κ) : Except SandboxError (SandboxStore κ) := do
  let _ ← ownedReceipt commandId ownerId s
  pure (s.setReceipt commandId fun row => row.save now progress)

def completeIdempotency (commandId ownerId : Uuid) (status : Nat) (sealed : κ) (now : Time)
    (s : SandboxStore κ) : Except SandboxError (SandboxStore κ) := do
  let row ← orRaise (s.receipt commandId)
    (.idempotencyReplayUnavailable "idempotency completion is unavailable")
  require (row.state = .inProgress ∧ row.ownerId = some ownerId)
    (.idempotencyReplayUnavailable "idempotency completion is unavailable")
  pure (s.setReceipt commandId fun row => row.complete now status sealed)

def snapshotOf (ledger : CapacityLedger) : String × Bool × Nat × Nat :=
  (ledger.policyVersion,ledger.policyEnabled,ledger.activeAttemptLimit,ledger.maximumUnits)

def policySnapshot (policy : AdmissionPolicySnapshot) : String × Bool × Nat × Nat :=
  (policy.policyVersion,policy.enabled,policy.activeAttemptLimit,policy.maximumUnits)

def emptyLedger (environmentId : Uuid) (policy : AdmissionPolicySnapshot) (now : Time) : CapacityLedger :=
  ⟨environmentId,policy.policyVersion,policy.enabled,policy.activeAttemptLimit,policy.maximumUnits,0,0,1,now,now⟩

def replacePolicy (ledger : CapacityLedger) (policy : AdmissionPolicySnapshot) (now : Time) : CapacityLedger :=
  {ledger with
    policyVersion := policy.policyVersion, policyEnabled := policy.enabled
    activeAttemptLimit := policy.activeAttemptLimit, maximumUnits := policy.maximumUnits
    revision := ledger.revision + 1, updatedAt := now}

def ensureEnvironment (environment : SandboxEnvironmentRef) (now : Time) (s : SandboxStore κ) :
    Except SandboxError (SandboxStore κ) :=
  match s.environment environment.environmentId with
  | some stored => do
    require (stored.workspaceId = environment.workspaceId ∧ stored.requirementId = environment.requirementId ∧
      stored.state = .active) .environmentConflict
    pure s
  | none => do
    -- another environment of the same requirement makes the insert a no-op
    require (s.environments.any (fun row => row.workspaceId = environment.workspaceId ∧
      row.requirementId = environment.requirementId) = false) .environmentConflict
    pure (s.addEnvironment ⟨environment.environmentId,environment.workspaceId,environment.requirementId,
      .active,1,now,now⟩)

-- A policy snapshot is replaced only while nothing is active under it.
def ensureLedger (environmentId : Uuid) (policy : AdmissionPolicySnapshot) (now : Time) (s : SandboxStore κ) :
    Except SandboxError (SandboxStore κ × CapacityLedger) :=
  match s.ledgers environmentId with
  | none => pure (s.putLedger environmentId (emptyLedger environmentId policy now),emptyLedger environmentId policy now)
  | some ledger =>
    if snapshotOf ledger = policySnapshot policy then pure (s,ledger)
    else do
      require (ledger.activeAttempts = 0 ∧ ledger.activeUnits = 0) .policySnapshotConflict
      pure (s.putLedger environmentId (replacePolicy ledger policy now),replacePolicy ledger policy now)

def activeExecution (executionId : String) (s : SandboxStore κ) : Bool :=
  s.materializations.any fun row => row.executionId = executionId ∧ row.state.active = true

def nextGeneration (executionId : String) (s : SandboxStore κ) : Nat :=
  ((s.materializations.filter fun row => row.executionId = executionId).map Materialization.generation).foldr
    max 0 + 1

structure ReservationIds where
  materializationId : Uuid
  leaseId : Uuid
  generationId : Uuid

def reservedMaterialization (binding : ExecutionBindingProjection) (id : Uuid) (generation : Nat) (now : Time) :
    Materialization κ where
  id := id
  environmentId := binding.environment.environmentId
  executionId := binding.executionId
  bindingDigest := binding.bindingDigest
  deadlineAt := binding.deadlineAt
  state := .provisioning
  revision := 1
  generation := generation
  resourceUnitWeight := binding.unitWeight
  createdAt := now
  updatedAt := now

def acquiredLease (binding : ExecutionBindingProjection) (policy : AdmissionPolicySnapshot) (ids : ReservationIds)
    (generation : Nat) (now : Time) : CapacityLease where
  id := ids.leaseId
  environmentId := binding.environment.environmentId
  materializationId := ids.materializationId
  executionId := binding.executionId
  generation := generation
  unitWeight := binding.unitWeight
  state := .active
  expiresAt := now + policy.leaseTtlSeconds
  revision := 1
  acquiredAt := now
  updatedAt := now

def activeRunner (binding : ExecutionBindingProjection) (ids : ReservationIds) (tokenDigest : String)
    (generation : Nat) (now : Time) : RunnerGeneration where
  id := ids.generationId
  materializationId := ids.materializationId
  executionId := binding.executionId
  generation := generation
  fencingTokenDigest := tokenDigest
  bindingDigest := binding.bindingDigest
  protocolVersion := binding.protocolVersion
  deadlineAt := binding.deadlineAt
  state := .active
  revision := 1
  createdAt := now
  updatedAt := now

def acquireCapacity (ledger : CapacityLedger) (weight : Nat) (now : Time) : CapacityLedger :=
  {ledger with
    activeAttempts := ledger.activeAttempts + 1, activeUnits := ledger.activeUnits + weight
    revision := ledger.revision + 1, updatedAt := now}

def SandboxStore.addReservation (s : SandboxStore κ) (binding : ExecutionBindingProjection)
    (policy : AdmissionPolicySnapshot) (ids : ReservationIds) (tokenDigest : String) (generation : Nat)
    (now : Time) : SandboxStore κ :=
  ((s.addMaterialization (reservedMaterialization binding ids.materializationId generation now)).addLease
    (acquiredLease binding policy ids generation now)).addGeneration
    (activeRunner binding ids tokenDigest generation now)

-- The admission checks under the ledger's row lock.
def admitReservation (binding : ExecutionBindingProjection) (ledger : CapacityLedger) (s : SandboxStore κ) :
    Except SandboxError Unit := do
  require (ledger.policyEnabled = true) .policyDisabled
  require (activeExecution binding.executionId s = false) .activeExecutionConflict
  require (ledger.activeAttempts < ledger.activeAttemptLimit) .policyLimitReached
  require (ledger.activeUnits + binding.unitWeight ≤ ledger.maximumUnits) .capacityUnavailable

def insertReservation (binding : ExecutionBindingProjection) (policy : AdmissionPolicySnapshot)
    (ids : ReservationIds) (tokenDigest : String) (ledger : CapacityLedger) (now : Time) (s : SandboxStore κ) :
    Except SandboxError (SandboxStore κ × ReservationRecord) := do
  let generation := nextGeneration binding.executionId s
  require (s.materialization ids.materializationId = none) (.integrityError "sandbox_materialization_pkey")
  require (s.lease ids.materializationId = none) (.integrityError "uq_agent_run_lease_materialization")
  require (s.leases.any (fun row => row.executionId = binding.executionId ∧ row.state = .active) = false)
    (.integrityError "uq_agent_run_active_lease_execution")
  require (s.runner ids.materializationId = none) (.integrityError "uq_agent_run_generation_materialization")
  require (s.generations.any (fun row => row.executionId = binding.executionId ∧
      (row.state = .active ∨ row.generation = generation)) = false)
    (.integrityError "uq_agent_run_active_generation_execution")
  pure ((s.addReservation binding policy ids tokenDigest generation now).putLedger
      binding.environment.environmentId (acquireCapacity ledger binding.unitWeight now),
    ⟨ids.materializationId,binding.environment.environmentId,binding.executionId,ids.leaseId,generation,1,
      binding.bindingDigest,binding.deadlineAt⟩)

-- An inner error is an admission denial: the caller answers it and commits what
-- was written before it. An outer error rolls back.
def reserveMaterialization (binding : ExecutionBindingProjection) (policy : AdmissionPolicySnapshot)
    (ids : ReservationIds) (tokenDigest : String) (now : Time) (s : SandboxStore κ) :
    Except SandboxError (SandboxStore κ × Except SandboxError ReservationRecord) :=
  match ensureEnvironment binding.environment now s with
  | .error denied => pure (s,.error denied)
  | .ok ensured =>
    match ensureLedger binding.environment.environmentId policy now ensured with
    | .error denied => pure (ensured,.error denied)
    | .ok (ensured,ledger) =>
      match admitReservation binding ledger ensured with
      | .error denied => pure (ensured,.error denied)
      | .ok _ => do
        let (reserved,record) ← insertReservation binding policy ids tokenDigest ledger now ensured
        pure (reserved,.ok record)

namespace Materialization
variable (now : Time) (row : Materialization κ)

def bind (capsule : κ) : Materialization κ := {row with recoveryCapsule := some capsule, updatedAt := now}
def touch : Materialization κ := {row with revision := row.revision + 1, updatedAt := now}
def ready : Materialization κ :=
  {row with state := .ready, revision := row.revision + 1, updatedAt := now}
def beginCleanup (state terminal : MaterializationState) (reason : Option CancellationReason) :
    Materialization κ :=
  {row with
    state := state, cleanupTerminalState := some terminal, cancellationReason := reason
    revision := row.revision + 1, updatedAt := now}
def beginProvisionCleanup (code : DenialCode) (dimension : String) : Materialization κ :=
  {row with
    state := .quarantined, cleanupTerminalState := some .failed, denialCode := some code
    failureDimension := some dimension, revision := row.revision + 1, updatedAt := now}
def persistEvidence : Materialization κ :=
  {row with evidencePersistedAt := some now, revision := row.revision + 1, updatedAt := now}
def fence : Materialization κ :=
  {row with fencedAt := some now, revision := row.revision + 1, updatedAt := now}
def revokeSecret : Materialization κ :=
  {row with secretRevokedAt := some now, revision := row.revision + 1, updatedAt := now}
def releaseLease : Materialization κ :=
  {row with leaseReleasedAt := some now, revision := row.revision + 1, updatedAt := now}
def complete (terminal : MaterializationState) : Materialization κ :=
  {row with
    state := terminal, destroyedAt := some now, terminalAt := some now, denialCode := none
    failureDimension := none, revision := row.revision + 1, updatedAt := now}
def quarantine (code : DenialCode) (dimension : String) : Materialization κ :=
  {row with
    state := .quarantined, denialCode := some code, failureDimension := some dimension
    revision := row.revision + 1, updatedAt := now}

end Materialization

namespace RunnerGeneration
variable (now : Time) (runner : RunnerGeneration)

def ready : RunnerGeneration :=
  {runner with readyAt := some now, revision := runner.revision + 1, updatedAt := now}
def fence : RunnerGeneration :=
  {runner with state := .fenced, fencedAt := some now, revision := runner.revision + 1, updatedAt := now}
-- UPDATE … WHERE state='FENCED'
def release : RunnerGeneration :=
  if runner.state = .fenced then
    {runner with state := .released, releasedAt := some now, revision := runner.revision + 1, updatedAt := now}
  else runner

end RunnerGeneration

def CapacityLease.release (now : Time) (lease : CapacityLease) : CapacityLease :=
  {lease with
    state := .released, releasedAt := some now, revision := lease.revision + 1, updatedAt := now}

def bindCommandSubject (commandId materializationId ownerId : Uuid) (capsule : κ) (now : Time)
    (s : SandboxStore κ) : Except SandboxError (SandboxStore κ) := do
  let row ← orRaise (s.materialization materializationId) .staleRunnerGeneration
  require (row.state = .provisioning ∧ row.recoveryCapsule = none) .staleRunnerGeneration
  let receipt ← orRaise (s.receipt commandId) .staleRunnerGeneration
  require (receipt.state = .inProgress ∧ receipt.ownerId = some ownerId ∧ receipt.subjectId = none)
    .staleRunnerGeneration
  pure ((s.setMaterialization materializationId fun row => row.bind now capsule).setReceipt commandId
    fun row => row.bindSubject now materializationId)

def provisionRecovery (materializationId : Uuid) (s : SandboxStore κ) :
    Except SandboxError (ReservationRecord × κ) := do
  let row ← orRaise (s.materialization materializationId) .staleRunnerGeneration
  let lease ← orRaise (s.lease materializationId) .staleRunnerGeneration
  let capsule ← orRaise row.recoveryCapsule .staleRunnerGeneration
  pure (⟨row.id,row.environmentId,row.executionId,lease.id,row.generation,row.revision,row.bindingDigest,
    row.deadlineAt⟩,capsule)

-- The guard names the current lease, generation, token and revision, and the
-- lease and generation rows are still ACTIVE.
def lockCurrentGuard (crypto : SandboxCryptography κ) (guard : MaterializationGuard) (s : SandboxStore κ) :
    Except SandboxError (Materialization κ) := do
  let row ← orRaise (s.materialization guard.materializationId) .staleRunnerGeneration
  let lease ← orRaise (s.lease guard.materializationId) .staleRunnerGeneration
  let runner ← orRaise (s.runner guard.materializationId) .staleRunnerGeneration
  require (lease.id = guard.leaseId ∧ row.generation = guard.generation ∧
    row.revision = guard.expectedRevision ∧ lease.state = .active ∧ runner.state = .active ∧
    runner.fencingTokenDigest = crypto.fencingTokenDigest guard.fencingToken) .staleRunnerGeneration
  pure row

def markMaterializationReady (materializationId : Uuid) (generation : Nat) (now : Time) (s : SandboxStore κ) :
    Except SandboxError (SandboxStore κ × ReservationRecord) := do
  let row ← orRaise (s.materialization materializationId) .staleRunnerGeneration
  let lease ← orRaise (s.lease materializationId) .staleRunnerGeneration
  let runner ← orRaise (s.runner materializationId) .staleRunnerGeneration
  require (row.generation = generation ∧ row.state = .provisioning ∧ lease.state = .active ∧
    runner.state = .active) .staleRunnerGeneration
  pure ((s.setMaterialization materializationId (Materialization.ready now)).setGeneration materializationId
      (RunnerGeneration.ready now),
    ⟨row.id,row.environmentId,row.executionId,lease.id,generation,row.revision + 1,row.bindingDigest,
      row.deadlineAt⟩)

def cleanupRecordOf (row : Materialization κ) (lease : CapacityLease) : CleanupRecord :=
  ⟨row.id,row.environmentId,row.executionId,lease.id,row.generation,row.revision,row.state,row.deadlineAt,
    lease.expiresAt,row.cleanupTerminalState,row.cancellationReason,row.evidencePersistedAt.isSome,
    row.fencedAt.isSome,row.secretRevokedAt.isSome,row.leaseReleasedAt.isSome,row.destroyedAt.isSome⟩

def cleanupRecord (materializationId : Uuid) (s : SandboxStore κ) : Except SandboxError CleanupRecord := do
  let row ← orRaise (s.materialization materializationId) .staleRunnerGeneration
  let lease ← orRaise (s.lease materializationId) .staleRunnerGeneration
  pure (cleanupRecordOf row lease)

def evidenceRefs (materializationId : Uuid) (s : SandboxStore κ) : List EvidenceRef :=
  (s.evidence.filter fun row => row.materializationId = materializationId).map EvidenceReference.reference

def provisionOperation : String := "sandbox.provision"

-- A PROVISIONING row is an orphan once the owner of its provision command has
-- let its lease run out.
def orphaned (observedAt : Time) (row : Materialization κ) (s : SandboxStore κ) : Bool :=
  s.receipts.any fun receipt => receipt.subjectId = some row.id ∧
    receipt.scope.operation = provisionOperation ∧ receipt.state = .inProgress ∧
    receipt.ownerExpiresAt.any (· ≤ observedAt) = true

def cleanupDue (observedAt : Time) (row : Materialization κ) (lease : CapacityLease) (s : SandboxStore κ) :
    Bool :=
  row.state.cleaning = true ∨ (row.state = .provisioning ∧ orphaned observedAt row s = true) ∨
    (row.state = .ready ∧ (row.deadlineAt ≤ observedAt ∨ lease.expiresAt ≤ observedAt))

def candidateOf (environmentId : Uuid) (executionId : Option String) (observedAt : Time)
    (s : SandboxStore κ) (row : Materialization κ) : Option CleanupRecord :=
  match s.lease row.id with
  | none => none
  | some lease =>
    if row.environmentId = environmentId ∧ executionId.all (row.executionId = ·) = true ∧
        cleanupDue observedAt row lease s = true then
      some (cleanupRecordOf row lease)
    else none

def earlier (left right : CleanupRecord) : Bool :=
  left.leaseExpiresAt < right.leaseExpiresAt ∨
    (left.leaseExpiresAt = right.leaseExpiresAt ∧ left.materializationId ≤ right.materializationId)

def cleanupCandidates (environmentId : Uuid) (executionId : Option String) (observedAt : Time)
    (s : SandboxStore κ) : List CleanupRecord :=
  (s.materializations.filterMap (candidateOf environmentId executionId observedAt s)).insertionSort
    fun left right => earlier left right = true

-- The unique key of an evidence row, within its materialization.
def EvidenceRef.artifact (reference : EvidenceRef) : String × String × String :=
  (reference.artifactId,reference.version,reference.sha256)

def storedArtifacts (materializationId : Uuid) (s : SandboxStore κ) : List (String × String × String) :=
  (s.evidence.filter fun row => row.materializationId = materializationId).map fun row => row.reference.artifact

def lastSequence (materializationId : Uuid) (s : SandboxStore κ) : Nat :=
  ((s.evidence.filter fun row => row.materializationId = materializationId).map EvidenceReference.sequence).foldr max 0

-- Evidence rows are numbered after those stored, in an integer column; one artifact
-- version is stored once for a materialization.
def insertEvidence (crypto : SandboxCryptography κ) (materializationId : Uuid) (evidence : List (Uuid × EvidenceRef))
    (now : Time) (s : SandboxStore κ) : Except SandboxError (SandboxStore κ) := do
  let next := lastSequence materializationId s + 1
  require (next + (evidence.length - 1) ≤ 2147483647) (.dataError "integer out of range")
  require (∀ entry ∈ evidence, entry.2.storable = true)
    (.dataError "PostgreSQL text fields cannot contain NUL (0x00) bytes")
  require (∀ entry ∈ evidence, crypto.fits entry.2 = true)
    (.operationalError "index row size exceeds btree version 4 maximum 2704 for index \"uq_agent_run_evidence_artifact\"")
  require ((storedArtifacts materializationId s ++ evidence.map fun entry => entry.2.artifact).Nodup)
    (.integrityError "uq_agent_run_evidence_artifact")
  pure (s.addEvidence (evidence.mapIdx fun offset entry =>
    ⟨entry.1,materializationId,next + offset,entry.2,now⟩))

def beginPreviewIntent (crypto : SandboxCryptography κ) (commandId ownerId : Uuid)
    (guard : MaterializationGuard) (metadata : EvidenceRef) (expiresAt now : Time) (s : SandboxStore κ) :
    Except SandboxError (SandboxStore κ × Nat) := do
  let current ← lockCurrentGuard crypto guard s
  require (current.state = .ready) .staleRunnerGeneration
  require (s.previews commandId = none) (.integrityError "preview_intent_pkey")
  let s := s.putPreview ⟨commandId,guard.materializationId,guard.generation,metadata,expiresAt,.intent,now,now⟩
  let s := s.setMaterialization guard.materializationId (Materialization.touch now)
  let s ← advanceCommand commandId ownerId .previewIntent (some guard.materializationId) now s
  pure (s,current.revision + 1)

def completePreviewIntent (crypto : SandboxCryptography κ) (commandId ownerId evidenceId : Uuid)
    (metadata : EvidenceRef) (now : Time) (s : SandboxStore κ) : Except SandboxError (SandboxStore κ × Nat) := do
  let preview ← orRaise (s.previews commandId) .staleRunnerGeneration
  let receipt ← orRaise (s.receipt commandId) .staleRunnerGeneration
  let row ← orRaise (s.materialization preview.materializationId) .staleRunnerGeneration
  require (receipt.ownerId = some ownerId ∧ receipt.state = .inProgress ∧ preview.state = .intent ∧
    row.state = .ready) .staleRunnerGeneration
  let s ← insertEvidence crypto preview.materializationId [(evidenceId,metadata)] now s
  let s := s.putPreview {preview with state := .published, updatedAt := now}
  let s ← advanceCommand commandId ownerId .previewPublished (some preview.materializationId) now s
  pure (s,row.revision)

def expectedTransition : MaterializationState → Option MaterializationState
  | .released => some .releasing
  | .finalized => some .finalizing
  | .canceled | .timedOut => some .canceling
  | .failed => some .provisioning
  | _ => none

def beginCleanup (crypto : SandboxCryptography κ) (guard : MaterializationGuard)
    (evidence : List (Uuid × EvidenceRef)) (transition terminal : MaterializationState)
    (reason : Option CancellationReason) (now : Time) (s : SandboxStore κ) :
    Except SandboxError (SandboxStore κ × Nat) := do
  require (terminal ≠ .failed ∧ expectedTransition terminal = some transition)
    (.valueError "cleanup transition state is invalid")
  let current ← lockCurrentGuard crypto guard s
  require (current.state = .ready) .staleRunnerGeneration
  let s ← insertEvidence crypto guard.materializationId evidence now s
  pure (s.setMaterialization guard.materializationId (fun row => row.beginCleanup now transition terminal reason),
    current.revision + 1)

-- ORDER BY (state is active) DESC, generation DESC LIMIT 1
def preferred (left right : Materialization κ) : Bool :=
  (left.state.active = true ∧ right.state.active = false) ∨
    (left.state.active = right.state.active ∧ right.generation ≤ left.generation)

def executionMaterialization (executionId : String) (s : SandboxStore κ) : Option (Materialization κ) :=
  ((s.materializations.filter fun row => row.executionId = executionId).insertionSort
    fun left right => preferred left right = true).head?

def beginCancelCleanup (executionId : String) (authorizedEnvironmentId : Uuid)
    (terminal : MaterializationState) (reason : CancellationReason) (commandId ownerId : Uuid) (now : Time)
    (s : SandboxStore κ) : Except SandboxError (SandboxStore κ × CleanupRecord) := do
  let row ← orRaise (executionMaterialization executionId s) .staleRunnerGeneration
  require (row.environmentId = authorizedEnvironmentId)
    (.application .runtimeCapabilityDenied "workload_scope" false)
  require (row.state = .ready ∨ row.state.active = false) .activeExecutionConflict
  let s := if row.state = .ready then
      s.setMaterialization row.id fun row => row.beginCleanup now .canceling terminal (some reason)
    else s
  let s ← advanceCommand commandId ownerId .cleanupStarted (some row.id) now s
  let record ← cleanupRecord row.id s
  pure (s,record)

def beginProvisionCleanup (materializationId : Uuid) (code : DenialCode) (dimension : String) (now : Time)
    (s : SandboxStore κ) : Except SandboxError (SandboxStore κ × CleanupRecord) := do
  let row ← orRaise (s.materialization materializationId) .staleRunnerGeneration
  require (row.state = .provisioning) .staleRunnerGeneration
  let s := s.setMaterialization materializationId fun row => row.beginProvisionCleanup now code dimension
  let record ← cleanupRecord materializationId s
  pure (s,record)

-- The cleanup marks, each a compare-and-set on the revision.
def markEvidencePersisted (materializationId : Uuid) (expectedRevision : Nat) (now : Time)
    (s : SandboxStore κ) : Except SandboxError (SandboxStore κ) := do
  let row ← orRaise (s.materialization materializationId) .staleRunnerGeneration
  require (row.state.cleaning = true ∧ row.revision = expectedRevision ∧ row.cleanupTerminalState ≠ none ∧
    row.evidencePersistedAt = none) .staleRunnerGeneration
  pure (s.setMaterialization materializationId (Materialization.persistEvidence now))

def markFenced (materializationId : Uuid) (expectedRevision : Nat) (now : Time) (s : SandboxStore κ) :
    Except SandboxError (SandboxStore κ) := do
  let row ← orRaise (s.materialization materializationId) .staleRunnerGeneration
  let runner ← orRaise (s.runner materializationId) .staleRunnerGeneration
  require (row.state.cleaning = true ∧ row.revision = expectedRevision ∧ row.evidencePersistedAt ≠ none ∧
    row.fencedAt = none ∧ runner.state = .active) .staleRunnerGeneration
  pure ((s.setMaterialization materializationId (Materialization.fence now)).setGeneration materializationId
    (RunnerGeneration.fence now))

def markSecretRevoked (materializationId : Uuid) (expectedRevision : Nat) (now : Time) (s : SandboxStore κ) :
    Except SandboxError (SandboxStore κ) := do
  let row ← orRaise (s.materialization materializationId) .staleRunnerGeneration
  require (row.revision = expectedRevision ∧ row.fencedAt ≠ none ∧ row.secretRevokedAt = none)
    .staleRunnerGeneration
  pure (s.setMaterialization materializationId (Materialization.revokeSecret now))

def returnCapacity (ledger : CapacityLedger) (weight : Nat) (now : Time) : CapacityLedger :=
  {ledger with
    activeAttempts := ledger.activeAttempts - 1, activeUnits := ledger.activeUnits - weight
    revision := ledger.revision + 1, updatedAt := now}

def releaseCapacity (materializationId : Uuid) (expectedRevision : Nat) (now : Time) (s : SandboxStore κ) :
    Except SandboxError (SandboxStore κ) := do
  let row ← orRaise (s.materialization materializationId) .staleRunnerGeneration
  let lease ← orRaise (s.lease materializationId) .staleRunnerGeneration
  require (row.revision = expectedRevision ∧ row.secretRevokedAt ≠ none ∧ row.leaseReleasedAt = none ∧
    lease.state = .active) .staleRunnerGeneration
  let s := ((s.setMaterialization materializationId (Materialization.releaseLease now)).setLease
    materializationId (CapacityLease.release now)).setGeneration materializationId
    (RunnerGeneration.release now)
  let ledger ← orRaise (s.ledgers row.environmentId) .staleRunnerGeneration
  require (1 ≤ ledger.activeAttempts ∧ row.resourceUnitWeight ≤ ledger.activeUnits) .staleRunnerGeneration
  pure (s.putLedger row.environmentId (returnCapacity ledger row.resourceUnitWeight now))

def completeCleanup (materializationId : Uuid) (expectedRevision : Nat) (terminal : MaterializationState)
    (now : Time) (s : SandboxStore κ) : Except SandboxError (SandboxStore κ) := do
  let transition ← orRaise (expectedTransition terminal) (.valueError "cleanup terminal state is invalid")
  let row ← orRaise (s.materialization materializationId) .staleRunnerGeneration
  require ((row.state = transition ∨ row.state = .quarantined) ∧ row.cleanupTerminalState = some terminal ∧
    row.revision = expectedRevision ∧ row.leaseReleasedAt ≠ none ∧ row.destroyedAt = none)
    .staleRunnerGeneration
  pure (s.setMaterialization materializationId fun row => row.complete now terminal)

def quarantineCleanup (materializationId : Uuid) (expectedRevision : Nat) (code : DenialCode)
    (dimension : String) (now : Time) (s : SandboxStore κ) :
    Except SandboxError (SandboxStore κ) := do
  let row ← orRaise (s.materialization materializationId) .staleRunnerGeneration
  require (row.state.cleaning = true ∧ row.revision = expectedRevision ∧ row.cleanupTerminalState ≠ none)
    .staleRunnerGeneration
  pure (s.setMaterialization materializationId fun row => row.quarantine now code dimension)

end EngineeringPlatform.Sandbox
