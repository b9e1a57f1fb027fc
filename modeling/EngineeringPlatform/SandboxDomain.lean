import EngineeringPlatform.Checked
import EngineeringPlatform.Idempotency
namespace EngineeringPlatform.Sandbox
open Idempotency

inductive MaterializationState where
  | provisioning
  | ready
  | releasing
  | released
  | finalizing
  | finalized
  | canceling
  | canceled
  | timedOut
  | failed
  | quarantined
  deriving DecidableEq, Repr

inductive EvidenceKind where
  | checkpoint
  | patch
  | log
  | testResult
  | previewMetadata
  | diagnostic
  deriving DecidableEq, Repr

inductive DenialCode where
  | capacityUnavailable
  | policyLimitReached
  | policyDisabled
  | runtimeBindingInvalid
  | runtimeCapabilityDenied
  | runtimeBoundaryViolation
  | staleRunnerGeneration
  | resourceExhausted
  deriving DecidableEq, Repr

def DenialCode.value : DenialCode → String
  | .capacityUnavailable => "CAPACITY_UNAVAILABLE"
  | .policyLimitReached => "POLICY_LIMIT_REACHED"
  | .policyDisabled => "POLICY_DISABLED"
  | .runtimeBindingInvalid => "RUNTIME_BINDING_INVALID"
  | .runtimeCapabilityDenied => "RUNTIME_CAPABILITY_DENIED"
  | .runtimeBoundaryViolation => "RUNTIME_BOUNDARY_VIOLATION"
  | .staleRunnerGeneration => "STALE_RUNNER_GENERATION"
  | .resourceExhausted => "RESOURCE_EXHAUSTED"

inductive CancellationReason where
  | canceled
  | timedOut
  | terminated
  | securityViolation
  deriving DecidableEq, Repr

structure SandboxEnvironmentRef where
  environmentId : Uuid
  workspaceId : String
  requirementId : String
  deriving DecidableEq

-- The part of the binding that admission and the three inserted rows read.
structure ExecutionBindingProjection where
  executionId : String
  environment : SandboxEnvironmentRef
  bindingDigest : String
  deadlineAt : Time
  unitWeight : Nat
  protocolVersion : String
  deriving DecidableEq

structure AdmissionPolicySnapshot where
  policyVersion : String
  enabled : Bool
  activeAttemptLimit : Nat
  maximumUnits : Nat
  leaseTtlSeconds : Nat
  deriving DecidableEq

structure EvidenceRef where
  kind : EvidenceKind
  artifactId : String
  version : String
  sha256 : String
  classification : String
  deriving DecidableEq

-- A text column holds no NUL character.
def storable (text : String) : Bool := !text.toList.contains (Char.ofNat 0)

def EvidenceRef.storable (reference : EvidenceRef) : Bool :=
  Sandbox.storable reference.artifactId && Sandbox.storable reference.version &&
    Sandbox.storable reference.classification

structure MaterializationGuard where
  materializationId : Uuid
  leaseId : Uuid
  generation : Nat
  fencingToken : String
  expectedRevision : Nat
  deriving DecidableEq

structure MaterializationHandle where
  materializationId : Uuid
  environmentId : Uuid
  executionId : String
  leaseId : Uuid
  generation : Nat
  fencingToken : String
  revision : Nat
  deadlineAt : Time
  deriving DecidableEq

structure CanonicalDenial where
  code : DenialCode
  failureDimension : Option String
  retryable : Bool
  deriving DecidableEq

inductive ProvisionResult where
  | ready (handle : MaterializationHandle) (bindingDigest runnerProtocolVersion : String)
  | blocked (executionId bindingDigest : String) (denial : CanonicalDenial)
  | failed (executionId bindingDigest : String) (denial : CanonicalDenial)
  deriving DecidableEq

inductive PreviewResult where
  | published (previewId accessRef : String) (expiresAt : Time) (revision : Nat)
  | denied (denial : CanonicalDenial) (revision : Option Nat)
  deriving DecidableEq

structure LifecycleReceipt where
  operation : String
  materializationId : Uuid
  state : MaterializationState
  revision : Nat
  evidenceRefs : List EvidenceRef
  denial : Option CanonicalDenial
  deriving DecidableEq

inductive ReconciliationAction where
  | cleanupCompleted
  | quarantined
  deriving DecidableEq, Repr

structure LeaseReconciliationItem where
  materializationId : Uuid
  state : MaterializationState
  revision : Nat
  action : ReconciliationAction
  deriving DecidableEq

structure ReconciliationReceipt where
  environmentId : Uuid
  observedAt : Time
  items : List LeaseReconciliationItem
  reconciledCount : Nat
  deriving DecidableEq

inductive SandboxResult where
  | provision (result : ProvisionResult)
  | preview (result : PreviewResult)
  | lifecycle (receipt : LifecycleReceipt)
  | reconciliation (receipt : ReconciliationReceipt)
  deriving DecidableEq

-- One constructor for each exception class. The first six are the admission
-- errors, which a claim answers with a stored denial.
inductive SandboxError where
  | policyDisabled
  | policyLimitReached
  | capacityUnavailable
  | activeExecutionConflict
  | environmentConflict
  | policySnapshotConflict
  | staleRunnerGeneration
  | application (code : DenialCode) (failureDimension : String) (retryable : Bool)
  | policyViolation (code : DenialCode) (failureDimension : String)
  | idempotencyConflict (message : String)
  | idempotencyReplayUnavailable (message : String)
  | integrityError (constraint : String)
  | dataError (message : String)
  | operationalError (message : String)
  | valueError (message : String)
  deriving DecidableEq

def SandboxError.denial : SandboxError → Option CanonicalDenial
  | .policyDisabled => some ⟨.policyDisabled,some "admission_policy",false⟩
  | .policyLimitReached => some ⟨.policyLimitReached,some "active_attempt_limit",true⟩
  | .capacityUnavailable => some ⟨.capacityUnavailable,some "capacity_units",true⟩
  | .activeExecutionConflict => some ⟨.runtimeBindingInvalid,some "active_execution",false⟩
  | .environmentConflict => some ⟨.runtimeBindingInvalid,some "sandbox_environment",false⟩
  | .policySnapshotConflict => some ⟨.runtimeBindingInvalid,some "capacity_policy",false⟩
  | .staleRunnerGeneration => some ⟨.staleRunnerGeneration,some "runner_generation",false⟩
  | .application code dimension retryable => some ⟨code,some dimension,retryable⟩
  | .policyViolation code dimension => some ⟨code,some dimension,false⟩
  | _ => none

-- `_ACTIVE_MATERIALIZATION_STATES`; the other five states are terminal.
def MaterializationState.active : MaterializationState → Bool
  | .provisioning | .ready | .releasing | .finalizing | .canceling | .quarantined => true
  | .released | .finalized | .canceled | .timedOut | .failed => false

def MaterializationState.cleaning : MaterializationState → Bool
  | .releasing | .finalizing | .canceling | .quarantined => true
  | _ => false

inductive EnvironmentState where
  | active
  | disabled
  deriving DecidableEq, Repr

structure SandboxEnvironment where
  id : Uuid
  workspaceId : String
  requirementId : String
  state : EnvironmentState
  revision : Nat
  createdAt : Time
  updatedAt : Time
  deriving DecidableEq

structure CapacityLedger where
  environmentId : Uuid
  policyVersion : String
  policyEnabled : Bool
  activeAttemptLimit : Nat
  maximumUnits : Nat
  activeAttempts : Int
  activeUnits : Int
  revision : Nat
  createdAt : Time
  updatedAt : Time
  deriving DecidableEq

structure Materialization (κ : Type) where
  id : Uuid
  environmentId : Uuid
  executionId : String
  bindingDigest : String
  deadlineAt : Time
  state : MaterializationState
  revision : Nat
  generation : Nat
  resourceUnitWeight : Nat
  denialCode : Option DenialCode := none
  failureDimension : Option String := none
  cleanupTerminalState : Option MaterializationState := none
  cancellationReason : Option CancellationReason := none
  evidencePersistedAt : Option Time := none
  fencedAt : Option Time := none
  secretRevokedAt : Option Time := none
  leaseReleasedAt : Option Time := none
  destroyedAt : Option Time := none
  terminalAt : Option Time := none
  recoveryCapsule : Option κ := none
  createdAt : Time
  updatedAt : Time
  deriving DecidableEq

inductive LeaseState where
  | active
  | released
  | quarantined
  deriving DecidableEq, Repr

structure CapacityLease where
  id : Uuid
  environmentId : Uuid
  materializationId : Uuid
  executionId : String
  generation : Nat
  unitWeight : Nat
  state : LeaseState
  expiresAt : Time
  revision : Nat
  acquiredAt : Time
  releasedAt : Option Time := none
  updatedAt : Time
  deriving DecidableEq

inductive GenerationState where
  | active
  | fenced
  | released
  | quarantined
  deriving DecidableEq, Repr

structure RunnerGeneration where
  id : Uuid
  materializationId : Uuid
  executionId : String
  generation : Nat
  fencingTokenDigest : String
  bindingDigest : String
  protocolVersion : String
  deadlineAt : Time
  state : GenerationState
  revision : Nat
  createdAt : Time
  readyAt : Option Time := none
  fencedAt : Option Time := none
  releasedAt : Option Time := none
  updatedAt : Time
  deriving DecidableEq

structure EvidenceReference where
  id : Uuid
  materializationId : Uuid
  sequence : Nat
  reference : EvidenceRef
  createdAt : Time
  deriving DecidableEq

inductive CommandPhase where
  | claimed
  | reserved
  | cleanupStarted
  | cleanupQuarantined
  | previewIntent
  | previewPublished
  | completed
  deriving DecidableEq, Repr

structure ReconcileProgress where
  candidates : List Uuid
  items : List LeaseReconciliationItem
  deriving DecidableEq

-- `ownerId` and `ownerExpiresAt` are set while a command is in progress and
-- cleared by its completion. `progress` is `none` for the empty JSON object.
structure CommandReceipt (κ : Type) where
  id : Uuid
  scope : Scope
  requestFingerprint : String
  state : IdempotencyState
  httpStatus : Option Nat := none
  sealedResponse : Option κ := none
  subjectId : Option Uuid := none
  ownerId : Option Uuid
  ownerExpiresAt : Option Time
  phase : CommandPhase
  progress : Option ReconcileProgress := none
  createdAt : Time
  updatedAt : Time
  completedAt : Option Time := none
  deriving DecidableEq

inductive PreviewIntentState where
  | intent
  | published
  deriving DecidableEq, Repr

structure PreviewIntentRow where
  commandId : Uuid
  materializationId : Uuid
  generation : Nat
  metadata : EvidenceRef
  expiresAt : Time
  state : PreviewIntentState
  createdAt : Time
  updatedAt : Time
  deriving DecidableEq

structure ReconciliationRun where
  id : Uuid
  environmentId : Uuid
  executionId : Option String
  actor : String
  correlationId : String
  observedAt : Time
  scannedCount : Nat
  reconciledCount : Nat
  completedAt : Time
  deriving DecidableEq

-- What a denied cancellation leaves in the audit log in a transaction of its own.
structure SandboxAuditAppend where
  id : Uuid
  occurredAt : Time
  actor : String
  action : String
  targetId : String
  result : String
  reason : Option String
  deriving DecidableEq

structure ReservationRecord where
  materializationId : Uuid
  environmentId : Uuid
  executionId : String
  leaseId : Uuid
  generation : Nat
  revision : Nat
  bindingDigest : String
  deadlineAt : Time
  deriving DecidableEq

structure RecoveryPayload where
  materializationId : Uuid
  leaseId : Uuid
  executionId : String
  fencingToken : String
  deriving DecidableEq

structure CleanupRecord where
  materializationId : Uuid
  environmentId : Uuid
  executionId : String
  leaseId : Uuid
  generation : Nat
  revision : Nat
  state : MaterializationState
  deadlineAt : Time
  leaseExpiresAt : Time
  cleanupTerminalState : Option MaterializationState
  cancellationReason : Option CancellationReason
  evidencePersisted : Bool
  fenced : Bool
  secretRevoked : Bool
  leaseReleased : Bool
  destroyed : Bool
  deriving DecidableEq

-- The body of a lease reconciliation, as its request fingerprint covers it.
structure ReconcileBody where
  environmentId : Uuid
  executionId : Option String
  observedAt : Time
  deriving DecidableEq

-- SHA-256 of a fencing token, the keyed request fingerprint, sealing of the stored
-- responses and recovery capsules, and which evidence rows fit the table: the server
-- bounds a text, and the row of the unique index at 2704 bytes after compression.
structure SandboxCryptography (κ : Type) where
  fencingTokenDigest : String → String
  reconcileFingerprint : ReconcileBody → String
  sealing : Sealing SandboxResult κ
  sealRecovery : RecoveryPayload → κ
  unsealRecovery : κ → Option RecoveryPayload
  fits : EvidenceRef → Bool

end EngineeringPlatform.Sandbox
