import EngineeringPlatform.Checked
import EngineeringPlatform.Platform
import EngineeringPlatform.PythonText
namespace EngineeringPlatform.Agent
open Checked

inductive AttemptState where
  | created
  | binding
  | queued
  | provisioning
  | running
  | waitingInput
  | finalizing
  | succeeded
  | failed
  | canceling
  | canceled
  | timedOut
  deriving DecidableEq, Repr

inductive RunState where
  | active
  | succeeded
  | failed
  | canceled
  | timedOut
  deriving DecidableEq, Repr

inductive ExecutionBindingSource where
  | devFake
  | configuration
  deriving DecidableEq, Repr

structure AgentDefinition where
  id : Uuid
  version : Nat
  deriving DecidableEq

structure ExecutionBinding where
  id : Uuid
  source : ExecutionBindingSource
  digest : String
  deriving DecidableEq

structure CheckpointInput where
  id : Uuid
  artifactId : String
  artifactVersion : String
  contentSha256 : String
  schemaVersion : String
  adapterVersion : String
  classification : String
  deriving DecidableEq

structure AgentRunBusinessContext where
  requirementId : Uuid
  workItemId : Uuid
  assignmentId : Uuid
  deriving DecidableEq

structure AgentRun where
  id : Uuid
  workspaceId : Uuid
  businessContext : Option AgentRunBusinessContext
  goalRef : String
  createdBy : String
  definitionId : Uuid
  definitionVersion : Nat
  latestAttemptId : Uuid
  state : RunState
  revision : Nat
  createdAt : Time
  updatedAt : Time
  deriving DecidableEq

structure AgentAttempt where
  id : Uuid
  runId : Uuid
  number : Nat
  state : AttemptState
  bindingId : Uuid
  bindingDigest : String
  runnerGeneration : Nat
  fencingToken : String
  checkpoint : Option CheckpointInput
  eventSequence : Nat
  waitingDeadline : Option Time
  revision : Nat
  createdAt : Time
  updatedAt : Time
  deriving DecidableEq

-- The event type and the shape its `data` must have, which the platform checks
-- together: each type carries exactly its own fields.
inductive EventPayload where
  | attemptQueued (bindingSource : ExecutionBindingSource) (bindingDigest : String)
  | attemptProvisioning
  | attemptRunning
  | waitingInput (checkpoint : CheckpointInput) (waitingDeadline : Time) (question : Option String)
  | attemptFinalizing
  | attemptSucceeded
  | attemptFailed
  | attemptCanceled
  | attemptTimedOut
  deriving DecidableEq

structure CanonicalEventInput where
  id : Uuid
  payload : EventPayload
  attemptId : Uuid
  generation : Nat
  sequence : Nat
  correlationId : String
  causationId : Option String
  traceId : String
  spanId : String
  summary : String
  generationPositive : 1 ≤ generation
  sequencePositive : 1 ≤ sequence
  deriving DecidableEq

structure EventAcceptanceReceipt where
  eventId : Uuid
  attempt : AgentAttempt
  checkpoint : Option CheckpointInput
  deriving DecidableEq

inductive WorkflowCommandKind where
  | start
  | cancel
  | resume
  deriving DecidableEq, Repr

inductive WorkflowCommandState where
  | planned
  | dispatched
  | unknown
  | failed
  deriving DecidableEq, Repr

inductive WorkflowClaimMode where
  | dispatch
  | reconcile
  deriving DecidableEq, Repr

inductive WorkflowErrorCode where
  | preCallFailure
  | acknowledgementUnknown
  | claimAttemptsExhausted
  | devDeterministicRejection
  | reconciliationRejected
  deriving DecidableEq, Repr

structure WorkflowReceipt where
  commandKey : String
  outcome : String
  deriving DecidableEq

-- The four claim columns are null together or set together.
structure WorkflowClaim where
  owner : String
  token : Uuid
  leaseUntil : Time
  mode : WorkflowClaimMode
  deriving DecidableEq

structure WorkflowCommand where
  id : Uuid
  commandKey : String
  kind : WorkflowCommandKind
  attemptId : Uuid
  generation : Nat
  state : WorkflowCommandState
  dispatchAttempts : Nat := 0
  receipt : Option WorkflowReceipt := none
  lastErrorCode : Option WorkflowErrorCode := none
  createdAt : Time
  updatedAt : Time
  dispatchedAt : Option Time := none
  claim : Option WorkflowClaim := none
  deriving DecidableEq

structure AgentAuditAppend where
  id : Uuid
  occurredAt : Time
  actor : String
  action : String
  targetType : String
  targetId : Uuid
  result : String
  deriving DecidableEq

inductive AgentError where
  | illegalAttemptTransition (current target : AttemptState)
  | resumeGenerationRequired (attemptId : Uuid)
  | checkpointRequired (attemptId : Uuid)
  | checkpointReplacementForbidden (attemptId : Uuid)
  | attemptNotResumable (id : Uuid)
  | invalidFencingToken (attemptId : Uuid)
  | eventReplayConflict (message : String)
  | eventReplayUnavailable (message : String)
  | eventSequenceGap (message : String)
  | unknownWorkflowEvent
  | attemptRevisionConflict (message : String)
  | attemptWaitingExpired (attemptId : Uuid)
  | bindingDigestMismatch (attemptId : Uuid)
  | agentRunNotFound (runId : Uuid)
  | agentAttemptNotFound (attemptId : Uuid)
  | invalidRequirementExecutionContext (message : String)
  | requirementDependencyUnavailable (message : String)
  | definitionUnavailable (message : String)
  | idempotencyConflict (message : String)
  | idempotencyInProgress (message : String)
  | agentReplayUnavailable (message : String)
  | integrityError (constraint : String)
  | valueError (message : String)
  | runtimeError (message : String)
  deriving DecidableEq

def AttemptState.value : AttemptState → String
  | .created => "CREATED"
  | .binding => "BINDING"
  | .queued => "QUEUED"
  | .provisioning => "PROVISIONING"
  | .running => "RUNNING"
  | .waitingInput => "WAITING_INPUT"
  | .finalizing => "FINALIZING"
  | .succeeded => "SUCCEEDED"
  | .failed => "FAILED"
  | .canceling => "CANCELING"
  | .canceled => "CANCELED"
  | .timedOut => "TIMED_OUT"

def allowedTransitions : AttemptState → List AttemptState
  | .created => [.binding,.canceling]
  | .binding => [.queued,.failed,.canceling]
  | .queued => [.provisioning,.canceling]
  | .provisioning => [.running,.failed,.canceling]
  | .running => [.waitingInput,.finalizing,.canceling]
  | .waitingInput => [.queued,.canceling]
  | .finalizing => [.succeeded,.failed,.canceling]
  | .canceling => [.canceled,.timedOut]
  | .succeeded | .failed | .canceled | .timedOut => []

def AttemptState.terminal : AttemptState → Bool
  | .succeeded | .failed | .canceled | .timedOut => true
  | _ => false

-- The token names the attempt and the generation it fences.
def fenceToken (attemptId generation : Nat) : String :=
  s!"fence:{attemptId}:generation:{generation}"

def transitionAttempt (attempt : AgentAttempt) (target : AttemptState)
    (checkpoint : Option CheckpointInput) (now : Time) : Except AgentError AgentAttempt := do
  require (target ∈ allowedTransitions attempt.state)
    (.illegalAttemptTransition attempt.state target)
  require (¬(attempt.state = .waitingInput ∧ target = .queued)) (.resumeGenerationRequired attempt.id)
  require (¬(target = .waitingInput ∧ checkpoint = none)) (.checkpointRequired attempt.id)
  require (¬(target ≠ .waitingInput ∧ checkpoint ≠ none)) (.checkpointReplacementForbidden attempt.id)
  pure {attempt with
    state := target
    checkpoint := if target = .waitingInput then checkpoint else attempt.checkpoint
    revision := attempt.revision + 1
    updatedAt := now}

def resumeGeneration (attempt : AgentAttempt) (fencingToken : String) (now : Time) :
    Except AgentError AgentAttempt := do
  require (attempt.state = .waitingInput ∧ attempt.checkpoint ≠ none) (.attemptNotResumable attempt.id)
  require (blank fencingToken = false ∧ fencingToken ≠ attempt.fencingToken)
    (.invalidFencingToken attempt.id)
  pure {attempt with
    state := .queued
    runnerGeneration := attempt.runnerGeneration + 1
    fencingToken := fencingToken
    revision := attempt.revision + 1
    updatedAt := now}

theorem transitionAttempt_ok (moved : transitionAttempt attempt target checkpoint now = .ok next) :
    target ∈ allowedTransitions attempt.state ∧
    ¬(attempt.state = .waitingInput ∧ target = .queued) ∧
    (target = .waitingInput ↔ checkpoint ≠ none) ∧
    next = {attempt with
      state := target
      checkpoint := if target = .waitingInput then checkpoint else attempt.checkpoint
      revision := attempt.revision + 1
      updatedAt := now} := by
  simp only [transitionAttempt,require_bind_ok,pure_ok] at moved
  obtain ⟨allowed,fresh,needed,forbidden,rfl⟩ := moved
  refine ⟨allowed,fresh,?_,rfl⟩
  constructor
  · intro waiting absent
    exact needed ⟨waiting,absent⟩
  · intro given
    by_cases waiting : target = .waitingInput
    · exact waiting
    · exact absurd ⟨waiting,given⟩ forbidden

theorem resumeGeneration_ok (resumed : resumeGeneration attempt token now = .ok next) :
    attempt.state = .waitingInput ∧ attempt.checkpoint ≠ none ∧ token ≠ attempt.fencingToken ∧
    next = {attempt with
      state := .queued
      runnerGeneration := attempt.runnerGeneration + 1
      fencingToken := token
      revision := attempt.revision + 1
      updatedAt := now} := by
  simp only [resumeGeneration,require_bind_ok,pure_ok] at resumed
  obtain ⟨waiting,fresh,rfl⟩ := resumed
  exact ⟨waiting.1,waiting.2,fresh.2,rfl⟩

-- Within one attempt two tokens are equal exactly when their generations are.
theorem fenceToken_injective {attemptId g h : Nat}
    (same : fenceToken attemptId g = fenceToken attemptId h) : g = h := by
  unfold fenceToken at same
  exact PythonText.repr_injective ((String.append_right_inj _).mp same)

end EngineeringPlatform.Agent
