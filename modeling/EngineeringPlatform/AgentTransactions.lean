import EngineeringPlatform.AgentStore
namespace EngineeringPlatform.Agent
open Checked Idempotency
variable {κ : Type}

structure RequirementExecutionContext where
  workspaceId : Uuid
  requirementId : Uuid
  workItemId : Uuid
  assignmentId : Uuid
  goalRef : String

structure StartRunCommand where
  workspaceId : Uuid
  requirementId : Uuid
  workItemId : Uuid
  definitionId : Uuid
  definitionVersion : Nat
  goal : String
  idempotencyKey : String
  correlationId : String

-- What one transaction reads from its ports: clock, new identifiers, and the
-- answers of the services it calls (`none` where the port raises).
structure StartEnvironment where
  actor : String
  now : Time
  claimId : Uuid
  context : Option RequirementExecutionContext
  definitionActive : Bool
  binding : Option ExecutionBinding
  runId : Uuid
  attemptId : Uuid
  eventId : Uuid
  commandId : Uuid
  auditId : Uuid

structure AttemptControlCommand where
  runId : Uuid
  attemptId : Uuid
  expectedRevision : Nat
  idempotencyKey : String
  correlationId : String

inductive SourceProtection where
  | context (current : RequirementExecutionContext)
  | notFoundOrIneligible
  | identityChanged
  | unverifiable

structure ControlEnvironment where
  actor : String
  now : Time
  claimId : Uuid
  commandId : Uuid
  auditId : Uuid

structure ResumeEnvironment extends ControlEnvironment where
  protection : SourceProtection
  resumedAt : Time

structure EventEnvironment where
  actor : String
  now : Time
  auditId : Uuid

inductive EventOutcome where
  | accepted (event : CanonicalEventInput) (attempt : AgentAttempt) (checkpoint : Option CheckpointInput)
  | staleGeneration (attemptId : Uuid)
  deriving DecidableEq

def raiseIdempotency : IdempotencyError → AgentError
  | .conflict => .idempotencyConflict "Idempotency-Key is bound to a different request"
  | .inProgress => .idempotencyInProgress "Idempotency-Key reservation is in progress"
  | .replayUnavailable => .agentReplayUnavailable "Agent response replay is unavailable"

-- The bridge to shared idempotent execution: the whole result is the sealed
-- response body, and a replayed body must have the expected result type.
def executeAgentCommand (crypto : AgentCryptography κ) (scope : Scope) (path : String)
    (body : CommandBody) (claimId : Uuid) (now : Time) {α : Type} (wrap : α → CommandResult)
    (unwrap : CommandResult → Option α) (command : AgentStore κ → Except AgentError (AgentStore κ × α))
    (s : AgentStore κ) : Except AgentError (AgentStore κ × α) := do
  let fingerprint := crypto.requestFingerprint ⟨scope.operation,"POST",path,body⟩
  let (after,response) ← executeIdempotent idempotencyRepository crypto.sealing raiseIdempotency scope
    fingerprint claimId now (fun claimed => do
      let (after,result) ← command claimed
      pure (after,{statusCode := 202, body := wrap result})) s
  let result ← orRaise (unwrap response.body)
    (.agentReplayUnavailable "Agent response replay is unavailable")
  pure (after,result)

def CommandResult.startedResult : CommandResult → Option StartRunResult
  | .started result => some result
  | .controlled _ => none

def CommandResult.controlledResult : CommandResult → Option AttemptControlResult
  | .controlled result => some result
  | .started _ => none

def scopeActor (workspaceId : Uuid) (actor : String) : String :=
  s!"workspace:{workspaceId}:actor:{actor}"

def initialAttempt (env : StartEnvironment) (binding : ExecutionBinding) : AgentAttempt where
  id := env.attemptId
  runId := env.runId
  number := 1
  state := .created
  bindingId := binding.id
  bindingDigest := binding.digest
  runnerGeneration := 1
  fencingToken := fenceToken env.attemptId 1
  checkpoint := none
  eventSequence := 0
  waitingDeadline := none
  revision := 1
  createdAt := env.now
  updatedAt := env.now

def queuedEvent (env : StartEnvironment) (command : StartRunCommand) (binding : ExecutionBinding) :
    CanonicalEventInput where
  id := env.eventId
  payload := .attemptQueued binding.source binding.digest
  attemptId := env.attemptId
  generation := 1
  sequence := 1
  correlationId := command.correlationId
  causationId := none
  traceId := s!"agent-start:{env.runId}"
  spanId := s!"agent-start:{env.attemptId}"
  summary := "Attempt queued for restricted DEV control-plane execution"
  generationPositive := Nat.le_refl 1
  sequencePositive := Nat.le_refl 1

def activeRun (env : StartEnvironment) (context : RequirementExecutionContext)
    (definition : AgentDefinition) : AgentRun where
  id := env.runId
  workspaceId := context.workspaceId
  businessContext := some ⟨context.requirementId,context.workItemId,context.assignmentId⟩
  goalRef := context.goalRef
  createdBy := env.actor
  definitionId := definition.id
  definitionVersion := definition.version
  latestAttemptId := env.attemptId
  state := .active
  revision := 1
  createdAt := env.now
  updatedAt := env.now

def plannedCommand (id : Uuid) (kind : WorkflowCommandKind) (commandKey : String) (attemptId : Uuid)
    (generation : Nat) (now : Time) : WorkflowCommand where
  id := id
  commandKey := commandKey
  kind := kind
  attemptId := attemptId
  generation := generation
  state := .planned
  createdAt := now
  updatedAt := now

def startWorkflow (env : StartEnvironment) : WorkflowCommand :=
  plannedCommand env.commandId .start s!"start:{env.attemptId}:generation-1" env.attemptId 1 env.now

def startOperation (crypto : AgentCryptography κ) (env : StartEnvironment) (command : StartRunCommand)
    (s : AgentStore κ) : Except AgentError (AgentStore κ × StartRunResult) := do
  let context ← orRaise env.context
    (.invalidRequirementExecutionContext "Requirement context identities are invalid")
  require (context.workspaceId = command.workspaceId ∧ context.requirementId = command.requirementId ∧
      context.workItemId = command.workItemId)
    (.invalidRequirementExecutionContext "Requirement context identities do not match Agent request")
  let definition ← orRaise (s.definitions (command.definitionId,command.definitionVersion))
    (.definitionUnavailable "active Agent Definition is unavailable")
  require (env.definitionActive = true)
    (.definitionUnavailable "inactive Agent Definition is unavailable")
  let binding ← orRaise env.binding (.definitionUnavailable "execution binding policy is unavailable")
  let bindingState ← transitionAttempt (initialAttempt env binding) .binding none env.now
  let queuedState ← transitionAttempt bindingState .queued none env.now
  let queued := {queuedState with eventSequence := 1}
  let run := activeRun env context definition
  let event := queuedEvent env command binding
  let workflow := startWorkflow env
  let s ← insertRun s run
  let s ← insertAttempt s queued
  let s ← insertBinding s env.attemptId binding
  let (s,persistedEvent) ← appendEvent crypto.canonicalDigest s event
  let s ← appendEventReceipt s ⟨persistedEvent.id,queued,none⟩
  let s ← insertWorkflowCommand s workflow
  pure (appendAuditEvent s ⟨env.auditId,env.now,env.actor,"agent.run.start","agent_run",env.runId,"QUEUED"⟩,
    ⟨run,queued,binding,persistedEvent,workflow⟩)

def startRun (crypto : AgentCryptography κ) (env : StartEnvironment) (command : StartRunCommand)
    (s : AgentStore κ) : Except AgentError (AgentStore κ × StartRunResult) :=
  executeAgentCommand crypto
    ⟨scopeActor command.workspaceId env.actor,"agent.run.start",command.idempotencyKey⟩
    "/api/v1/agent-runs"
    (.startRun command.workspaceId command.requirementId command.workItemId command.definitionId
      command.definitionVersion command.goal)
    env.claimId env.now .started CommandResult.startedResult (startOperation crypto env command) s

def controlAudit (env : ControlEnvironment) (operation : String) (at' : Time) (attempt : AgentAttempt) :
    AgentAuditAppend :=
  ⟨env.auditId,at',env.actor,operation,"agent_attempt",attempt.id,attempt.state.value⟩

def cancelWorkflow (env : ControlEnvironment) (attempt : AgentAttempt) : WorkflowCommand :=
  plannedCommand env.commandId .cancel s!"cancel:{attempt.id}:generation-{attempt.runnerGeneration}"
    attempt.id attempt.runnerGeneration env.now

def resumeWorkflow (env : ResumeEnvironment) (attempt : AgentAttempt) : WorkflowCommand :=
  plannedCommand env.commandId .resume s!"resume:{attempt.id}:generation-{attempt.runnerGeneration}"
    attempt.id attempt.runnerGeneration env.resumedAt

def cancelOperation (env : ControlEnvironment) (command : AttemptControlCommand) (attempt : AgentAttempt)
    (s : AgentStore κ) : Except AgentError (AgentStore κ × AttemptControlResult) := do
  require (attempt.revision = command.expectedRevision)
    (.attemptRevisionConflict "If-Match does not match the current Attempt revision")
  if attempt.state.terminal = false ∧ attempt.state ≠ .canceling then
    let canceling ← transitionAttempt attempt .canceling none env.now
    let (s,persisted) ← orRaise
      (compareAndSetAttempt s attempt.id attempt.revision (mutationOf canceling env.now))
      (.runtimeError "Attempt cancellation lost its row lock")
    let workflow := cancelWorkflow env attempt
    let s ← insertWorkflowCommand s workflow
    pure (appendAuditEvent s (controlAudit env "agent.attempt.cancel" env.now persisted),⟨persisted,some workflow⟩)
  else
    pure (appendAuditEvent s (controlAudit env "agent.attempt.cancel" env.now attempt),⟨attempt,none⟩)

-- `_protect_resume_source`: the business source recorded at start must still be
-- the current one when the attempt continues.
def protectResumeSource (run : AgentRun) (protection : SourceProtection) : Except AgentError PUnit := do
  let source ← orRaise run.businessContext (.attemptNotResumable run.id)
  match protection with
  | .notFoundOrIneligible => .error (.attemptNotResumable run.id)
  | .identityChanged => .error (.attemptNotResumable run.id)
  | .unverifiable =>
    .error (.requirementDependencyUnavailable "Resume business context is unverifiable")
  | .context current => do
    require (current.requirementId = source.requirementId ∧ current.workItemId = source.workItemId)
      (.requirementDependencyUnavailable "Resume business context target is invalid")
    require (current.workspaceId = run.workspaceId ∧ current.assignmentId = source.assignmentId)
      (.attemptNotResumable run.id)

def resumeOperation (env : ResumeEnvironment) (command : AttemptControlCommand) (run : AgentRun)
    (attempt : AgentAttempt) (s : AgentStore κ) :
    Except AgentError (AgentStore κ × AttemptControlResult) := do
  require (attempt.revision = command.expectedRevision)
    (.attemptRevisionConflict "If-Match does not match the current Attempt revision")
  require (attempt.state = .waitingInput ∧ attempt.checkpoint ≠ none) (.attemptNotResumable attempt.id)
  let deadline ← orRaise attempt.waitingDeadline (.attemptWaitingExpired attempt.id)
  require (env.now < deadline) (.attemptWaitingExpired attempt.id)
  let binding ← orRaise (s.bindings attempt.id) (.bindingDigestMismatch attempt.id)
  require (binding.id = attempt.bindingId ∧ binding.digest = attempt.bindingDigest)
    (.bindingDigestMismatch attempt.id)
  protectResumeSource run env.protection
  require (env.resumedAt < deadline) (.attemptWaitingExpired attempt.id)
  let resumed ← resumeGeneration attempt (fenceToken attempt.id (attempt.runnerGeneration + 1)) env.resumedAt
  let mutation := {mutationOf resumed env.resumedAt with eventSequence := 0, waitingDeadline := none}
  let (s,persisted) ← orRaise (compareAndSetAttempt s attempt.id attempt.revision mutation)
    (.runtimeError "Attempt resume lost its row lock")
  let workflow := resumeWorkflow env persisted
  let s ← insertWorkflowCommand s workflow
  pure (appendAuditEvent s (controlAudit env.toControlEnvironment "agent.attempt.resume" env.resumedAt persisted),
    ⟨persisted,some workflow⟩)

-- Both controls lock the run and then the attempt before they claim their key.
def lockedAttempt (command : AttemptControlCommand) (s : AgentStore κ) :
    Except AgentError (AgentRun × AgentAttempt) := do
  let run ← orRaise (s.runs command.runId) (.agentRunNotFound command.runId)
  let attempt ← orRaise (s.attempts command.attemptId) (.agentAttemptNotFound command.attemptId)
  require (attempt.runId = run.id) (.agentAttemptNotFound command.attemptId)
  pure (run,attempt)

def cancelAttempt (crypto : AgentCryptography κ) (env : ControlEnvironment)
    (command : AttemptControlCommand) (s : AgentStore κ) :
    Except AgentError (AgentStore κ × AttemptControlResult) := do
  let (run,attempt) ← lockedAttempt command s
  executeAgentCommand crypto
    ⟨scopeActor run.workspaceId env.actor,"agent.attempt.cancel",command.idempotencyKey⟩
    s!"/api/v1/agent-runs/{run.id}/attempts/{attempt.id}/cancel"
    (.attemptControl command.expectedRevision)
    env.claimId env.now .controlled CommandResult.controlledResult (cancelOperation env command attempt) s

def resumeAttempt (crypto : AgentCryptography κ) (env : ResumeEnvironment)
    (command : AttemptControlCommand) (s : AgentStore κ) :
    Except AgentError (AgentStore κ × AttemptControlResult) := do
  let (run,attempt) ← lockedAttempt command s
  executeAgentCommand crypto
    ⟨scopeActor run.workspaceId env.actor,"agent.attempt.resume",command.idempotencyKey⟩
    s!"/api/v1/agent-runs/{run.id}/attempts/{attempt.id}/resume"
    (.attemptControl command.expectedRevision)
    env.claimId env.now .controlled CommandResult.controlledResult (resumeOperation env command run attempt) s

def eventTarget : EventPayload → Option AttemptState
  | .attemptQueued _ _ => none
  | .attemptProvisioning => some .provisioning
  | .attemptRunning => some .running
  | .waitingInput _ _ _ => some .waitingInput
  | .attemptFinalizing => some .finalizing
  | .attemptSucceeded => some .succeeded
  | .attemptFailed => some .failed
  | .attemptCanceled => some .canceled
  | .attemptTimedOut => some .timedOut

def terminalRunState : AttemptState → Option RunState
  | .succeeded => some .succeeded
  | .failed => some .failed
  | .canceled => some .canceled
  | .timedOut => some .timedOut
  | _ => none

def EventPayload.questionMissing : EventPayload → Bool
  | .waitingInput _ _ none => true
  | _ => false

def EventPayload.checkpoint : EventPayload → Option CheckpointInput
  | .waitingInput checkpoint _ _ => some checkpoint
  | _ => none

def EventPayload.waitingDeadline (payload : EventPayload) (current : Option Time) : Option Time :=
  match payload with
  | .waitingInput _ deadline _ => some deadline
  | _ => current

-- A WAITING_INPUT event stores its checkpoint; every other event stores none.
def storeCheckpoint (s : AgentStore κ) (attemptId : Uuid) (checkpoint : Option CheckpointInput) :
    Except AgentError (AgentStore κ) :=
  match checkpoint with
  | some checkpoint => insertCheckpoint s attemptId checkpoint
  | none => pure s

def settleRun (s : AgentStore κ) (run : AgentRun) (target : AttemptState) (now : Time) :
    Except AgentError (AgentStore κ) :=
  match terminalRunState target with
  | some state =>
    orRaise (compareAndSetRun s run.id run.revision ⟨state,run.latestAttemptId,now⟩)
      (.runtimeError "Run mutation lost its row lock")
  | none => pure s

def eventAction : AttemptState → String
  | .waitingInput => "agent.attempt.waiting_input"
  | .succeeded => "agent.attempt.succeeded"
  | _ => "agent.event.accept"

def acceptCurrentEvent (crypto : AgentCryptography κ) (env : EventEnvironment)
    (event : CanonicalEventInput) (run : AgentRun) (attempt : AgentAttempt) (s : AgentStore κ) :
    Except AgentError (AgentStore κ × EventOutcome) := do
  require (event.sequence = attempt.eventSequence + 1)
    (.eventSequenceGap s!"expected event sequence {attempt.eventSequence + 1}, received {event.sequence}")
  let target ← orRaise (eventTarget event.payload) .unknownWorkflowEvent
  let checkpoint := event.payload.checkpoint
  let s ← storeCheckpoint s attempt.id checkpoint
  let transitioned ← transitionAttempt attempt target checkpoint env.now
  let mutation := {mutationOf transitioned env.now with
    waitingDeadline := event.payload.waitingDeadline attempt.waitingDeadline
    eventSequence := event.sequence}
  let (s,persisted) ← orRaise (compareAndSetAttempt s attempt.id attempt.revision mutation)
    (.runtimeError "Attempt mutation lost its row lock")
  let (s,persistedEvent) ← appendEvent crypto.canonicalDigest s event
  let s ← appendEventReceipt s ⟨persistedEvent.id,persisted,checkpoint⟩
  let s ← settleRun s run target env.now
  pure (appendAuditEvent s ⟨env.auditId,env.now,env.actor,eventAction target,"agent_attempt",attempt.id,target.value⟩,
    .accepted persistedEvent persisted checkpoint)

-- Worker evidence is accepted under the run and attempt row locks. A stored
-- event replays its receipt; an event of another generation only leaves audit.
def acceptWorkflowEvent (crypto : AgentCryptography κ) (env : EventEnvironment)
    (event : CanonicalEventInput) (s : AgentStore κ) :
    Except AgentError (AgentStore κ × EventOutcome) := do
  let existing := eventById s event.id
  let lockAttemptId := (existing.map CanonicalEventInput.attemptId).getD event.attemptId
  let attempt ← orRaise (s.attempts lockAttemptId)
    (.valueError "canonical event references an unknown Attempt")
  let run ← orRaise (s.runs attempt.runId) (.valueError "Attempt references an unknown Agent Run")
  require (attempt.runId = run.id) (.valueError "canonical event Attempt identity changed")
  match existing with
  | some stored => do
    require (crypto.canonicalDigest stored = crypto.canonicalDigest event)
      (.eventReplayConflict s!"canonical event {event.id} changed during replay")
    let receipt ← orRaise (s.receipts event.id)
      (.eventReplayUnavailable "original event acceptance is unavailable")
    pure (s,.accepted stored receipt.attempt receipt.checkpoint)
  | none => do
    require (event.payload.questionMissing = false)
      (.valueError "new WAITING_INPUT event requires question")
    require (event.attemptId = attempt.id)
      (.valueError "canonical event references an unknown Attempt")
    if event.generation ≠ attempt.runnerGeneration then
      pure (appendAuditEvent s
        ⟨env.auditId,env.now,env.actor,"agent.event.reject_stale_generation","agent_attempt",attempt.id,"REJECTED"⟩,
        .staleGeneration attempt.id)
    else
      acceptCurrentEvent crypto env event run attempt s

inductive Transaction where
  | startRun (env : StartEnvironment) (command : StartRunCommand)
  | cancelAttempt (env : ControlEnvironment) (command : AttemptControlCommand)
  | resumeAttempt (env : ResumeEnvironment) (command : AttemptControlCommand)
  | acceptWorkflowEvent (env : EventEnvironment) (event : CanonicalEventInput)

-- One committed transaction under its row locks. A transaction that raises
-- rolls back and is no step.
def commit (crypto : AgentCryptography κ) (s : AgentStore κ) : Transaction → Option (AgentStore κ)
  | .startRun env command => committed (startRun crypto env command s)
  | .cancelAttempt env command => committed (cancelAttempt crypto env command s)
  | .resumeAttempt env command => committed (resumeAttempt crypto env command s)
  | .acceptWorkflowEvent env event => committed (acceptWorkflowEvent crypto env event s)

end EngineeringPlatform.Agent
