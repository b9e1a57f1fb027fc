import EngineeringPlatform.AgentDomain
import EngineeringPlatform.Idempotency
namespace EngineeringPlatform.Agent
open Checked Idempotency

structure StartRunResult where
  run : AgentRun
  attempt : AgentAttempt
  binding : ExecutionBinding
  event : CanonicalEventInput
  command : WorkflowCommand
  deriving DecidableEq

structure AttemptControlResult where
  attempt : AgentAttempt
  command : Option WorkflowCommand
  deriving DecidableEq

inductive CommandResult where
  | started (result : StartRunResult)
  | controlled (result : AttemptControlResult)
  deriving DecidableEq

-- The body of one authenticated command, as the request fingerprint covers it.
inductive CommandBody where
  | startRun (workspaceId requirementId workItemId definitionId definitionVersion : Nat) (goal : String)
  | attemptControl (expectedRevision : Nat)
  deriving DecidableEq

structure FingerprintInput where
  operation : String
  method : String
  path : String
  body : CommandBody
  deriving DecidableEq

-- Cryptographic services: SHA-256 of the canonical JSON of an event, the keyed
-- fingerprint of a request, and sealing of a stored response.
structure AgentCryptography (κ : Type) where
  canonicalDigest : CanonicalEventInput → String
  requestFingerprint : FingerprintInput → String
  sealing : Sealing CommandResult κ

structure AgentStore (κ : Type) where
  definitions : Table (Uuid × Nat) AgentDefinition
  runs : Table Uuid AgentRun
  attempts : Table Uuid AgentAttempt
  bindings : Table Uuid ExecutionBinding
  events : List CanonicalEventInput
  receipts : Table Uuid EventAcceptanceReceipt
  checkpoints : Table Uuid (Uuid × CheckpointInput)
  commands : Table Uuid WorkflowCommand
  commandKeys : List String
  idempotency : Table Scope (IdempotencyRow κ)
  audit : List AgentAuditAppend

variable {κ : Type}

def AgentStore.initial (definitions : Table (Uuid × Nat) AgentDefinition) : AgentStore κ :=
  ⟨definitions,.empty,.empty,.empty,[],.empty,.empty,.empty,[],.empty,[]⟩

namespace AgentStore
variable (s : AgentStore κ)

def putRun (run : AgentRun) : AgentStore κ := {s with runs := s.runs.put run.id run}
def putAttempt (attempt : AgentAttempt) : AgentStore κ := {s with attempts := s.attempts.put attempt.id attempt}
def putBinding (attemptId : Uuid) (binding : ExecutionBinding) : AgentStore κ :=
  {s with bindings := s.bindings.put attemptId binding}
def putCheckpoint (attemptId : Uuid) (checkpoint : CheckpointInput) : AgentStore κ :=
  {s with checkpoints := s.checkpoints.put checkpoint.id (attemptId,checkpoint)}
def putCommand (command : WorkflowCommand) : AgentStore κ :=
  {s with commands := s.commands.put command.id command, commandKeys := command.commandKey :: s.commandKeys}
def putEvent (event : CanonicalEventInput) : AgentStore κ := {s with events := s.events ++ [event]}
def putReceipt (receipt : EventAcceptanceReceipt) : AgentStore κ :=
  {s with receipts := s.receipts.put receipt.eventId receipt}
def putIdempotency (rows : Table Scope (IdempotencyRow κ)) : AgentStore κ := {s with idempotency := rows}

end AgentStore

def idempotencyRepository : Repository (AgentStore κ) κ :=
  ⟨AgentStore.idempotency,AgentStore.putIdempotency⟩

def insertRun (s : AgentStore κ) (run : AgentRun) : Except AgentError (AgentStore κ) := do
  require (run.businessContext ≠ none)
    (.valueError "New Agent Run requires a complete business context")
  require (s.runs run.id = none) (.integrityError "agent_run_pkey")
  pure (s.putRun run)

def insertAttempt (s : AgentStore κ) (attempt : AgentAttempt) : Except AgentError (AgentStore κ) := do
  require (s.attempts attempt.id = none) (.integrityError "agent_attempt_pkey")
  pure (s.putAttempt attempt)

-- `attempt_id` is unique: one immutable binding for each attempt.
def insertBinding (s : AgentStore κ) (attemptId : Uuid) (binding : ExecutionBinding) :
    Except AgentError (AgentStore κ) := do
  require (s.bindings attemptId = none) (.integrityError "execution_binding_attempt_id_key")
  pure (s.putBinding attemptId binding)

def insertCheckpoint (s : AgentStore κ) (attemptId : Uuid) (checkpoint : CheckpointInput) :
    Except AgentError (AgentStore κ) := do
  require (s.checkpoints checkpoint.id = none) (.integrityError "checkpoint_pkey")
  pure (s.putCheckpoint attemptId checkpoint)

def insertWorkflowCommand (s : AgentStore κ) (command : WorkflowCommand) :
    Except AgentError (AgentStore κ) := do
  require (s.commands command.id = none) (.integrityError "workflow_command_pkey")
  require (command.commandKey ∉ s.commandKeys) (.integrityError "workflow_command_command_key_key")
  pure (s.putCommand command)

def eventById (s : AgentStore κ) (eventId : Uuid) : Option CanonicalEventInput :=
  s.events.find? fun event => event.id = eventId

def samePosition (left right : CanonicalEventInput) : Bool :=
  left.attemptId = right.attemptId ∧ left.generation = right.generation ∧ left.sequence = right.sequence

-- INSERT … ON CONFLICT DO NOTHING on the event id and on its position.
def appendEvent (digest : CanonicalEventInput → String) (s : AgentStore κ) (event : CanonicalEventInput) :
    Except AgentError (AgentStore κ × CanonicalEventInput) :=
  match eventById s event.id with
  | some existing => do
    require (digest existing = digest event)
      (.eventReplayConflict s!"canonical event {event.id} changed during replay")
    pure (s,existing)
  | none => do
    require (s.events.any (samePosition event) = false)
      (.eventReplayConflict "canonical event identity already has immutable sequence evidence")
    pure (s.putEvent event,event)

def appendEventReceipt (s : AgentStore κ) (receipt : EventAcceptanceReceipt) :
    Except AgentError (AgentStore κ) := do
  require (s.receipts receipt.eventId = none) (.integrityError "event_acceptance_receipt_pkey")
  pure (s.putReceipt receipt)

def appendAuditEvent (s : AgentStore κ) (entry : AgentAuditAppend) : AgentStore κ :=
  {s with audit := s.audit ++ [entry]}

structure AttemptMutation where
  state : AttemptState
  runnerGeneration : Nat
  fencingToken : String
  checkpoint : Option CheckpointInput
  eventSequence : Nat
  waitingDeadline : Option Time
  now : Time

def mutationOf (attempt : AgentAttempt) (now : Time) : AttemptMutation :=
  ⟨attempt.state,attempt.runnerGeneration,attempt.fencingToken,attempt.checkpoint,
    attempt.eventSequence,attempt.waitingDeadline,now⟩

def AttemptMutation.apply (mutation : AttemptMutation) (attempt : AgentAttempt) : AgentAttempt :=
  {attempt with
    state := mutation.state
    runnerGeneration := mutation.runnerGeneration
    fencingToken := mutation.fencingToken
    checkpoint := mutation.checkpoint
    eventSequence := mutation.eventSequence
    waitingDeadline := mutation.waitingDeadline
    revision := attempt.revision + 1
    updatedAt := mutation.now}

-- UPDATE … WHERE id AND revision RETURNING *; a row is stored under its own id.
def compareAndSetAttempt (s : AgentStore κ) (attemptId : Uuid) (expectedRevision : Nat)
    (mutation : AttemptMutation) : Option (AgentStore κ × AgentAttempt) :=
  match s.attempts attemptId with
  | some attempt =>
    if attempt.revision = expectedRevision then
      some (s.putAttempt (mutation.apply attempt),mutation.apply attempt)
    else none
  | none => none

structure RunMutation where
  state : RunState
  latestAttemptId : Uuid
  now : Time

def RunMutation.apply (mutation : RunMutation) (run : AgentRun) : AgentRun :=
  {run with
    state := mutation.state
    latestAttemptId := mutation.latestAttemptId
    revision := run.revision + 1
    updatedAt := mutation.now}

def compareAndSetRun (s : AgentStore κ) (runId : Uuid) (expectedRevision : Nat)
    (mutation : RunMutation) : Option (AgentStore κ) :=
  match s.runs runId with
  | some run =>
    if run.revision = expectedRevision then
      some (s.putRun (mutation.apply run))
    else none
  | none => none

variable {s next : AgentStore κ}

theorem insertRun_ok (ran : insertRun s run = .ok next) :
    s.runs run.id = none ∧ next = s.putRun run := by
  simp only [insertRun,require_bind_ok,pure_ok] at ran
  exact ⟨ran.2.1,ran.2.2.symm⟩

theorem insertAttempt_ok (ran : insertAttempt s attempt = .ok next) :
    s.attempts attempt.id = none ∧ next = s.putAttempt attempt := by
  simp only [insertAttempt,require_bind_ok,pure_ok] at ran
  exact ⟨ran.1,ran.2.symm⟩

theorem insertBinding_ok (ran : insertBinding s attemptId binding = .ok next) :
    s.bindings attemptId = none ∧ next = s.putBinding attemptId binding := by
  simp only [insertBinding,require_bind_ok,pure_ok] at ran
  exact ⟨ran.1,ran.2.symm⟩

theorem insertCheckpoint_ok (ran : insertCheckpoint s attemptId checkpoint = .ok next) :
    s.checkpoints checkpoint.id = none ∧ next = s.putCheckpoint attemptId checkpoint := by
  simp only [insertCheckpoint,require_bind_ok,pure_ok] at ran
  exact ⟨ran.1,ran.2.symm⟩

theorem insertWorkflowCommand_ok (ran : insertWorkflowCommand s command = .ok next) :
    s.commands command.id = none ∧ command.commandKey ∉ s.commandKeys ∧ next = s.putCommand command := by
  simp only [insertWorkflowCommand,require_bind_ok,pure_ok] at ran
  exact ⟨ran.1,ran.2.1,ran.2.2.symm⟩

-- Either the row is new, or an identical replay found the stored one.
theorem appendEvent_ok {digest : CanonicalEventInput → String}
    (ran : appendEvent digest s event = .ok (next,stored)) :
    (eventById s event.id = some stored ∧ digest stored = digest event ∧ next = s) ∨
    (eventById s event.id = none ∧ stored = event ∧ next = s.putEvent event) := by
  unfold appendEvent at ran
  split at ran
  · rename_i existing found
    simp only [require_bind_ok,pure_ok,Prod.mk.injEq] at ran
    obtain ⟨same,rfl,rfl⟩ := ran
    exact .inl ⟨found,same,rfl⟩
  · rename_i absent
    simp only [require_bind_ok,pure_ok,Prod.mk.injEq] at ran
    obtain ⟨_,rfl,rfl⟩ := ran
    exact .inr ⟨absent,rfl,rfl⟩

theorem appendEventReceipt_ok (ran : appendEventReceipt s receipt = .ok next) :
    s.receipts receipt.eventId = none ∧ next = s.putReceipt receipt := by
  simp only [appendEventReceipt,require_bind_ok,pure_ok] at ran
  exact ⟨ran.1,ran.2.symm⟩

theorem compareAndSetAttempt_some (set : compareAndSetAttempt s attemptId revision mutation = some (next,attempt)) :
    ∃ old, s.attempts attemptId = some old ∧ old.revision = revision ∧ attempt = mutation.apply old ∧
      next = s.putAttempt attempt := by
  unfold compareAndSetAttempt at set
  split at set
  · rename_i old found
    split at set
    · rename_i same
      cases Option.some.inj set
      exact ⟨old,found,same,rfl,rfl⟩
    · cases set
  · cases set

theorem compareAndSetRun_some (set : compareAndSetRun s runId revision mutation = some next) :
    ∃ old, s.runs runId = some old ∧ old.revision = revision ∧ next = s.putRun (mutation.apply old) := by
  unfold compareAndSetRun at set
  split at set
  · rename_i old found
    split at set
    · rename_i same
      cases Option.some.inj set
      exact ⟨old,found,same,rfl⟩
    · cases set
  · cases set

end EngineeringPlatform.Agent
