import EngineeringPlatform.AgentTransactions
namespace EngineeringPlatform.Agent
open Checked Idempotency
variable {κ : Type} {crypto : AgentCryptography κ} {s next : AgentStore κ}

-- A command runs between the claim and the completion of its key, which touch
-- the idempotency table only.
theorem executeAgentCommand_ok {α : Type} {wrap : α → CommandResult} {unwrap : CommandResult → Option α}
    {command : AgentStore κ → Except AgentError (AgentStore κ × α)} {result : α}
    (ran : executeAgentCommand crypto scope path body claimId now wrap unwrap command s = .ok (next,result)) :
    next = s ∨ ∃ claimed after performed completed,
      command (s.putIdempotency claimed) = .ok (after,performed) ∧ next = after.putIdempotency completed := by
  unfold executeAgentCommand at ran
  obtain ⟨⟨final,response⟩,executed,ran⟩ := bind_ok.mp ran
  obtain ⟨unwrapped,_,ran⟩ := orRaise_bind_ok.mp ran
  cases pure_ok.mp ran
  rcases executeIdempotent_ok _ _ _ executed with ⟨rfl,_⟩ | ⟨_,after,commanded,completed⟩
  · exact .inl rfl
  · obtain ⟨⟨after',performed⟩,performedOk,commanded⟩ := bind_ok.mp commanded
    cases pure_ok.mp commanded
    obtain ⟨row,_,_,_,rfl⟩ := completeIdempotency_some _ completed
    exact .inr ⟨_,_,performed,_,performedOk,rfl⟩

-- Under `evidenced` a row whose receipt is still missing is a new row: an
-- identical stored event would already have its receipt.
theorem append_with_receipt {middle : AgentStore κ} {event stored : CanonicalEventInput}
    (appended : appendEvent digest s event = .ok (middle,stored))
    (receipted : appendEventReceipt middle ⟨stored.id,attempt,checkpoint⟩ = .ok next)
    (evidenced : ∀ event ∈ s.events, s.receipts event.id ≠ none) :
    stored = event ∧ (eventById s event.id = none ∧ s.receipts event.id = none) ∧
      next = (s.putEvent event).putReceipt ⟨event.id,attempt,checkpoint⟩ := by
  obtain ⟨missing,rfl⟩ := appendEventReceipt_ok receipted
  rcases appendEvent_ok appended with ⟨found,_,rfl⟩ | ⟨absent,rfl,rfl⟩
  · have member : stored ∈ middle.events := List.mem_of_find?_eq_some found
    exact absurd missing (evidenced stored member)
  · exact ⟨rfl,⟨absent,missing⟩,rfl⟩

def queuedAttempt (env : StartEnvironment) (binding : ExecutionBinding) : AgentAttempt :=
  {initialAttempt env binding with state := .queued, eventSequence := 1, revision := 3}

def cancelingAttempt (attempt : AgentAttempt) (now : Time) : AgentAttempt :=
  {attempt with state := .canceling, revision := attempt.revision + 1, updatedAt := now}

def resumedAttempt (attempt : AgentAttempt) (now : Time) : AgentAttempt :=
  {attempt with
    state := .queued
    runnerGeneration := attempt.runnerGeneration + 1
    fencingToken := fenceToken attempt.id (attempt.runnerGeneration + 1)
    eventSequence := 0
    waitingDeadline := none
    revision := attempt.revision + 1
    updatedAt := now}

def acceptedAttempt (attempt : AgentAttempt) (event : CanonicalEventInput) (target : AttemptState)
    (now : Time) : AgentAttempt :=
  {attempt with
    state := target
    checkpoint := if target = .waitingInput then event.payload.checkpoint else attempt.checkpoint
    eventSequence := event.sequence
    waitingDeadline := event.payload.waitingDeadline attempt.waitingDeadline
    revision := attempt.revision + 1
    updatedAt := now}

theorem startOperation_ok (evidenced : ∀ event ∈ s.events, s.receipts event.id ≠ none)
    (ran : startOperation crypto env command s = .ok (next,result)) :
    ∃ context definition binding, s.runs env.runId = none ∧ s.attempts env.attemptId = none ∧
      s.commands env.commandId = none ∧ (startWorkflow env).commandKey ∉ s.commandKeys ∧
      (eventById s env.eventId = none ∧ s.receipts env.eventId = none) ∧
      next = appendAuditEvent ((((((s.putRun (activeRun env context definition)).putAttempt
          (queuedAttempt env binding)).putBinding env.attemptId binding).putEvent
          (queuedEvent env command binding)).putReceipt
            ⟨env.eventId,queuedAttempt env binding,none⟩).putCommand (startWorkflow env))
        ⟨env.auditId,env.now,env.actor,"agent.run.start","agent_run",env.runId,"QUEUED"⟩ := by
  simp only [startOperation,orRaise_bind_ok,require_bind_ok] at ran
  obtain ⟨context,_,_,definition,_,_,binding,_,ran⟩ := ran
  obtain ⟨bindingState,toBinding,ran⟩ := bind_ok.mp ran
  obtain ⟨queuedState,toQueued,ran⟩ := bind_ok.mp ran
  obtain ⟨s1,run,ran⟩ := bind_ok.mp ran
  obtain ⟨s2,inserted,ran⟩ := bind_ok.mp ran
  obtain ⟨s3,bound,ran⟩ := bind_ok.mp ran
  obtain ⟨⟨s4,stored⟩,appended,ran⟩ := bind_ok.mp ran
  obtain ⟨s5,receipted,ran⟩ := bind_ok.mp ran
  obtain ⟨s6,planned,ran⟩ := bind_ok.mp ran
  cases pure_ok.mp ran
  obtain ⟨_,_,_,rfl⟩ := transitionAttempt_ok toBinding
  obtain ⟨_,_,_,rfl⟩ := transitionAttempt_ok toQueued
  obtain ⟨freshRun,rfl⟩ := insertRun_ok run
  obtain ⟨fresh,rfl⟩ := insertAttempt_ok inserted
  obtain ⟨_,rfl⟩ := insertBinding_ok bound
  obtain ⟨rfl,freshEvent,rfl⟩ := append_with_receipt appended receipted evidenced
  obtain ⟨freshCommand,freshKey,rfl⟩ := insertWorkflowCommand_ok planned
  exact ⟨context,definition,binding,freshRun,fresh,freshCommand,freshKey,freshEvent,rfl⟩

theorem cancelOperation_ok (found : s.attempts attempt.id = some attempt)
    (ran : cancelOperation env command attempt s = .ok (next,result)) :
    (.canceling ∈ allowedTransitions attempt.state ∧ attempt.state.terminal = false ∧
      s.commands env.commandId = none ∧ (cancelWorkflow env attempt).commandKey ∉ s.commandKeys ∧
      next = appendAuditEvent ((s.putAttempt (cancelingAttempt attempt env.now)).putCommand
          (cancelWorkflow env attempt))
        (controlAudit env "agent.attempt.cancel" env.now (cancelingAttempt attempt env.now))) ∨
    ((attempt.state.terminal = true ∨ attempt.state = .canceling) ∧
      next = appendAuditEvent s (controlAudit env "agent.attempt.cancel" env.now attempt)) := by
  unfold cancelOperation at ran
  obtain ⟨_,ran⟩ := require_bind_ok.mp ran
  split at ran
  · rename_i open'
    obtain ⟨canceling,moved,ran⟩ := bind_ok.mp ran
    obtain ⟨⟨s1,persisted⟩,set,ran⟩ := orRaise_bind_ok.mp ran
    obtain ⟨s2,planned,ran⟩ := bind_ok.mp ran
    cases pure_ok.mp ran
    obtain ⟨allowed,_,_,rfl⟩ := transitionAttempt_ok moved
    obtain ⟨old,stored,_,rfl,rfl⟩ := compareAndSetAttempt_some set
    obtain ⟨freshCommand,freshKey,rfl⟩ := insertWorkflowCommand_ok planned
    cases (found.symm.trans stored)
    exact .inl ⟨allowed,open'.1,freshCommand,freshKey,rfl⟩
  · rename_i closed
    cases pure_ok.mp ran
    refine .inr ⟨?_,rfl⟩
    by_cases canceling : attempt.state = .canceling
    · exact .inr canceling
    · exact .inl (by simpa [canceling] using closed)

theorem resumeOperation_ok (found : s.attempts attempt.id = some attempt)
    (ran : resumeOperation env command run attempt s = .ok (next,result)) :
    attempt.state = .waitingInput ∧ s.commands env.commandId = none ∧
      (resumeWorkflow env (resumedAttempt attempt env.resumedAt)).commandKey ∉ s.commandKeys ∧
      next = appendAuditEvent ((s.putAttempt (resumedAttempt attempt env.resumedAt)).putCommand
          (resumeWorkflow env (resumedAttempt attempt env.resumedAt)))
        (controlAudit env.toControlEnvironment "agent.attempt.resume" env.resumedAt
          (resumedAttempt attempt env.resumedAt)) := by
  simp only [resumeOperation,require_bind_ok,orRaise_bind_ok] at ran
  obtain ⟨_,_,deadline,_,_,binding,_,_,ran⟩ := ran
  obtain ⟨_,_,ran⟩ := bind_ok.mp ran
  obtain ⟨_,ran⟩ := require_bind_ok.mp ran
  obtain ⟨resumed,moved,ran⟩ := bind_ok.mp ran
  obtain ⟨⟨s1,persisted⟩,set,ran⟩ := orRaise_bind_ok.mp ran
  obtain ⟨s2,planned,ran⟩ := bind_ok.mp ran
  cases pure_ok.mp ran
  obtain ⟨waiting,_,_,rfl⟩ := resumeGeneration_ok moved
  obtain ⟨old,stored,_,rfl,rfl⟩ := compareAndSetAttempt_some set
  obtain ⟨freshCommand,freshKey,rfl⟩ := insertWorkflowCommand_ok planned
  cases (found.symm.trans stored)
  exact ⟨waiting,freshCommand,freshKey,rfl⟩

theorem storeCheckpoint_frame (ran : storeCheckpoint s attemptId checkpoint = .ok next) :
    next.attempts = s.attempts ∧ next.events = s.events ∧ next.receipts = s.receipts ∧
      next.commands = s.commands := by
  unfold storeCheckpoint at ran
  split at ran
  · obtain ⟨_,rfl⟩ := insertCheckpoint_ok ran
    exact ⟨rfl,rfl,rfl,rfl⟩
  · cases pure_ok.mp ran
    exact ⟨rfl,rfl,rfl,rfl⟩

theorem settleRun_frame (ran : settleRun s run target now = .ok next) :
    next.attempts = s.attempts ∧ next.events = s.events ∧ next.receipts = s.receipts ∧
      next.commands = s.commands := by
  unfold settleRun at ran
  split at ran
  · obtain ⟨_,_,_,rfl⟩ := compareAndSetRun_some (orRaise_ok.mp ran)
    exact ⟨rfl,rfl,rfl,rfl⟩
  · cases pure_ok.mp ran
    exact ⟨rfl,rfl,rfl,rfl⟩

theorem acceptCurrentEvent_ok (evidenced : ∀ event ∈ s.events, s.receipts event.id ≠ none)
    (found : s.attempts attempt.id = some attempt)
    (ran : acceptCurrentEvent crypto env event run attempt s = .ok (next,outcome)) :
    ∃ target checkpointed settled, event.sequence = attempt.eventSequence + 1 ∧
      (eventTarget event.payload = some target ∧ target ∈ allowedTransitions attempt.state) ∧
      (eventById s event.id = none ∧ s.receipts event.id = none) ∧
      outcome = .accepted event (acceptedAttempt attempt event target env.now) event.payload.checkpoint ∧
      storeCheckpoint s attempt.id event.payload.checkpoint = .ok checkpointed ∧
      settleRun (((checkpointed.putAttempt (acceptedAttempt attempt event target env.now)).putEvent
          event).putReceipt ⟨event.id,acceptedAttempt attempt event target env.now,event.payload.checkpoint⟩)
        run target env.now = .ok settled ∧
      next = appendAuditEvent settled
        ⟨env.auditId,env.now,env.actor,eventAction target,"agent_attempt",attempt.id,target.value⟩ := by
  simp only [acceptCurrentEvent,require_bind_ok,orRaise_bind_ok] at ran
  obtain ⟨sequence,target,targeted,ran⟩ := ran
  obtain ⟨s1,checkpointed,ran⟩ := bind_ok.mp ran
  obtain ⟨transitioned,moved,ran⟩ := bind_ok.mp ran
  obtain ⟨⟨s2,persisted⟩,set,ran⟩ := orRaise_bind_ok.mp ran
  obtain ⟨⟨s3,stored⟩,appended,ran⟩ := bind_ok.mp ran
  obtain ⟨s4,receipted,ran⟩ := bind_ok.mp ran
  obtain ⟨s5,settled,ran⟩ := bind_ok.mp ran
  cases pure_ok.mp ran
  obtain ⟨attempts1,events1,receipts1,_⟩ := storeCheckpoint_frame checkpointed
  obtain ⟨allowed,_,_,rfl⟩ := transitionAttempt_ok moved
  obtain ⟨old,held,_,rfl,rfl⟩ := compareAndSetAttempt_some set
  rw [attempts1] at held
  cases (found.symm.trans held)
  obtain ⟨rfl,⟨freshEvent,freshReceipt⟩,rfl⟩ := append_with_receipt appended receipted (by
    intro event member
    change s1.receipts event.id ≠ none
    rw [receipts1]
    exact evidenced event (events1 ▸ member))
  refine ⟨target,s1,s5,sequence,⟨targeted,allowed⟩,⟨?_,receipts1 ▸ freshReceipt⟩,rfl,checkpointed,settled,rfl⟩
  unfold eventById at freshEvent ⊢
  exact events1 ▸ freshEvent

theorem lockedAttempt_ok (locked : lockedAttempt command s = .ok (run,attempt)) :
    s.attempts command.attemptId = some attempt := by
  simp only [lockedAttempt,orRaise_bind_ok,require_bind_ok,pure_ok,Prod.mk.injEq] at locked
  obtain ⟨_,_,_,found,_,_,rfl⟩ := locked
  exact found

end EngineeringPlatform.Agent
