import EngineeringPlatform.AgentEventStream
namespace EngineeringPlatform.Agent
open Checked Idempotency TransitionRuns
variable {κ : Type} {crypto : AgentCryptography κ}

def RunState.terminal : RunState → Bool
  | .active => false
  | _ => true

-- What a run shows of its attempt: the terminal state it ended in, or ACTIVE.
def runStateOf (state : AttemptState) : RunState := (terminalRunState state).getD .active

theorem terminalRunState_none : terminalRunState state = none ↔ state.terminal = false := by
  cases state <;> simp [terminalRunState,AttemptState.terminal]

theorem runStateOf_terminal (state : AttemptState) : (runStateOf state).terminal = state.terminal := by
  cases state <;> rfl

theorem terminal_closed (terminal : state.terminal = true) : allowedTransitions state = [] := by
  cases state <;> first | rfl | cases terminal

-- What one committed transaction can do to runs and attempts.
inductive RunChange (s next : AgentStore κ) : Prop where
  | quiet (runs : next.runs = s.runs) (attempts : next.attempts = s.attempts)
  | opened (run : AgentRun) (attempt : AgentAttempt) (freshRun : s.runs run.id = none)
      (fresh : s.attempts attempt.id = none) (runs : next.runs = s.runs.put run.id run)
      (attempts : next.attempts = s.attempts.put attempt.id attempt) (owner : attempt.runId = run.id)
      (latest : run.latestAttemptId = attempt.id) (shown : run.state = runStateOf attempt.state)
  | moved (old attempt : AgentAttempt) (found : s.attempts old.id = some old)
      (runs : next.runs = s.runs) (attempts : next.attempts = s.attempts.put attempt.id attempt)
      (same : attempt.id = old.id ∧ attempt.runId = old.runId)
      (allowed : attempt.state ∈ allowedTransitions old.state) (open' : attempt.state.terminal = false)
  | ended (old attempt : AgentAttempt) (before run : AgentRun) (found : s.attempts old.id = some old)
      (held : s.runs old.runId = some before) (runs : next.runs = s.runs.put old.runId run)
      (attempts : next.attempts = s.attempts.put attempt.id attempt)
      (same : attempt.id = old.id ∧ attempt.runId = old.runId)
      (allowed : attempt.state ∈ allowedTransitions old.state)
      (latest : run.latestAttemptId = before.latestAttemptId) (named : run.id = before.id)
      (shown : run.state = runStateOf attempt.state)

-- Stored events and their receipts are never replaced, and an event is stored
-- under its own id.
structure EvidenceKept (s next : AgentStore κ) : Prop where
  events : ∀ eventId event, eventById s eventId = some event → eventById next eventId = some event
  receipts : ∀ eventId receipt, s.receipts eventId = some receipt → next.receipts eventId = some receipt
  named : (∀ event ∈ s.events, eventById s event.id = some event) →
    ∀ event ∈ next.events, eventById next event.id = some event

theorem EvidenceKept.refl (s : AgentStore κ) : EvidenceKept s s :=
  ⟨fun _ _ found => found,fun _ _ found => found,fun named => named⟩

theorem EvidenceKept.trans {a b c : AgentStore κ} (one : EvidenceKept a b) (two : EvidenceKept b c) :
    EvidenceKept a c :=
  ⟨fun _ _ found => two.events _ _ (one.events _ _ found),
    fun _ _ found => two.receipts _ _ (one.receipts _ _ found),fun named => two.named (one.named named)⟩

variable {s next : AgentStore κ}

theorem EvidenceKept.quiet (events : next.events = s.events)
    (receipts : next.receipts = s.receipts) : EvidenceKept s next := by
  refine ⟨?_,by rw [receipts]; exact fun _ _ found => found,?_⟩
  all_goals
    unfold eventById
    rw [events]
  · exact fun _ _ found => found
  · exact fun named => named

theorem EvidenceKept.appended (event : CanonicalEventInput)
    (receipt : EventAcceptanceReceipt)
    (fresh : eventById s event.id = none ∧ s.receipts event.id = none)
    (events : next.events = s.events ++ [event])
    (receipts : next.receipts = s.receipts.put event.id receipt) : EvidenceKept s next := by
  have kept : ∀ eventId stored, eventById s eventId = some stored → eventById next eventId = some stored := by
    intro eventId stored found
    unfold eventById at found ⊢
    rw [events,List.find?_append,found,Option.some_or]
  have added : eventById next event.id = some event := by
    have absent := fresh.1
    unfold eventById at absent ⊢
    rw [events,List.find?_append,absent,Option.none_or]
    simp
  refine ⟨kept,?_,?_⟩
  · intro eventId stored found
    have other : eventId ≠ event.id := by
      rintro rfl
      cases fresh.2.symm.trans found
    rw [receipts,Table.put_other _ _ other]
    exact found
  · intro named stored member
    rw [events] at member
    rcases List.mem_append.mp member with old | new
    · exact kept _ _ (named stored old)
    · rw [List.mem_singleton.mp new]
      exact added

theorem storeCheckpoint_runs (ran : storeCheckpoint s attemptId checkpoint = .ok next) : next.runs = s.runs := by
  unfold storeCheckpoint at ran
  split at ran
  · obtain ⟨_,rfl⟩ := insertCheckpoint_ok ran
    rfl
  · cases pure_ok.mp ran
    rfl

theorem settleRun_ok (held : s.runs run.id = some run)
    (ran : settleRun s run target now = .ok next) :
    (terminalRunState target = none ∧ next.runs = s.runs) ∨
    ∃ state, terminalRunState target = some state ∧
      next.runs = s.runs.put run.id (RunMutation.apply ⟨state,run.latestAttemptId,now⟩ run) := by
  unfold settleRun at ran
  split at ran
  · rename_i state terminal
    obtain ⟨old,found,_,rfl⟩ := compareAndSetRun_some (orRaise_ok.mp ran)
    cases held.symm.trans found
    exact .inr ⟨state,terminal,rfl⟩
  · rename_i terminal
    cases pure_ok.mp ran
    exact .inl ⟨terminal,rfl⟩

theorem RunChange.around {after : AgentStore κ} (change : RunChange (s.putIdempotency claimed) after) :
    RunChange s (after.putIdempotency completed) := by
  cases change with
  | quiet runs attempts => exact .quiet runs attempts
  | opened run attempt freshRun fresh runs attempts owner latest shown =>
    exact .opened run attempt freshRun fresh runs attempts owner latest shown
  | moved old attempt found runs attempts same allowed open' =>
    exact .moved old attempt found runs attempts same allowed open'
  | ended old attempt before run found held runs attempts same allowed latest named shown =>
    exact .ended old attempt before run found held runs attempts same allowed latest named shown

theorem EvidenceKept.around {after : AgentStore κ} (kept : EvidenceKept (s.putIdempotency claimed) after) :
    EvidenceKept s (after.putIdempotency completed) :=
  ⟨kept.events,kept.receipts,kept.named⟩

theorem startOperation_committed (valid : StoreValid s)
    (ran : startOperation crypto env command s = .ok (next,result)) :
    RunChange s next ∧ EvidenceKept s next := by
  obtain ⟨context,definition,binding,freshRun,fresh,_,_,unseen,rfl⟩ := startOperation_ok valid.evidenced ran
  exact ⟨.opened (activeRun env context definition) (queuedAttempt env binding) freshRun fresh rfl rfl rfl
    rfl rfl,.appended (queuedEvent env command binding) _ unseen rfl rfl⟩

theorem cancelOperation_committed (found : s.attempts attempt.id = some attempt)
    (ran : cancelOperation env command attempt s = .ok (next,result)) :
    RunChange s next ∧ EvidenceKept s next := by
  rcases cancelOperation_ok found ran with ⟨allowed,_,_,_,rfl⟩ | ⟨_,rfl⟩
  · exact ⟨.moved attempt (cancelingAttempt attempt env.now) found rfl rfl ⟨rfl,rfl⟩ allowed rfl,
      .quiet rfl rfl⟩
  · exact ⟨.quiet rfl rfl,.quiet rfl rfl⟩

theorem resumeOperation_committed (found : s.attempts attempt.id = some attempt)
    (ran : resumeOperation env command run attempt s = .ok (next,result)) :
    RunChange s next ∧ EvidenceKept s next := by
  obtain ⟨waiting,_,_,rfl⟩ := resumeOperation_ok found ran
  exact ⟨.moved attempt (resumedAttempt attempt env.resumedAt) found rfl rfl ⟨rfl,rfl⟩
    (by rw [waiting]; exact List.mem_cons_self) rfl,.quiet rfl rfl⟩

theorem acceptCurrentEvent_committed (valid : StoreValid s)
    (found : s.attempts attempt.id = some attempt) (held : s.runs run.id = some run)
    (owner : attempt.runId = run.id)
    (ran : acceptCurrentEvent crypto env event run attempt s = .ok (next,outcome)) :
    RunChange s next ∧ EvidenceKept s next := by
  obtain ⟨target,stored,settled,_,⟨_,allowed⟩,fresh,_,checkpointed,settles,rfl⟩ :=
    acceptCurrentEvent_ok valid.evidenced found ran
  obtain ⟨attempts1,events1,receipts1,_⟩ := storeCheckpoint_frame checkpointed
  obtain ⟨attempts5,events5,receipts5,_⟩ := settleRun_frame settles
  have runs1 := storeCheckpoint_runs checkpointed
  have attempts : settled.attempts = s.attempts.put attempt.id (acceptedAttempt attempt event target env.now) := by
    rw [attempts5,←attempts1]
    rfl
  have evidence : EvidenceKept s (appendAuditEvent settled
      ⟨env.auditId,env.now,env.actor,eventAction target,"agent_attempt",attempt.id,target.value⟩) := by
    refine .appended event
      ⟨event.id,acceptedAttempt attempt event target env.now,event.payload.checkpoint⟩ fresh
      (events5.trans ?_) (receipts5.trans ?_)
    · rw [←events1]
      rfl
    · rw [←receipts1]
      rfl
  refine ⟨?_,evidence⟩
  rcases settleRun_ok (by rw [←held,←runs1]; rfl) settles with ⟨open',runs⟩ | ⟨state,terminal,runs⟩
  · exact .moved attempt (acceptedAttempt attempt event target env.now) found
      (runs.trans runs1) attempts ⟨rfl,rfl⟩ allowed (terminalRunState_none.mp open')
  · refine .ended attempt (acceptedAttempt attempt event target env.now) run
      (RunMutation.apply ⟨state,run.latestAttemptId,env.now⟩ run) found (owner ▸ held)
      (runs.trans ?_) attempts ⟨rfl,rfl⟩ allowed rfl rfl ?_
    · rw [owner,←runs1]
      rfl
    · simp [RunMutation.apply,acceptedAttempt,runStateOf,terminal]

-- The run and the attempt an event locks, and what it does under those locks.
theorem acceptWorkflowEvent_ok (ran : acceptWorkflowEvent crypto env event s = .ok (next,outcome)) :
    (∃ stored receipt, eventById s event.id = some stored ∧
      crypto.canonicalDigest stored = crypto.canonicalDigest event ∧
      s.receipts event.id = some receipt ∧ next = s ∧
      outcome = .accepted stored receipt.attempt receipt.checkpoint) ∨
    (eventById s event.id = none ∧ ∃ attempt run, s.attempts event.attemptId = some attempt ∧
      s.runs attempt.runId = some run ∧ attempt.runId = run.id ∧ event.attemptId = attempt.id ∧
      ((event.generation ≠ attempt.runnerGeneration ∧ outcome = .staleGeneration attempt.id ∧
          next = appendAuditEvent s ⟨env.auditId,env.now,env.actor,"agent.event.reject_stale_generation",
            "agent_attempt",attempt.id,"REJECTED"⟩) ∨
        (event.generation = attempt.runnerGeneration ∧
          acceptCurrentEvent crypto env event run attempt s = .ok (next,outcome)))) := by
  simp only [acceptWorkflowEvent,require_bind_ok,orRaise_bind_ok] at ran
  obtain ⟨attempt,locked,run,held,owner,ran⟩ := ran
  split at ran
  · rename_i stored found
    simp only [require_bind_ok,orRaise_bind_ok,pure_ok,Prod.mk.injEq] at ran
    obtain ⟨same,receipt,original,rfl,rfl⟩ := ran
    exact .inl ⟨stored,receipt,found,same,original,rfl,rfl⟩
  · rename_i absent
    simp only [require_bind_ok] at ran
    obtain ⟨_,named,ran⟩ := ran
    simp only [absent,Option.map_none,Option.getD_none] at locked
    refine .inr ⟨absent,attempt,run,locked,held,owner,named,?_⟩
    split at ran
    · rename_i stale
      simp only [pure_ok,Prod.mk.injEq] at ran
      exact .inl ⟨stale,ran.2.symm,ran.1.symm⟩
    · rename_i current
      exact .inr ⟨by simpa using current,ran⟩

theorem acceptWorkflowEvent_committed (valid : StoreValid s)
    (ran : acceptWorkflowEvent crypto env event s = .ok (next,outcome)) :
    RunChange s next ∧ EvidenceKept s next := by
  rcases acceptWorkflowEvent_ok ran with ⟨_,_,_,_,_,rfl,_⟩ |
    ⟨_,attempt,run,locked,held,owner,_,⟨_,_,rfl⟩ | ⟨_,ran⟩⟩
  · exact ⟨.quiet rfl rfl,.quiet rfl rfl⟩
  · exact ⟨.quiet rfl rfl,.quiet rfl rfl⟩
  · exact acceptCurrentEvent_committed valid (valid.keyed _ _ locked ▸ locked) (owner ▸ held) owner ran

theorem commit_committed (valid : StoreValid s)
    (step : commit crypto s transaction = some next) : RunChange s next ∧ EvidenceKept s next := by
  cases transaction with
  | startRun env command =>
    obtain ⟨result,ran⟩ := committed_some.mp step
    rcases executeAgentCommand_ok ran with rfl | ⟨claimed,after,performed,completed,inner,rfl⟩
    · exact ⟨.quiet rfl rfl,.quiet rfl rfl⟩
    · exact (startOperation_committed valid.putIdempotency inner).imp .around .around
  | cancelAttempt env command =>
    obtain ⟨result,ran⟩ := committed_some.mp step
    obtain ⟨⟨run,attempt⟩,locked,ran⟩ := bind_ok.mp ran
    have found := lockedAttempt_ok locked
    rcases executeAgentCommand_ok ran with rfl | ⟨claimed,after,performed,completed,inner,rfl⟩
    · exact ⟨.quiet rfl rfl,.quiet rfl rfl⟩
    · exact (cancelOperation_committed (valid.keyed _ _ found ▸ found) inner).imp .around .around
  | resumeAttempt env command =>
    obtain ⟨result,ran⟩ := committed_some.mp step
    obtain ⟨⟨run,attempt⟩,locked,ran⟩ := bind_ok.mp ran
    have found := lockedAttempt_ok locked
    rcases executeAgentCommand_ok ran with rfl | ⟨claimed,after,performed,completed,inner,rfl⟩
    · exact ⟨.quiet rfl rfl,.quiet rfl rfl⟩
    · exact (resumeOperation_committed (valid.keyed _ _ found ▸ found) inner).imp .around .around
  | acceptWorkflowEvent env event =>
    obtain ⟨outcome,ran⟩ := committed_some.mp step
    exact acceptWorkflowEvent_committed valid ran

-- A run and its only attempt agree in what has ended and how.
structure Agreed (s : AgentStore κ) : Prop where
  keyed : Table.Every (fun runId run => run.id = runId) s.runs
  paired : Table.Every (fun runId run =>
    ∃ attempt, s.attempts run.latestAttemptId = some attempt ∧ attempt.runId = runId) s.runs
  owned : Table.Every (fun attemptId attempt =>
    ∃ run, s.runs attempt.runId = some run ∧ run.latestAttemptId = attemptId ∧
      run.state = runStateOf attempt.state) s.attempts

theorem initial_agreed (definitions : Table (Uuid × Nat) AgentDefinition) :
    Agreed (AgentStore.initial definitions : AgentStore κ) :=
  ⟨Table.every_empty _,Table.every_empty _,Table.every_empty _⟩

-- One attempt and the run it belongs to are rewritten together; no other run
-- or attempt refers to either.
theorem Agreed.rewritten {old attempt : AgentAttempt} {before run : AgentRun}
    (agreed : Agreed s) (found : s.attempts old.id = some old) (held : s.runs old.runId = some before)
    (runs : next.runs = s.runs.put old.runId run)
    (attempts : next.attempts = s.attempts.put attempt.id attempt)
    (same : attempt.id = old.id ∧ attempt.runId = old.runId)
    (latest : run.latestAttemptId = before.latestAttemptId) (named : run.id = before.id)
    (shown : run.state = runStateOf attempt.state) : Agreed next := by
  obtain ⟨owner,heldBy,points,_⟩ := agreed.owned _ _ found
  cases held.symm.trans heldBy
  refine ⟨?_,?_,?_⟩
  · rw [runs]
    exact agreed.keyed.put (named.trans (agreed.keyed _ _ held))
  · intro runId row stored
    rw [runs] at stored
    rw [attempts]
    rcases Table.put_some stored with ⟨rfl,rfl⟩ | ⟨other,stored⟩
    · exact ⟨attempt,by rw [latest,points,←same.1,Table.put_same],same.2⟩
    · obtain ⟨mate,mateAt,belongs⟩ := agreed.paired _ _ stored
      have apart : row.latestAttemptId ≠ attempt.id := by
        intro clash
        rw [clash,same.1,found] at mateAt
        cases mateAt
        exact other belongs.symm
      exact ⟨mate,by rw [Table.put_other _ _ apart]; exact mateAt,belongs⟩
  · intro attemptId row stored
    rw [attempts] at stored
    rw [runs]
    rcases Table.put_some stored with ⟨rfl,rfl⟩ | ⟨other,stored⟩
    · exact ⟨run,by rw [same.2,Table.put_same],by rw [latest,points,same.1],shown⟩
    · obtain ⟨mate,mateAt,pointed,agree⟩ := agreed.owned _ _ stored
      have apart : row.runId ≠ old.runId := by
        intro clash
        rw [clash,held] at mateAt
        cases mateAt
        exact other (pointed.symm.trans (points.trans same.1.symm))
      exact ⟨mate,by rw [Table.put_other _ _ apart]; exact mateAt,pointed,agree⟩

theorem Agreed.opened (agreed : Agreed s) (freshRun : s.runs run.id = none)
    (fresh : s.attempts attempt.id = none) (runs : next.runs = s.runs.put run.id run)
    (attempts : next.attempts = s.attempts.put attempt.id attempt) (owner : attempt.runId = run.id)
    (latest : run.latestAttemptId = attempt.id) (shown : run.state = runStateOf attempt.state) :
    Agreed next := by
  refine ⟨runs ▸ agreed.keyed.put rfl,?_,?_⟩
  · intro runId row stored
    rw [runs] at stored
    rw [attempts]
    rcases Table.put_some stored with ⟨rfl,rfl⟩ | ⟨_,stored⟩
    · exact ⟨attempt,by rw [latest,Table.put_same],owner⟩
    · obtain ⟨mate,mateAt,belongs⟩ := agreed.paired _ _ stored
      have apart : row.latestAttemptId ≠ attempt.id := by
        intro clash
        rw [clash,fresh] at mateAt
        cases mateAt
      exact ⟨mate,by rw [Table.put_other _ _ apart]; exact mateAt,belongs⟩
  · intro attemptId row stored
    rw [attempts] at stored
    rw [runs]
    rcases Table.put_some stored with ⟨rfl,rfl⟩ | ⟨_,stored⟩
    · exact ⟨run,by rw [owner,Table.put_same],latest,shown⟩
    · obtain ⟨mate,mateAt,pointed,agree⟩ := agreed.owned _ _ stored
      have apart : row.runId ≠ run.id := by
        intro clash
        rw [clash,freshRun] at mateAt
        cases mateAt
      exact ⟨mate,by rw [Table.put_other _ _ apart]; exact mateAt,pointed,agree⟩

theorem RunChange.agreed (change : RunChange s next) (agreed : Agreed s) :
    Agreed next := by
  cases change with
  | quiet runs attempts =>
    obtain ⟨keyed,paired,owned⟩ := agreed
    exact ⟨runs ▸ keyed,by rw [runs,attempts]; exact paired,by rw [runs,attempts]; exact owned⟩
  | opened run attempt freshRun fresh runs attempts owner latest shown =>
    exact agreed.opened freshRun fresh runs attempts owner latest shown
  | moved old attempt found runs attempts same allowed open' =>
    obtain ⟨run,held,_,agree⟩ := agreed.owned _ _ found
    have live : old.state.terminal = false := by
      by_contra ended
      rw [terminal_closed (by simpa using ended)] at allowed
      cases allowed
    have shown : run.state = runStateOf attempt.state := by
      rw [agree,runStateOf,runStateOf,terminalRunState_none.mpr live,terminalRunState_none.mpr open']
    exact agreed.rewritten found held (runs.trans (Table.put_unchanged held).symm) attempts same rfl rfl shown
  | ended old attempt before run found held runs attempts same allowed latest named shown =>
    exact agreed.rewritten found held runs attempts same latest named shown

-- An attempt's state moves along the allowed transitions only, so a terminal
-- attempt and its run keep their rows.
theorem RunChange.attempt_moves (change : RunChange s next)
    (found : s.attempts attemptId = some attempt) :
    ∃ attempt', next.attempts attemptId = some attempt' ∧
      (attempt' = attempt ∨ attempt'.state ∈ allowedTransitions attempt.state) := by
  have rewritten {old new : AgentAttempt} (stored : s.attempts old.id = some old) (same : new.id = old.id)
      (attempts : next.attempts = s.attempts.put new.id new)
      (allowed : new.state ∈ allowedTransitions old.state) :
      ∃ attempt', next.attempts attemptId = some attempt' ∧
        (attempt' = attempt ∨ attempt'.state ∈ allowedTransitions attempt.state) := by
    rw [attempts]
    by_cases here : attemptId = new.id
    · subst here
      rw [same,stored] at found
      cases found
      exact ⟨new,Table.put_same _ _ _,.inr allowed⟩
    · exact ⟨attempt,by rw [Table.put_other _ _ here]; exact found,.inl rfl⟩
  cases change with
  | quiet runs attempts => exact ⟨attempt,attempts ▸ found,.inl rfl⟩
  | opened run new freshRun fresh runs attempts owner latest shown =>
    have other : attemptId ≠ new.id := by
      rintro rfl
      cases fresh.symm.trans found
    exact ⟨attempt,by rw [attempts,Table.put_other _ _ other]; exact found,.inl rfl⟩
  | moved old new stored runs attempts same allowed open' =>
    exact rewritten stored same.1 attempts allowed
  | ended old new before run stored held runs attempts same allowed latest named shown =>
    exact rewritten stored same.1 attempts allowed

theorem RunChange.run_stays (change : RunChange s next) (agreed : Agreed s)
    (found : s.attempts attemptId = some attempt) (held : s.runs attempt.runId = some run)
    (terminal : attempt.state.terminal = true) : next.runs attempt.runId = some run := by
  cases change with
  | quiet runs attempts => exact runs ▸ held
  | opened new _ freshRun fresh runs attempts owner latest shown =>
    have other : attempt.runId ≠ new.id := by
      intro clash
      cases (clash ▸ freshRun).symm.trans held
    rw [runs,Table.put_other _ _ other]
    exact held
  | moved old new stored runs attempts same allowed open' => exact runs ▸ held
  | ended old new before after stored heldBy runs attempts same allowed latest named shown =>
    have other : attempt.runId ≠ old.runId := by
      intro clash
      obtain ⟨mate,mateAt,points,_⟩ := agreed.owned _ _ stored
      obtain ⟨mate',mateAt',points',_⟩ := agreed.owned _ _ found
      rw [clash,mateAt] at mateAt'
      cases mateAt'
      cases points.symm.trans points'
      cases stored.symm.trans found
      rw [terminal_closed terminal] at allowed
      cases allowed
    rw [runs,Table.put_other _ _ other]
    exact held

def AgreedStore (s : AgentStore κ) : Prop := StoreValid s ∧ Agreed s

theorem commit_agreed : Preserves (Enabled (commit crypto)) (AgreedStore (κ := κ)) := by
  intro s transaction next valid step
  exact ⟨(commit_change valid.1 step).valid valid.1,(commit_committed valid.1 step).1.agreed valid.2⟩

theorem reached_agreed
    (reached : Runs (Enabled (commit crypto)) (.initial definitions) transactions s) : AgreedStore s :=
  reached.invariant commit_agreed ⟨initial_valid definitions,initial_agreed definitions⟩

theorem terminal_pair_stays (valid : AgreedStore s)
    (path : Runs (Enabled (commit crypto)) s transactions next)
    (found : s.attempts attemptId = some attempt) (held : s.runs attempt.runId = some run)
    (terminal : attempt.state.terminal = true) :
    next.attempts attemptId = some attempt ∧ next.runs attempt.runId = some run := by
  induction path with
  | nil => exact ⟨found,held⟩
  | cons taken _ ih =>
    have change := (commit_committed valid.1 taken).1
    obtain ⟨attempt',kept,same | moved⟩ := change.attempt_moves found
    · exact ih (commit_agreed _ _ _ valid taken) (same ▸ kept) (change.run_stays valid.2 found held terminal)
    · rw [terminal_closed terminal] at moved
      cases moved

-- At every reachable store each run has exactly one attempt, the run is terminal
-- exactly when that attempt is and in the state the attempt maps to, a terminal
-- pair keeps both rows for good, and a commit moves an attempt by one allowed
-- transition at most.
theorem run_attempt_agreement {s : AgentStore κ}
    (reached : Runs (Enabled (commit crypto)) (.initial definitions) transactions s) :
    (∀ runId run, s.runs runId = some run → ∃ attemptId attempt, s.attempts attemptId = some attempt ∧
      attempt.runId = runId) ∧
    ∀ attemptId attempt, s.attempts attemptId = some attempt →
      ∃ run, s.runs attempt.runId = some run ∧ run.latestAttemptId = attemptId ∧
        (run.state.terminal = true ↔ attempt.state.terminal = true) ∧
        (∀ state, state.terminal = true → (run.state = state ↔ terminalRunState attempt.state = some state)) ∧
        (attempt.state.terminal = true → ∀ later next, Runs (Enabled (commit crypto)) s later next →
          next.attempts attemptId = some attempt ∧ next.runs attempt.runId = some run) ∧
        ∀ transaction next, commit crypto s transaction = some next →
          ∃ attempt', next.attempts attemptId = some attempt' ∧
            (attempt'.state = attempt.state ∨ attempt'.state ∈ allowedTransitions attempt.state) := by
  have valid := reached_agreed reached
  refine ⟨?_,?_⟩
  · intro runId run held
    obtain ⟨attempt,found,belongs⟩ := valid.2.paired _ _ held
    exact ⟨run.latestAttemptId,attempt,found,belongs⟩
  · intro attemptId attempt found
    obtain ⟨run,held,points,agree⟩ := valid.2.owned _ _ found
    refine ⟨run,held,points,?_,?_,?_,?_⟩
    · rw [agree,runStateOf_terminal]
    · intro state ended
      rw [agree,runStateOf]
      cases h : terminalRunState attempt.state with
      | none =>
        constructor
        · rintro rfl
          cases ended
        · intro absent
          cases absent
      | some shown => simp
    · intro terminal later next path
      exact terminal_pair_stays valid path found held terminal
    · intro transaction next step
      obtain ⟨attempt',kept,same | moved⟩ := (commit_committed valid.1 step).1.attempt_moves found
      · exact ⟨attempt',kept,.inl (same ▸ rfl)⟩
      · exact ⟨attempt',kept,.inr moved⟩

def endedStore : AgentStore (SealedIdempotentEnvelope CommandResult) :=
  (execute (commit sampleCryptography) (.initial sampleDefinitions) endingTransactions).get (by decide)

theorem endedStore_reached : Runs (Enabled (commit sampleCryptography)) (.initial sampleDefinitions)
    endingTransactions endedStore :=
  execute_get (by decide)

theorem run_attempt_agreement_ended : ∃ attempt run, endedStore.attempts 10 = some attempt ∧
    endedStore.runs 5 = some run ∧ attempt.state = .succeeded ∧ run.state = .succeeded ∧
    ∀ later next, Runs (Enabled (commit sampleCryptography)) endedStore later next →
      next.attempts 10 = some attempt ∧ next.runs 5 = some run := by
  have found : (endedStore.attempts 10).isSome := by decide
  obtain ⟨run,held,_,_,_,stays,_⟩ :=
    (run_attempt_agreement endedStore_reached).2 10 _ (Option.some_get found).symm
  have shown : (endedStore.runs 5).map (·.state) = some .succeeded := by decide
  have owner : ((endedStore.attempts 10).get found).runId = 5 := rfl
  rw [owner] at held stays
  rw [held] at shown
  exact ⟨_,run,(Option.some_get found).symm,held,rfl,Option.some.inj shown,stays rfl⟩

theorem evidence_kept (path : Runs (Enabled (commit crypto)) s transactions next)
    (valid : StoreValid s) : EvidenceKept s next :=
  path.relation commit_valid .refl (fun _ _ _ => .trans)
    (fun _ _ _ valid step => (commit_committed valid step).2) valid

theorem commit_named : Preserves (Enabled (commit crypto))
    (fun s : AgentStore κ => StoreValid s ∧ ∀ event ∈ s.events, eventById s event.id = some event) := by
  rintro s transaction next ⟨valid,named⟩ step
  exact ⟨(commit_change valid step).valid valid,(commit_committed valid step).2.named named⟩

-- A stored event finds the attempt and the run it was accepted for, so another
-- submission of its id gets as far as the comparison of contents.
theorem stored_event_answers (reached : Runs (Enabled (commit crypto)) (.initial definitions) transactions s)
    (found : eventById s event.id = some stored) (receipted : s.receipts event.id = some receipt)
    (env : EventEnvironment) :
    acceptWorkflowEvent crypto env event s =
      if crypto.canonicalDigest stored = crypto.canonicalDigest event then
        .ok (s,.accepted stored receipt.attempt receipt.checkpoint)
      else .error (.eventReplayConflict s!"canonical event {event.id} changed during replay") := by
  have member : stored ∈ s.events := List.mem_of_find?_eq_some found
  obtain ⟨cursor,at',_⟩ := (reached_log reached).owned stored member
  obtain ⟨attempt,attemptAt,_⟩ := Option.map_eq_some_iff.mp at'
  obtain ⟨run,held,_⟩ := (reached_agreed reached).2.owned _ _ attemptAt
  have named : run.id = attempt.runId := (reached_agreed reached).2.keyed _ _ held
  have locked : s.attempts stored.attemptId = some attempt := attemptAt
  unfold acceptWorkflowEvent
  by_cases same : crypto.canonicalDigest stored = crypto.canonicalDigest event <;>
    simp [found,locked,orRaise,bind,Except.bind,held,require,named,receipted,same,pure,Except.pure]

theorem acceptance_recorded (valid : StoreValid s)
    (ran : acceptWorkflowEvent crypto env event s = .ok (next,.accepted stored snapshot checkpoint)) :
    crypto.canonicalDigest stored = crypto.canonicalDigest event ∧ eventById next event.id = some stored ∧
      ∃ receipt, next.receipts event.id = some receipt ∧ receipt.attempt = snapshot ∧
        receipt.checkpoint = checkpoint := by
  rcases acceptWorkflowEvent_ok ran with ⟨_,receipt,found,same,original,rfl,answer⟩ |
    ⟨_,attempt,run,locked,_,_,_,⟨_,answer,_⟩ | ⟨_,ran⟩⟩
  · cases answer
    exact ⟨same,found,receipt,original,rfl,rfl⟩
  · cases answer
  · obtain ⟨target,checkpointed,settled,_,_,⟨fresh,_⟩,answer,stores,settles,rfl⟩ :=
      acceptCurrentEvent_ok valid.evidenced (valid.keyed _ _ locked ▸ locked) ran
    cases answer
    obtain ⟨_,events1,_,_⟩ := storeCheckpoint_frame stores
    obtain ⟨_,events5,receipts5,_⟩ := settleRun_frame settles
    have events : settled.events = s.events ++ [event] := by
      rw [events5,←events1]
      rfl
    have receipts : settled.receipts event.id =
        some ⟨event.id,acceptedAttempt attempt event target env.now,event.payload.checkpoint⟩ := by
      rw [receipts5]
      exact Table.put_same _ _ _
    refine ⟨rfl,?_,_,receipts,rfl,rfl⟩
    unfold eventById at fresh ⊢
    change settled.events.find? _ = _
    rw [events,List.find?_append,fresh,Option.none_or]
    simp

-- Whatever happens after an acceptance, the same submission repeats its receipt
-- and leaves the store as it is; other contents under that id are a conflict. An
-- event of a generation that is not current leaves one audit entry.
theorem agent_event_replay {s : AgentStore κ}
    (reached : Runs (Enabled (commit crypto)) (.initial definitions) earlier s) :
    (∀ env event accepted stored snapshot checkpoint later next,
      acceptWorkflowEvent crypto env event s = .ok (accepted,.accepted stored snapshot checkpoint) →
      Runs (Enabled (commit crypto)) accepted later next →
      (∀ env', acceptWorkflowEvent crypto env' event next = .ok (next,.accepted stored snapshot checkpoint)) ∧
      ∀ env' other, other.id = event.id → other ≠ event →
        (crypto.canonicalDigest other = crypto.canonicalDigest event → other = event) →
        ∃ message, acceptWorkflowEvent crypto env' other next = .error (.eventReplayConflict message)) ∧
    (∀ event ∈ s.events, ∃ receipt, s.receipts event.id = some receipt ∧
      ∀ later next, Runs (Enabled (commit crypto)) s later next → ∀ env',
        acceptWorkflowEvent crypto env' event next =
          .ok (next,.accepted event receipt.attempt receipt.checkpoint)) ∧
    ∀ env event next attemptId,
      acceptWorkflowEvent crypto env event s = .ok (next,.staleGeneration attemptId) →
      ∃ entry, next = {s with audit := s.audit ++ [entry]} := by
  have valid := reached_valid reached
  refine ⟨?_,?_,?_⟩
  · intro env event accepted stored snapshot checkpoint later next ran path
    have step : commit crypto s (.acceptWorkflowEvent env event) = some accepted :=
      committed_some.mpr ⟨_,ran⟩
    have reached' := (reached.snoc step).append path
    have kept := evidence_kept path (commit_valid _ _ _ valid step)
    obtain ⟨same,found,receipt,receipted,rfl,rfl⟩ := acceptance_recorded valid ran
    refine ⟨?_,?_⟩
    · intro env'
      rw [stored_event_answers reached' (kept.events _ _ found) (kept.receipts _ _ receipted) env',
        if_pos same]
    · intro env' other named differs noCollision
      rw [stored_event_answers reached' (named ▸ kept.events _ _ found)
        (named ▸ kept.receipts _ _ receipted) env',
        if_neg fun clash => differs (noCollision (clash.symm.trans same))]
      exact ⟨_,rfl⟩
  · intro event member
    have named := reached.invariant commit_named ⟨initial_valid definitions,by
      intro event member
      cases member⟩
    obtain ⟨receipt,receipted⟩ := Option.ne_none_iff_exists'.mp (valid.evidenced event member)
    refine ⟨receipt,receipted,?_⟩
    intro later next path env'
    have kept := evidence_kept path valid
    rw [stored_event_answers (reached.append path) (kept.events _ _ (named.2 event member))
      (kept.receipts _ _ receipted) env',if_pos rfl]
  · intro env event next attemptId ran
    rcases acceptWorkflowEvent_ok ran with ⟨_,_,_,_,_,_,answer⟩ |
      ⟨_,_,_,_,_,_,_,⟨_,_,rfl⟩ | ⟨_,ran⟩⟩
    · cases answer
    · exact ⟨_,rfl⟩
    · rename_i locked _ _ _ _
      obtain ⟨_,_,_,_,_,_,answer,_⟩ :=
        acceptCurrentEvent_ok valid.evidenced (valid.keyed _ _ locked ▸ locked) ran
      cases answer

-- The WAITING_INPUT event of generation one, submitted again after the attempt
-- went on and succeeded in generation two.
theorem agent_event_replay_ended :
    (∃ receipt, endedStore.receipts 33 = some receipt ∧ receipt.attempt.state = .waitingInput ∧
      ∀ env, acceptWorkflowEvent sampleCryptography env
          (sampleEvent 33 1 4 (.waitingInput sampleCheckpoint 100 (some "continue?")) (Nat.succ_pos _) (Nat.succ_pos _))
          endedStore =
        .ok (endedStore,.accepted
          (sampleEvent 33 1 4 (.waitingInput sampleCheckpoint 100 (some "continue?")) (Nat.succ_pos _) (Nat.succ_pos _))
          receipt.attempt receipt.checkpoint)) ∧
    ∃ accepted stored snapshot checkpoint,
      acceptWorkflowEvent sampleCryptography ⟨"system",8,56⟩
        (sampleEvent 35 2 2 .attemptRunning (Nat.succ_pos _) (Nat.succ_pos _)) sampleStore =
          .ok (accepted,.accepted stored snapshot checkpoint) ∧
      ∀ env, ∃ message, acceptWorkflowEvent sampleCryptography env
        (sampleEvent 35 2 3 .attemptRunning (Nat.succ_pos _) (Nat.succ_pos _)) accepted =
          .error (.eventReplayConflict message) := by
  refine ⟨?_,?_⟩
  · obtain ⟨_,stored,_⟩ := agent_event_replay endedStore_reached
    obtain ⟨receipt,found,again⟩ := stored
      (sampleEvent 33 1 4 (.waitingInput sampleCheckpoint 100 (some "continue?")) (Nat.succ_pos _) (Nat.succ_pos _))
      (by decide)
    have state : (endedStore.receipts 33).map (·.attempt.state) = some .waitingInput := by decide
    have held : endedStore.receipts 33 = some receipt := found
    rw [held] at state
    exact ⟨receipt,held,Option.some.inj state,again _ _ .nil⟩
  · obtain ⟨replayed,_,_⟩ := agent_event_replay
      (execute_get (by decide) : Runs (Enabled (commit sampleCryptography)) (.initial sampleDefinitions)
        sampleTransactions sampleStore)
    refine ⟨_,_,_,_,rfl,?_⟩
    intro env
    exact (replayed ⟨"system",8,56⟩ (sampleEvent 35 2 2 .attemptRunning (Nat.succ_pos _) (Nat.succ_pos _)) _ _ _ _ _ _ rfl
      .nil).2 env (sampleEvent 35 2 3 .attemptRunning (Nat.succ_pos _) (Nat.succ_pos _)) rfl (by decide)
      (fun clash => absurd clash (by decide))

end EngineeringPlatform.Agent
