import EngineeringPlatform.AgentAgreement
import Mathlib.Data.List.Dedup
import Mathlib.Data.List.Sort
namespace EngineeringPlatform.Agent
open Checked Idempotency TransitionRuns
variable {κ : Type} {crypto : AgentCryptography κ}

-- SELECT * FROM a table: every stored row once, in no particular order.
structure Scan {Κ ρ : Type} (table : Table Κ ρ) where
  rows : List ρ
  once : rows.Nodup
  stored : ∀ row, row ∈ rows ↔ ∃ key, table key = some row

-- A table with finitely many rows has such a scan.
def Listed {Κ ρ : Type} (table : Table Κ ρ) : Prop := ∃ keys : List Κ, ∀ key row, table key = some row → key ∈ keys

theorem listed_put {Κ ρ : Type} [DecidableEq Κ] {table : Table Κ ρ} (finite : Listed table) (key : Κ) (row : ρ) :
    Listed (table.put key row) := by
  obtain ⟨keys,listed⟩ := finite
  refine ⟨key :: keys,fun other found stored => ?_⟩
  rcases Table.put_some stored with ⟨rfl,_⟩ | ⟨_,old⟩
  · exact List.mem_cons_self
  · exact List.mem_cons_of_mem _ (listed other found old)

theorem listed_scan {Κ ρ : Type} [DecidableEq Κ] {table : Table Κ ρ} (finite : Listed table) (name : ρ → Κ)
    (keyed : Table.Every (fun key row => name row = key) table) : Nonempty (Scan table) := by
  obtain ⟨keys,listed⟩ := finite
  refine ⟨⟨keys.dedup.filterMap table,?_,fun row => ?_⟩⟩
  · refine (List.nodup_dedup keys).filterMap fun one two row first second => ?_
    exact (keyed one row first).symm.trans (keyed two row second)
  · simp only [List.mem_filterMap,List.mem_dedup]
    exact ⟨fun ⟨key,_,found⟩ => ⟨key,found⟩,fun ⟨key,found⟩ => ⟨key,listed key row found,found⟩⟩

structure AgentWaitingInput where
  eventId : Uuid
  attemptId : Uuid
  generation : Nat
  checkpointId : Uuid
  waitingDeadline : Time
  question : String
  deriving DecidableEq

structure AgentRunView where
  run : AgentRun
  attempts : List AgentAttempt
  bindings : List ExecutionBinding
  waitingInput : Option AgentWaitingInput
  deriving DecidableEq

inductive AgentQueryError where
  | agentRunNotFound (runId : Uuid)
  | agentQueryUnavailable (message : String)
  | invalidRunCursor
  | invalidRunPageLimit
  | invalidEventCursor (message : String)
  | invalidEventPageLimit
  deriving DecidableEq

def eventByPosition (s : AgentStore κ) (attemptId generation sequence : Nat) : Option CanonicalEventInput :=
  s.events.find? fun event =>
    event.attemptId = attemptId ∧ event.generation = generation ∧ event.sequence = sequence

def attemptsByRunId {s : AgentStore κ} (scan : Scan s.attempts) (runId : Uuid) : List AgentAttempt :=
  (scan.rows.filter fun attempt => attempt.runId = runId).insertionSort fun one two => one.number ≤ two.number

def waitingUnavailable : AgentQueryError :=
  .agentQueryUnavailable "Current waiting input evidence is unavailable"

-- The pending request is read from the event at the attempt's own position, which has to
-- show the checkpoint and the deadline of the attempt. Older events carry no question.
def waitingInput (s : AgentStore κ) (run : AgentRun) (attempt : AgentAttempt) :
    Except AgentQueryError (Option AgentWaitingInput) := do
  require (attempt.runId = run.id) (.agentQueryUnavailable "Latest Attempt does not belong to Run")
  if attempt.state ≠ .waitingInput then
    pure none
  else
    let event ← orRaise (eventByPosition s attempt.id attempt.runnerGeneration attempt.eventSequence)
      waitingUnavailable
    match event.payload with
    | .waitingInput checkpoint deadline question =>
      require (event.attemptId = attempt.id ∧ event.generation = attempt.runnerGeneration ∧
          event.sequence = attempt.eventSequence ∧ some checkpoint = attempt.checkpoint ∧
          some deadline = attempt.waitingDeadline) waitingUnavailable
      match question with
      | none => pure none
      | some question => do
        require (1 ≤ attempt.runnerGeneration) waitingUnavailable
        pure (some ⟨event.id,attempt.id,attempt.runnerGeneration,checkpoint.id,deadline,question⟩)
    | _ => .error waitingUnavailable

def getRun (s : AgentStore κ) (scan : Scan s.attempts) (runId : Uuid) :
    Except AgentQueryError AgentRunView := do
  let run ← orRaise (s.runs runId) (.agentRunNotFound runId)
  let attempts := attemptsByRunId scan run.id
  let current ← orRaise (attempts.find? fun attempt => attempt.id = run.latestAttemptId)
    (.agentQueryUnavailable "Latest Attempt is unavailable")
  let pending ← waitingInput s run current
  pure ⟨run,attempts,attempts.filterMap fun attempt => s.bindings attempt.id,pending⟩

-- What the queries find beside an attempt: its binding, its checkpoint and, while it
-- waits, the event that asked.
structure Evidenced (s : AgentStore κ) (attemptId : Uuid) (attempt : AgentAttempt) : Prop where
  bound : ∃ binding, s.bindings attemptId = some binding ∧ binding.id = attempt.bindingId ∧
    binding.digest = attempt.bindingDigest
  checkpointed : ∀ checkpoint, attempt.checkpoint = some checkpoint →
    s.checkpoints checkpoint.id = some (attemptId,checkpoint)
  waiting : attempt.state = .waitingInput → ∃ event ∈ s.events, event.attemptId = attemptId ∧
    event.generation = attempt.runnerGeneration ∧ event.sequence = attempt.eventSequence ∧
    ∃ checkpoint deadline question, event.payload = .waitingInput checkpoint deadline (some question) ∧
      attempt.checkpoint = some checkpoint ∧ attempt.waitingDeadline = some deadline

def Readable (s : AgentStore κ) : Prop := Table.Every (Evidenced s) s.attempts

theorem initial_readable (definitions : Table (Uuid × Nat) AgentDefinition) :
    Readable (AgentStore.initial definitions : AgentStore κ) :=
  Table.every_empty _

variable {s next : AgentStore κ}

theorem Evidenced.kept (evidenced : Evidenced s attemptId attempt)
    (bindings : next.bindings attemptId = s.bindings attemptId)
    (checkpoints : ∀ id row, s.checkpoints id = some row → next.checkpoints id = some row)
    (events : ∀ event ∈ s.events, event ∈ next.events) : Evidenced next attemptId attempt := by
  refine ⟨bindings ▸ evidenced.bound,?_,?_⟩
  · intro checkpoint held
    exact checkpoints _ _ (evidenced.checkpointed checkpoint held)
  · intro waits
    obtain ⟨event,member,rest⟩ := evidenced.waiting waits
    exact ⟨event,events event member,rest⟩

-- A transaction writes one attempt at most, and takes no binding, checkpoint or event of
-- another attempt away.
theorem Readable.written (readable : Readable s) (attempt : AgentAttempt)
    (attempts : next.attempts = s.attempts.put attempt.id attempt)
    (bindings : ∀ key, key ≠ attempt.id → next.bindings key = s.bindings key)
    (checkpoints : ∀ id row, s.checkpoints id = some row → next.checkpoints id = some row)
    (events : ∀ event ∈ s.events, event ∈ next.events)
    (new : Evidenced next attempt.id attempt) : Readable next := by
  intro key row found
  rw [attempts] at found
  rcases Table.put_some found with ⟨rfl,rfl⟩ | ⟨other,stored⟩
  · exact new
  · exact (readable key row stored).kept (bindings key other) checkpoints events

theorem Readable.quiet (readable : Readable s) (attempts : next.attempts = s.attempts)
    (bindings : next.bindings = s.bindings) (checkpoints : next.checkpoints = s.checkpoints)
    (events : next.events = s.events) : Readable next := by
  intro key row found
  refine (readable key row (attempts ▸ found)).kept (by rw [bindings]) ?_ ?_
  · rw [checkpoints]
    exact fun _ _ held => held
  · rw [events]
    exact fun _ member => member

-- A control rewrites an attempt that does not wait afterwards.
theorem Readable.steered (readable : Readable s) {old : AgentAttempt} (new : AgentAttempt)
    (found : s.attempts old.id = some old) (same : new.id = old.id)
    (attempts : next.attempts = s.attempts.put new.id new) (bindings : next.bindings = s.bindings)
    (checkpoints : next.checkpoints = s.checkpoints) (events : next.events = s.events)
    (kept : new.bindingId = old.bindingId ∧ new.bindingDigest = old.bindingDigest ∧
      new.checkpoint = old.checkpoint) (idle : new.state ≠ .waitingInput) : Readable next := by
  have before := readable _ _ found
  refine readable.written new attempts (fun _ _ => by rw [bindings]) (by rw [checkpoints]; exact fun _ _ held => held)
    (by rw [events]; exact fun _ member => member) ⟨?_,?_,fun waits => absurd waits idle⟩
  · rw [bindings,same,kept.1,kept.2.1]
    exact before.bound
  · rw [checkpoints,same,kept.2.2]
    exact before.checkpointed

theorem startOperation_readable (valid : StoreValid s) (readable : Readable s)
    (ran : startOperation crypto env command s = .ok (next,result)) : Readable next := by
  obtain ⟨_,_,binding,_,_,_,_,_,rfl⟩ := startOperation_ok valid.evidenced ran
  refine readable.written (queuedAttempt env binding) rfl ?_ (fun _ _ held => held) ?_ ⟨?_,nofun,nofun⟩
  · exact fun _ other => Table.put_other _ _ other
  · exact fun _ member => List.mem_append_left _ member
  · exact ⟨binding,Table.put_same _ _ _,rfl,rfl⟩

theorem cancelOperation_readable (readable : Readable s)
    (found : s.attempts attempt.id = some attempt)
    (ran : cancelOperation env command attempt s = .ok (next,result)) : Readable next := by
  rcases cancelOperation_ok found ran with ⟨_,_,_,_,rfl⟩ | ⟨_,rfl⟩
  · exact readable.steered (cancelingAttempt attempt env.now) found rfl rfl rfl rfl rfl ⟨rfl,rfl,rfl⟩ nofun
  · exact readable.quiet rfl rfl rfl rfl

theorem resumeOperation_readable (readable : Readable s)
    (found : s.attempts attempt.id = some attempt)
    (ran : resumeOperation env command run attempt s = .ok (next,result)) : Readable next := by
  obtain ⟨_,_,_,rfl⟩ := resumeOperation_ok found ran
  exact readable.steered (resumedAttempt attempt env.resumedAt) found rfl rfl rfl rfl rfl ⟨rfl,rfl,rfl⟩ nofun

theorem storeCheckpoint_ok (ran : storeCheckpoint s attemptId checkpoint = .ok next) :
    next.bindings = s.bindings ∧ (∀ id row, s.checkpoints id = some row → next.checkpoints id = some row) ∧
      ∀ new, checkpoint = some new → next.checkpoints new.id = some (attemptId,new) := by
  unfold storeCheckpoint at ran
  split at ran
  · rename_i new
    obtain ⟨fresh,rfl⟩ := insertCheckpoint_ok ran
    refine ⟨rfl,?_,?_⟩
    · intro id row held
      have other : id ≠ new.id := by
        rintro rfl
        cases fresh.symm.trans held
      exact (Table.put_other _ _ other).trans held
    · rintro _ ⟨⟩
      exact Table.put_same _ _ _
  · cases pure_ok.mp ran
    exact ⟨rfl,fun _ _ held => held,nofun⟩

theorem settleRun_others (ran : settleRun s run target now = .ok next) :
    next.bindings = s.bindings ∧ next.checkpoints = s.checkpoints := by
  unfold settleRun at ran
  split at ran
  · obtain ⟨_,_,_,rfl⟩ := compareAndSetRun_some (orRaise_ok.mp ran)
    exact ⟨rfl,rfl⟩
  · cases pure_ok.mp ran
    exact ⟨rfl,rfl⟩

-- Only WAITING_INPUT leads to the waiting state, and a new one asks a question.
theorem waiting_payload {payload : EventPayload} (target : eventTarget payload = some .waitingInput)
    (asked : payload.questionMissing = false) :
    ∃ checkpoint deadline question, payload = .waitingInput checkpoint deadline (some question) := by
  cases payload with
  | waitingInput checkpoint deadline question =>
    cases question with
    | none => cases asked
    | some question => exact ⟨checkpoint,deadline,question,rfl⟩
  | _ => cases target

theorem acceptCurrentEvent_readable (valid : StoreValid s) (readable : Readable s)
    (found : s.attempts attempt.id = some attempt) (owner : event.attemptId = attempt.id)
    (current : event.generation = attempt.runnerGeneration) (asked : event.payload.questionMissing = false)
    (ran : acceptCurrentEvent crypto env event run attempt s = .ok (next,outcome)) : Readable next := by
  obtain ⟨target,stored,settled,_,⟨targeted,_⟩,_,_,checkpointed,settles,rfl⟩ :=
    acceptCurrentEvent_ok valid.evidenced found ran
  obtain ⟨attempts1,events1,_,_⟩ := storeCheckpoint_frame checkpointed
  obtain ⟨bindings1,checkpoints1,inserted⟩ := storeCheckpoint_ok checkpointed
  obtain ⟨attempts5,events5,_,_⟩ := settleRun_frame settles
  obtain ⟨bindings5,checkpoints5⟩ := settleRun_others settles
  have before := readable _ _ found
  have attempts : settled.attempts = s.attempts.put attempt.id (acceptedAttempt attempt event target env.now) := by
    rw [attempts5,←attempts1]
    rfl
  have events : settled.events = s.events ++ [event] := by
    rw [events5,←events1]
    rfl
  have bindings : settled.bindings = s.bindings := by
    rw [bindings5,←bindings1]
    rfl
  have checkpoints : settled.checkpoints = stored.checkpoints := by
    rw [checkpoints5]
    rfl
  refine readable.written (acceptedAttempt attempt event target env.now) attempts ?_ ?_ ?_ ⟨?_,?_,?_⟩
  · exact fun _ _ => congrFun bindings _
  · intro id row held
    exact (congrFun checkpoints id).trans (checkpoints1 id row held)
  · intro other member
    exact (congrArg (other ∈ ·) events).mpr (List.mem_append_left _ member)
  · obtain ⟨binding,held,named⟩ := before.bound
    exact ⟨binding,(congrFun bindings _).trans held,named⟩
  · intro checkpoint held
    refine (congrFun checkpoints _).trans ?_
    by_cases waits : target = .waitingInput
    · exact inserted checkpoint (by simpa [acceptedAttempt,waits] using held)
    · exact checkpoints1 _ _ (before.checkpointed checkpoint (by simpa [acceptedAttempt,waits] using held))
  · rintro (rfl : target = .waitingInput)
    obtain ⟨checkpoint,deadline,question,shape⟩ := waiting_payload targeted asked
    refine ⟨event,(congrArg (event ∈ ·) events).mpr (by simp),owner,current,rfl,checkpoint,deadline,question,shape,?_,?_⟩
    · simp [acceptedAttempt,shape,EventPayload.checkpoint]
    · simp [acceptedAttempt,shape,EventPayload.waitingDeadline]

theorem acceptWorkflowEvent_readable (valid : StoreValid s) (readable : Readable s)
    (ran : acceptWorkflowEvent crypto env event s = .ok (next,outcome)) : Readable next := by
  simp only [acceptWorkflowEvent,require_bind_ok,orRaise_bind_ok] at ran
  obtain ⟨attempt,locked,run,_,_,ran⟩ := ran
  split at ran
  · simp only [require_bind_ok,orRaise_bind_ok,pure_ok,Prod.mk.injEq] at ran
    obtain ⟨_,_,_,rfl,_⟩ := ran
    exact readable
  · simp only [require_bind_ok] at ran
    obtain ⟨asked,owner,ran⟩ := ran
    split at ran
    · simp only [pure_ok,Prod.mk.injEq] at ran
      obtain ⟨rfl,_⟩ := ran
      exact readable.quiet rfl rfl rfl rfl
    · rename_i current
      exact acceptCurrentEvent_readable valid readable (valid.keyed _ _ locked ▸ locked) owner
        (by simpa using current) asked ran

theorem Readable.around {after : AgentStore κ} (readable : Readable s)
    (kept : Readable (s.putIdempotency claimed) → Readable after) : Readable (after.putIdempotency completed) :=
  (kept (readable.quiet rfl rfl rfl rfl)).quiet rfl rfl rfl rfl

theorem commit_readable (valid : StoreValid s) (readable : Readable s)
    (step : commit crypto s transaction = some next) : Readable next := by
  cases transaction with
  | startRun env command =>
    obtain ⟨result,ran⟩ := committed_some.mp step
    rcases executeAgentCommand_ok ran with rfl | ⟨claimed,after,performed,completed,inner,rfl⟩
    · exact readable
    · exact readable.around fun held => startOperation_readable valid.putIdempotency held inner
  | cancelAttempt env command =>
    obtain ⟨result,ran⟩ := committed_some.mp step
    obtain ⟨⟨run,attempt⟩,locked,ran⟩ := bind_ok.mp ran
    have found := lockedAttempt_ok locked
    rcases executeAgentCommand_ok ran with rfl | ⟨claimed,after,performed,completed,inner,rfl⟩
    · exact readable
    · exact readable.around fun held => cancelOperation_readable held (valid.keyed _ _ found ▸ found) inner
  | resumeAttempt env command =>
    obtain ⟨result,ran⟩ := committed_some.mp step
    obtain ⟨⟨run,attempt⟩,locked,ran⟩ := bind_ok.mp ran
    have found := lockedAttempt_ok locked
    rcases executeAgentCommand_ok ran with rfl | ⟨claimed,after,performed,completed,inner,rfl⟩
    · exact readable
    · exact readable.around fun held => resumeOperation_readable held (valid.keyed _ _ found ▸ found) inner
  | acceptWorkflowEvent env event =>
    obtain ⟨outcome,ran⟩ := committed_some.mp step
    exact acceptWorkflowEvent_readable valid readable ran

theorem commit_keeps_readable : Preserves (Enabled (commit crypto))
    (fun s : AgentStore κ => StoreValid s ∧ Readable s) := by
  rintro s transaction next ⟨valid,readable⟩ step
  exact ⟨(commit_change valid step).valid valid,commit_readable valid readable step⟩

theorem reached_readable
    (reached : Runs (Enabled (commit crypto)) (.initial definitions) transactions s) : Readable s :=
  (reached.invariant commit_keeps_readable ⟨initial_valid definitions,initial_readable definitions⟩).2

-- A position holds one event, so the query finds it whatever came before.
theorem eventByPosition_found (log : FencedLog.Valid eventCoordinates (eventLog s))
    (member : event ∈ s.events) :
    eventByPosition s event.attemptId event.generation event.sequence = some event := by
  cases found : eventByPosition s event.attemptId event.generation event.sequence with
  | none =>
    have absent := List.find?_eq_none.mp found event member
    simp at absent
  | some other =>
    have matched : other.attemptId = event.attemptId ∧ other.generation = event.generation ∧
        other.sequence = event.sequence := by
      simpa using List.find?_some found
    obtain ⟨n,numbered⟩ := log.gapless event.attemptId event.generation
    have apart : (FencedLog.stream eventCoordinates s.events event.attemptId event.generation).Nodup :=
      numbered ▸ List.nodup_range'
    have entry {row : CanonicalEventInput} (stored : row ∈ s.events) (owner : row.attemptId = event.attemptId)
        (generation : row.generation = event.generation) :
        row ∈ FencedLog.entries eventCoordinates s.events event.attemptId event.generation :=
      List.mem_filter.mpr ⟨stored,by simp [eventCoordinates,owner,generation]⟩
    rw [List.inj_on_of_nodup_map apart (entry (List.mem_of_find?_eq_some found) matched.1 matched.2.1)
      (entry member rfl rfl) matched.2.2]

-- A run has one attempt: the one it calls its latest.
theorem attemptsByRunId_single (scan : Scan s.attempts) (agreed : Agreed s)
    (held : s.runs runId = some run) (found : s.attempts run.latestAttemptId = some attempt)
    (belongs : attempt.runId = runId) : attemptsByRunId scan runId = [attempt] := by
  have only : scan.rows.filter (fun row => row.runId = runId) = [attempt] := by
    refine List.perm_singleton.mp ((List.perm_ext_iff_of_nodup (scan.once.filter _) (List.nodup_singleton _)).mpr ?_)
    intro row
    rw [List.mem_filter,List.mem_singleton,scan.stored]
    constructor
    · rintro ⟨⟨key,stored⟩,owner⟩
      obtain ⟨mate,mateAt,points,_⟩ := agreed.owned _ _ stored
      rw [of_decide_eq_true owner,held] at mateAt
      cases mateAt
      exact Option.some.inj (stored.symm.trans (points ▸ found))
    · rintro rfl
      exact ⟨⟨_,found⟩,by simpa using belongs⟩
  rw [attemptsByRunId,only]
  rfl

theorem waitingInput_idle (owner : attempt.runId = run.id) (idle : attempt.state ≠ .waitingInput) :
    waitingInput s run attempt = .ok none := by
  simp [waitingInput,require,owner,idle,bind,Except.bind,pure,Except.pure]

theorem waitingInput_pending (owner : attempt.runId = run.id) (waits : attempt.state = .waitingInput)
    (found : eventByPosition s attempt.id attempt.runnerGeneration attempt.eventSequence = some event)
    (placed : event.attemptId = attempt.id ∧ event.generation = attempt.runnerGeneration ∧
      event.sequence = attempt.eventSequence)
    (shape : event.payload = .waitingInput checkpoint deadline (some question))
    (held : attempt.checkpoint = some checkpoint) (until' : attempt.waitingDeadline = some deadline) :
    waitingInput s run attempt =
      .ok (some ⟨event.id,attempt.id,attempt.runnerGeneration,checkpoint.id,deadline,question⟩) := by
  have positive : 1 ≤ attempt.runnerGeneration := placed.2.1 ▸ event.generationPositive
  simp [waitingInput,require,owner,waits,bind,Except.bind,pure,Except.pure,orRaise,found,shape,placed,held,until',
    positive]

-- At every reachable store get_run answers for every stored run, with its one attempt and
-- the binding of it; while the attempt waits the answer shows the request that its last
-- event made, with the checkpoint and the deadline the attempt holds.
theorem get_run_answers {s : AgentStore κ}
    (reached : Runs (Enabled (commit crypto)) (.initial definitions) transactions s) (scan : Scan s.attempts) :
    (∀ runId, s.runs runId = none → getRun s scan runId = .error (.agentRunNotFound runId)) ∧
    ∀ runId run, s.runs runId = some run → ∃ attempt binding view,
      s.attempts run.latestAttemptId = some attempt ∧ s.bindings run.latestAttemptId = some binding ∧
      binding.id = attempt.bindingId ∧ binding.digest = attempt.bindingDigest ∧
      getRun s scan runId = .ok view ∧ view.run = run ∧ view.attempts = [attempt] ∧ view.bindings = [binding] ∧
      (attempt.state ≠ .waitingInput → view.waitingInput = none) ∧
      (attempt.state = .waitingInput → ∃ event ∈ s.events, ∃ checkpoint deadline question,
        event.payload = .waitingInput checkpoint deadline (some question) ∧
        event ∈ storedEvents s attempt.id attempt.runnerGeneration ∧ event.sequence = attempt.eventSequence ∧
        attempt.checkpoint = some checkpoint ∧ attempt.waitingDeadline = some deadline ∧
        view.waitingInput =
          some ⟨event.id,attempt.id,attempt.runnerGeneration,checkpoint.id,deadline,question⟩) := by
  have agreed := (reached_agreed reached).2
  have keyed := (reached_valid reached).keyed
  have readable := reached_readable reached
  constructor
  · intro runId absent
    simp [getRun,absent,orRaise,bind,Except.bind]
  · intro runId run held
    obtain ⟨attempt,found,belongs⟩ := agreed.paired _ _ held
    have named : run.id = runId := agreed.keyed _ _ held
    have key : attempt.id = run.latestAttemptId := keyed _ _ found
    obtain ⟨⟨binding,bound,same⟩,_,waiting⟩ := readable _ _ found
    have listed := attemptsByRunId_single scan agreed held found belongs
    have answers {pending : Option AgentWaitingInput} (read : waitingInput s run attempt = .ok pending) :
        getRun s scan runId = .ok ⟨run,[attempt],[binding],pending⟩ := by
      simp [getRun,held,orRaise,bind,Except.bind,pure,Except.pure,named,listed,key,read,bound]
    by_cases waits : attempt.state = .waitingInput
    · obtain ⟨event,member,owner,generation,sequence,checkpoint,deadline,question,shape,marked,until'⟩ := waiting waits
      have at' := eventByPosition_found (reached_log reached) member
      rw [owner,generation,sequence,←key] at at'
      have read := waitingInput_pending (belongs.trans named.symm) waits at' ⟨owner.trans key.symm,generation,sequence⟩
        shape marked until'
      refine ⟨attempt,binding,_,found,bound,same.1,same.2,answers read,rfl,rfl,rfl,fun idle => absurd waits idle,
        fun _ => ⟨event,member,checkpoint,deadline,question,shape,?_,sequence,marked,until',rfl⟩⟩
      exact List.mem_filter.mpr ⟨member,by simp [eventCoordinates,owner,generation,key]⟩
    · exact ⟨attempt,binding,_,found,bound,same.1,same.2,answers (waitingInput_idle (belongs.trans named.symm) waits),
        rfl,rfl,rfl,fun _ => rfl,fun asks => absurd asks waits⟩

theorem RunChange.listed (change : RunChange s next)
    (finite : Listed s.runs ∧ Listed s.attempts) : Listed next.runs ∧ Listed next.attempts := by
  cases change with
  | quiet runs attempts => exact ⟨runs ▸ finite.1,attempts ▸ finite.2⟩
  | opened run attempt _ _ runs attempts => exact ⟨runs ▸ listed_put finite.1 _ _,attempts ▸ listed_put finite.2 _ _⟩
  | moved old attempt _ runs attempts => exact ⟨runs ▸ finite.1,attempts ▸ listed_put finite.2 _ _⟩
  | ended old attempt before run _ _ runs attempts =>
    exact ⟨runs ▸ listed_put finite.1 _ _,attempts ▸ listed_put finite.2 _ _⟩

theorem reached_scans (reached : Runs (Enabled (commit crypto)) (.initial definitions) transactions s) :
    Nonempty (Scan s.runs) ∧ Nonempty (Scan s.attempts) := by
  have keeps : Preserves (Enabled (commit crypto))
      fun s : AgentStore κ => StoreValid s ∧ Listed s.runs ∧ Listed s.attempts := by
    rintro s transaction next ⟨valid,listed⟩ step
    exact ⟨(commit_change valid step).valid valid,(commit_committed valid step).1.listed listed⟩
  have finite := reached.invariant keeps ⟨initial_valid definitions,⟨[],nofun⟩,⟨[],nofun⟩⟩
  exact ⟨listed_scan finite.2.1 AgentRun.id (reached_agreed reached).2.keyed,
    listed_scan finite.2.2 AgentAttempt.id finite.1.keyed⟩

-- The run of the sample before it is resumed: its attempt waits for an answer.
def waitingStore : AgentStore (SealedIdempotentEnvelope CommandResult) :=
  (execute (commit sampleCryptography) (.initial sampleDefinitions) (sampleTransactions.take 4)).get (by decide)

theorem waitingStore_reached : Runs (Enabled (commit sampleCryptography)) (.initial sampleDefinitions)
    (sampleTransactions.take 4) waitingStore :=
  execute_get (by decide)

theorem get_run_answers_waiting : ∃ (scan : Scan waitingStore.attempts) (view : AgentRunView),
    getRun waitingStore scan 5 = .ok view ∧ view.waitingInput = some ⟨33,10,1,70,100,"continue?"⟩ := by
  obtain ⟨scan⟩ := (reached_scans waitingStore_reached).2
  have held : (waitingStore.runs 5).isSome := by decide
  obtain ⟨attempt,binding,view,found,_,_,_,read,_,_,_,_,waiting⟩ :=
    (get_run_answers waitingStore_reached scan).2 5 _ (Option.some_get held).symm
  have row : (waitingStore.attempts 10).map (fun attempt => (attempt.id,attempt.state,attempt.runnerGeneration,
    attempt.eventSequence)) = some (10,.waitingInput,1,4) := by decide
  have latest : ((waitingStore.runs 5).get held).latestAttemptId = 10 := rfl
  rw [latest] at found
  rw [found] at row
  simp only [Option.map_some,Option.some.injEq,Prod.mk.injEq] at row
  obtain ⟨event,member,checkpoint,deadline,question,shape,_,sequence,_,_,shown⟩ := waiting row.2.1
  have asked : ∀ event ∈ waitingStore.events, event.sequence = 4 →
      event.id = 33 ∧ event.payload = .waitingInput sampleCheckpoint 100 (some "continue?") := by decide
  obtain ⟨named,payload⟩ := asked event member (sequence.trans row.2.2.2)
  rw [payload] at shape
  cases shape
  exact ⟨scan,view,read,by rw [shown,named,row.1,row.2.2.1]; rfl⟩

end EngineeringPlatform.Agent
