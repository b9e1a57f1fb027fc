import EngineeringPlatform.AgentTransactionEffects
import EngineeringPlatform.FencedLog
namespace EngineeringPlatform.Agent
open Checked Idempotency TransitionRuns
variable {κ : Type} {crypto : AgentCryptography κ}

def eventCoordinates : FencedLog.Coordinates Uuid CanonicalEventInput :=
  ⟨CanonicalEventInput.attemptId,CanonicalEventInput.generation,CanonicalEventInput.sequence⟩

-- The part of an attempt row that orders its events.
def cursorOf (attempt : AgentAttempt) : FencedLog.Cursor :=
  ⟨attempt.runnerGeneration,attempt.eventSequence⟩

def eventLog (s : AgentStore κ) : FencedLog.State Uuid CanonicalEventInput :=
  ⟨s.attempts.map cursorOf,s.events⟩

def Keyed (attemptId : Uuid) (attempt : AgentAttempt) : Prop := attempt.id = attemptId

def Fenced (_ : Uuid) (attempt : AgentAttempt) : Prop :=
  attempt.fencingToken = fenceToken attempt.id attempt.runnerGeneration

structure StoreValid (s : AgentStore κ) : Prop where
  keyed : Table.Every Keyed s.attempts
  fenced : Table.Every Fenced s.attempts
  evidenced : ∀ event ∈ s.events, s.receipts event.id ≠ none

-- What one committed transaction can do to attempts and their events.
inductive StreamChange (s next : AgentStore κ) : Prop where
  | quiet (attempts : next.attempts = s.attempts) (events : next.events = s.events)
      (receipts : next.receipts = s.receipts)
  | opened (attempt : AgentAttempt) (event : CanonicalEventInput) (receipt : EventAcceptanceReceipt)
      (fresh : s.attempts attempt.id = none)
      (attempts : next.attempts = s.attempts.put attempt.id attempt)
      (events : next.events = s.events ++ [event])
      (receipts : next.receipts = s.receipts.put event.id receipt)
      (token : attempt.fencingToken = fenceToken attempt.id attempt.runnerGeneration)
      (owner : event.attemptId = attempt.id) (generation : event.generation = attempt.runnerGeneration)
      (first : event.sequence = 1) (counted : attempt.eventSequence = 1)
  | extended (old attempt : AgentAttempt) (event : CanonicalEventInput) (receipt : EventAcceptanceReceipt)
      (found : s.attempts old.id = some old)
      (attempts : next.attempts = s.attempts.put attempt.id attempt)
      (events : next.events = s.events ++ [event])
      (receipts : next.receipts = s.receipts.put event.id receipt) (same : attempt.id = old.id)
      (kept : attempt.runnerGeneration = old.runnerGeneration ∧ attempt.fencingToken = old.fencingToken)
      (owner : event.attemptId = old.id) (generation : event.generation = old.runnerGeneration)
      (sequence : event.sequence = old.eventSequence + 1) (counted : attempt.eventSequence = event.sequence)
  | steered (old attempt : AgentAttempt) (found : s.attempts old.id = some old)
      (attempts : next.attempts = s.attempts.put attempt.id attempt) (events : next.events = s.events)
      (receipts : next.receipts = s.receipts) (same : attempt.id = old.id)
      (kept : attempt.runnerGeneration = old.runnerGeneration ∧ attempt.fencingToken = old.fencingToken)
      (counted : attempt.eventSequence = old.eventSequence)
  | resumed (old attempt : AgentAttempt) (found : s.attempts old.id = some old)
      (attempts : next.attempts = s.attempts.put attempt.id attempt) (events : next.events = s.events)
      (receipts : next.receipts = s.receipts) (same : attempt.id = old.id)
      (generation : attempt.runnerGeneration = old.runnerGeneration + 1)
      (token : attempt.fencingToken = fenceToken attempt.id attempt.runnerGeneration)
      (counted : attempt.eventSequence = 0)

variable {s next : AgentStore κ}

theorem StreamChange.around {after : AgentStore κ} (change : StreamChange (s.putIdempotency claimed) after) :
    StreamChange s (after.putIdempotency completed) := by
  cases change with
  | quiet attempts events receipts => exact .quiet attempts events receipts
  | opened attempt event receipt fresh attempts events receipts token owner generation first counted =>
    exact .opened attempt event receipt fresh attempts events receipts token owner generation first counted
  | extended old attempt event receipt found attempts events receipts same kept owner generation sequence counted =>
    exact .extended old attempt event receipt found attempts events receipts same kept owner generation sequence counted
  | steered old attempt found attempts events receipts same kept counted =>
    exact .steered old attempt found attempts events receipts same kept counted
  | resumed old attempt found attempts events receipts same generation token counted =>
    exact .resumed old attempt found attempts events receipts same generation token counted

theorem StoreValid.putIdempotency (valid : StoreValid s) :
    StoreValid (s.putIdempotency rows) :=
  ⟨valid.keyed,valid.fenced,valid.evidenced⟩

theorem startOperation_change (valid : StoreValid s)
    (ran : startOperation crypto env command s = .ok (next,result)) : StreamChange s next := by
  obtain ⟨_,_,binding,_,fresh,_,_,_,rfl⟩ := startOperation_ok valid.evidenced ran
  exact .opened (queuedAttempt env binding) _ _ fresh rfl rfl rfl rfl rfl rfl rfl rfl

theorem cancelOperation_change (found : s.attempts attempt.id = some attempt)
    (ran : cancelOperation env command attempt s = .ok (next,result)) : StreamChange s next := by
  rcases cancelOperation_ok found ran with ⟨_,_,_,_,rfl⟩ | ⟨_,rfl⟩
  · exact .steered attempt (cancelingAttempt attempt env.now) found rfl rfl rfl rfl ⟨rfl,rfl⟩ rfl
  · exact .quiet rfl rfl rfl

theorem resumeOperation_change (found : s.attempts attempt.id = some attempt)
    (ran : resumeOperation env command run attempt s = .ok (next,result)) : StreamChange s next := by
  obtain ⟨_,_,_,rfl⟩ := resumeOperation_ok found ran
  exact .resumed attempt (resumedAttempt attempt env.resumedAt) found rfl rfl rfl rfl rfl rfl rfl

theorem acceptCurrentEvent_change (valid : StoreValid s)
    (found : s.attempts attempt.id = some attempt) (owner : event.attemptId = attempt.id)
    (current : event.generation = attempt.runnerGeneration)
    (ran : acceptCurrentEvent crypto env event run attempt s = .ok (next,outcome)) :
    StreamChange s next := by
  obtain ⟨target,stored,settled,sequence,_,_,_,checkpointed,settles,rfl⟩ :=
    acceptCurrentEvent_ok valid.evidenced found ran
  obtain ⟨attempts1,events1,receipts1,_⟩ := storeCheckpoint_frame checkpointed
  obtain ⟨attempts5,events5,receipts5,_⟩ := settleRun_frame settles
  refine .extended attempt (acceptedAttempt attempt event target env.now) event
    ⟨event.id,acceptedAttempt attempt event target env.now,event.payload.checkpoint⟩ found
    (attempts5.trans ?_) (events5.trans ?_) (receipts5.trans ?_) rfl ⟨rfl,rfl⟩ owner current sequence rfl
  · rw [←attempts1]
    rfl
  · rw [←events1]
    rfl
  · rw [←receipts1]
    rfl

theorem acceptWorkflowEvent_change (valid : StoreValid s)
    (ran : acceptWorkflowEvent crypto env event s = .ok (next,outcome)) : StreamChange s next := by
  simp only [acceptWorkflowEvent,require_bind_ok,orRaise_bind_ok] at ran
  obtain ⟨attempt,locked,run,_,_,ran⟩ := ran
  split at ran
  · simp only [require_bind_ok,orRaise_bind_ok,pure_ok,Prod.mk.injEq] at ran
    obtain ⟨_,_,_,rfl,_⟩ := ran
    exact .quiet rfl rfl rfl
  · simp only [require_bind_ok] at ran
    obtain ⟨_,owner,ran⟩ := ran
    split at ran
    · simp only [pure_ok,Prod.mk.injEq] at ran
      obtain ⟨rfl,_⟩ := ran
      exact .quiet rfl rfl rfl
    · rename_i current
      have found := valid.keyed _ _ locked ▸ locked
      exact acceptCurrentEvent_change valid found owner (by simpa using current) ran

theorem acceptWorkflowEvent_commands (valid : StoreValid s)
    (ran : acceptWorkflowEvent crypto env event s = .ok (next,outcome)) : next.commands = s.commands := by
  simp only [acceptWorkflowEvent,require_bind_ok,orRaise_bind_ok] at ran
  obtain ⟨attempt,locked,run,_,_,ran⟩ := ran
  split at ran
  · simp only [require_bind_ok,orRaise_bind_ok,pure_ok,Prod.mk.injEq] at ran
    obtain ⟨_,_,_,rfl,_⟩ := ran
    rfl
  · simp only [require_bind_ok] at ran
    obtain ⟨_,_,ran⟩ := ran
    split at ran
    · simp only [pure_ok,Prod.mk.injEq] at ran
      obtain ⟨rfl,_⟩ := ran
      rfl
    · have found := valid.keyed _ _ locked ▸ locked
      obtain ⟨_,stored,settled,_,_,_,_,checkpointed,settles,rfl⟩ :=
        acceptCurrentEvent_ok valid.evidenced found ran
      exact (settleRun_frame settles).2.2.2.trans (storeCheckpoint_frame checkpointed).2.2.2

theorem commit_change (valid : StoreValid s)
    (step : commit crypto s transaction = some next) : StreamChange s next := by
  cases transaction with
  | startRun env command =>
    obtain ⟨result,ran⟩ := committed_some.mp step
    rcases executeAgentCommand_ok ran with rfl | ⟨claimed,after,performed,completed,inner,rfl⟩
    · exact .quiet rfl rfl rfl
    · exact (startOperation_change valid.putIdempotency inner).around
  | cancelAttempt env command =>
    obtain ⟨result,ran⟩ := committed_some.mp step
    obtain ⟨⟨run,attempt⟩,locked,ran⟩ := bind_ok.mp ran
    have found := lockedAttempt_ok locked
    rcases executeAgentCommand_ok ran with rfl | ⟨claimed,after,performed,completed,inner,rfl⟩
    · exact .quiet rfl rfl rfl
    · exact (cancelOperation_change (valid.keyed _ _ found ▸ found) inner).around
  | resumeAttempt env command =>
    obtain ⟨result,ran⟩ := committed_some.mp step
    obtain ⟨⟨run,attempt⟩,locked,ran⟩ := bind_ok.mp ran
    have found := lockedAttempt_ok locked
    rcases executeAgentCommand_ok ran with rfl | ⟨claimed,after,performed,completed,inner,rfl⟩
    · exact .quiet rfl rfl rfl
    · exact (resumeOperation_change (valid.keyed _ _ found ▸ found) inner).around
  | acceptWorkflowEvent env event =>
    obtain ⟨outcome,ran⟩ := committed_some.mp step
    exact acceptWorkflowEvent_change valid ran

theorem initial_valid (definitions : Table (Uuid × Nat) AgentDefinition) :
    StoreValid (AgentStore.initial definitions : AgentStore κ) := by
  refine ⟨Table.every_empty _,Table.every_empty _,?_⟩
  intro event member
  cases member

theorem put_receipt_valid {receipts : Table Uuid EventAcceptanceReceipt} {events : List CanonicalEventInput}
    (evidenced : ∀ event ∈ events, receipts event.id ≠ none) (event : CanonicalEventInput)
    (receipt : EventAcceptanceReceipt) :
    ∀ other ∈ events ++ [event], receipts.put event.id receipt other.id ≠ none := by
  intro other member
  by_cases same : other.id = event.id
  · simp [same]
  · rw [Table.put_other _ _ same]
    rcases List.mem_append.mp member with old | new
    · exact evidenced other old
    · exact absurd (congrArg CanonicalEventInput.id (List.mem_singleton.mp new)) same

theorem StreamChange.valid (change : StreamChange s next) (valid : StoreValid s) :
    StoreValid next := by
  obtain ⟨keyed,fenced,evidenced⟩ := valid
  have carried {old attempt : AgentAttempt} (found : s.attempts old.id = some old)
      (same : attempt.id = old.id)
      (kept : attempt.runnerGeneration = old.runnerGeneration ∧ attempt.fencingToken = old.fencingToken) :
      Fenced attempt.id attempt := by
    have token := fenced _ _ found
    unfold Fenced at token ⊢
    rw [kept.2,kept.1,same,token]
  cases change with
  | quiet attempts events receipts =>
    exact ⟨attempts ▸ keyed,attempts ▸ fenced,by rw [events,receipts]; exact evidenced⟩
  | opened attempt event receipt fresh attempts events receipts token =>
    exact ⟨attempts ▸ keyed.put rfl,attempts ▸ fenced.put token,
      by rw [events,receipts]; exact put_receipt_valid evidenced event receipt⟩
  | extended old attempt event receipt found attempts events receipts same kept =>
    exact ⟨attempts ▸ keyed.put rfl,attempts ▸ fenced.put (carried found same kept),
      by rw [events,receipts]; exact put_receipt_valid evidenced event receipt⟩
  | steered old attempt found attempts events receipts same kept =>
    exact ⟨attempts ▸ keyed.put rfl,attempts ▸ fenced.put (carried found same kept),
      by rw [events,receipts]; exact evidenced⟩
  | resumed old attempt found attempts events receipts same generation token =>
    exact ⟨attempts ▸ keyed.put rfl,attempts ▸ fenced.put token,by rw [events,receipts]; exact evidenced⟩

-- Every transaction is one step of the abstract fenced log.
theorem StreamChange.refines (change : StreamChange s next) :
    FencedLog.Step eventCoordinates (eventLog s) () (eventLog next) := by
  cases change with
  | quiet attempts events _ =>
    have same : eventLog next = eventLog s := by rw [eventLog,attempts,events]; rfl
    rw [same]
    exact .stay
  | opened attempt event receipt fresh attempts events _ token owner generation first counted =>
    have shape : eventLog next = ⟨(eventLog s).cursors.put (eventCoordinates.owner event)
        ⟨eventCoordinates.generation event,1⟩,(eventLog s).log ++ [event]⟩ := by
      rw [eventLog,attempts,events,Table.map_put,cursorOf,counted,←generation,←owner]
      rfl
    rw [shape]
    exact .opened event (by simp [eventLog,eventCoordinates,owner,fresh]) first
  | extended old attempt event receipt found attempts events _ same kept owner generation sequence counted =>
    have shape : eventLog next = ⟨(eventLog s).cursors.put (eventCoordinates.owner event)
        ⟨(cursorOf old).generation,(cursorOf old).sequence + 1⟩,(eventLog s).log ++ [event]⟩ := by
      rw [eventLog,attempts,events,Table.map_put,cursorOf,counted,kept.1,sequence,same,←owner]
      rfl
    rw [shape]
    exact .appended event (cursorOf old) (by simp [eventLog,eventCoordinates,owner,found]) generation sequence
  | steered old attempt found attempts events _ same kept counted =>
    have shape : eventLog next = eventLog s := by
      rw [eventLog,attempts,events,Table.map_put,cursorOf,kept.1,counted,same,
        Table.put_unchanged (by simp [found,cursorOf])]
      rfl
    rw [shape]
    exact .stay
  | resumed old attempt found attempts events _ same generation token counted =>
    have shape : eventLog next = ⟨(eventLog s).cursors.put old.id ⟨(cursorOf old).generation + 1,0⟩,
        (eventLog s).log⟩ := by
      rw [eventLog,attempts,events,Table.map_put,cursorOf,generation,counted,same]
      rfl
    rw [shape]
    exact .advanced old.id (cursorOf old) (by simp [eventLog,found])

theorem commit_valid : Preserves (Enabled (commit crypto)) (StoreValid (κ := κ)) :=
  fun _ _ _ valid step => (commit_change valid step).valid valid

theorem runs_refine (path : Runs (Enabled (commit crypto)) s transactions next)
    (valid : StoreValid s) :
    Runs (FencedLog.Step eventCoordinates) (eventLog s) (transactions.map fun _ => ()) (eventLog next) :=
  path.simulate eventLog (fun _ => ()) commit_valid
    (fun _ _ _ valid step => (commit_change valid step).refines) valid

def storedEvents (s : AgentStore κ) (attemptId generation : Nat) : List CanonicalEventInput :=
  FencedLog.entries eventCoordinates s.events attemptId generation

theorem reached_valid
    (reached : Runs (Enabled (commit crypto)) (.initial definitions) transactions s) : StoreValid s :=
  reached.invariant commit_valid (initial_valid definitions)

theorem reached_log (reached : Runs (Enabled (commit crypto)) (.initial definitions) transactions s) :
    FencedLog.Valid eventCoordinates (eventLog s) :=
  FencedLog.runs_valid eventCoordinates (runs_refine reached (initial_valid definitions))
    (FencedLog.initial_valid eventCoordinates)

-- An event of another generation than its attempt's current one is never
-- accepted anew: an acceptance only repeats what is stored.
theorem late_event_writes_nothing (found : s.attempts event.attemptId = some attempt)
    (late : event.generation ≠ attempt.runnerGeneration)
    (ran : acceptWorkflowEvent crypto env event s = .ok (next,.accepted stored snapshot checkpoint)) :
    next = s := by
  simp only [acceptWorkflowEvent,require_bind_ok,orRaise_bind_ok] at ran
  obtain ⟨locked,lockedIs,run,_,_,ran⟩ := ran
  split at ran
  · simp only [require_bind_ok,orRaise_bind_ok,pure_ok,Prod.mk.injEq] at ran
    obtain ⟨_,_,_,rfl,_⟩ := ran
    rfl
  · rename_i absent
    simp only [absent,Option.map_none,Option.getD_none] at lockedIs
    cases found.symm.trans lockedIs
    simp only [require_bind_ok,late,ne_eq,not_false_eq_true,if_true,pure_ok] at ran
    obtain ⟨_,_,ran⟩ := ran
    cases ran

-- From any reachable store on: sequences are gapless from one, the counter
-- counts the current generation, generation and token only move forward, and
-- the events of a generation that was left are fixed.
theorem event_stream_fenced {s next : AgentStore κ} {attemptId : Uuid} {attempt : AgentAttempt}
    (reached : Runs (Enabled (commit crypto)) (.initial definitions) earlier s)
    (path : Runs (Enabled (commit crypto)) s later next)
    (found : s.attempts attemptId = some attempt) :
    (∀ generation, ∃ n, (storedEvents s attemptId generation).map (·.sequence) = List.range' 1 n) ∧
    (storedEvents s attemptId attempt.runnerGeneration).length = attempt.eventSequence ∧
    attempt.fencingToken = fenceToken attemptId attempt.runnerGeneration ∧
    ∃ attempt', next.attempts attemptId = some attempt' ∧
      attempt.runnerGeneration ≤ attempt'.runnerGeneration ∧
      attempt'.fencingToken = fenceToken attemptId attempt'.runnerGeneration ∧
      (attempt'.fencingToken = attempt.fencingToken ↔
        attempt'.runnerGeneration = attempt.runnerGeneration) ∧
      (∀ generation < attempt.runnerGeneration,
        storedEvents next attemptId generation = storedEvents s attemptId generation) ∧
      ∀ env event last stored snapshot checkpoint, event.attemptId = attemptId →
        event.generation < attempt.runnerGeneration →
        acceptWorkflowEvent crypto env event next = .ok (last,.accepted stored snapshot checkpoint) →
        last = next := by
  have valid := reached_valid reached
  have log := reached_log reached
  have forward := FencedLog.runs_forward eventCoordinates (runs_refine path valid) log
  have cursor : (eventLog s).cursors attemptId = some (cursorOf attempt) := by simp [eventLog,found]
  have counted := log.counted attemptId _ cursor
  obtain ⟨cursor',kept,grown⟩ := forward.cursors attemptId _ cursor
  obtain ⟨attempt',found',rfl⟩ := Option.map_eq_some_iff.mp kept
  have token : attempt.fencingToken = fenceToken attemptId attempt.runnerGeneration := by
    rw [valid.fenced _ _ found,valid.keyed _ _ found]
  have valid' := path.invariant commit_valid valid
  have token' : attempt'.fencingToken = fenceToken attemptId attempt'.runnerGeneration := by
    rw [valid'.fenced _ _ found',valid'.keyed _ _ found']
  refine ⟨log.gapless attemptId,?_,token,attempt',found',grown,token',?_,
    fun generation below => forward.closed attemptId _ cursor generation below,?_⟩
  · have size := congrArg List.length counted
    simpa [FencedLog.stream,storedEvents,eventLog,cursorOf] using size
  · rw [token,token']
    exact ⟨fun same => fenceToken_injective same,fun same => by rw [same]⟩
  · rintro env event last stored snapshot checkpoint rfl late ran
    exact late_event_writes_nothing found' (Nat.ne_of_lt (Nat.lt_of_lt_of_le late grown)) ran

-- A run that starts, works, waits for input, resumes and reports again.
def sampleCryptography : AgentCryptography (SealedIdempotentEnvelope CommandResult) where
  canonicalDigest event := s!"{event.id}:{event.attemptId}:{event.generation}:{event.sequence}"
  requestFingerprint input := s!"{input.operation}:{input.path}"
  sealing := ⟨fun envelope => envelope,some⟩

def sampleDefinitions : Table (Uuid × Nat) AgentDefinition := Table.empty.put (800,1) ⟨800,1⟩

def sampleEvent (id generation sequence : Nat) (payload : EventPayload)
    (generationPositive : 1 ≤ generation) (sequencePositive : 1 ≤ sequence) : CanonicalEventInput where
  id := id
  payload := payload
  attemptId := 10
  generation := generation
  sequence := sequence
  correlationId := "correlation"
  causationId := none
  traceId := "trace"
  spanId := "span"
  summary := "worker evidence"
  generationPositive := generationPositive
  sequencePositive := sequencePositive

def sampleCheckpoint : CheckpointInput := ⟨70,"artifact","1","sha256","1","1","INTERNAL"⟩

def sampleTransactions : List Transaction :=
  [.startRun ⟨"actor",1,900,some ⟨1,2,3,4,"goal"⟩,true,some ⟨20,.devFake,"digest"⟩,5,10,30,40,50⟩
      ⟨1,2,3,800,1,"goal","start-key","correlation"⟩,
    .acceptWorkflowEvent ⟨"system",2,51⟩ (sampleEvent 31 1 2 .attemptProvisioning (Nat.succ_pos _) (Nat.succ_pos _)),
    .acceptWorkflowEvent ⟨"system",3,52⟩ (sampleEvent 32 1 3 .attemptRunning (Nat.succ_pos _) (Nat.succ_pos _)),
    .acceptWorkflowEvent ⟨"system",4,53⟩
      (sampleEvent 33 1 4 (.waitingInput sampleCheckpoint 100 (some "continue?")) (Nat.succ_pos _) (Nat.succ_pos _)),
    .resumeAttempt ⟨⟨"actor",5,901,41,54⟩,.context ⟨1,2,3,4,"goal"⟩,6⟩ ⟨5,10,6,"resume-key","correlation"⟩,
    .acceptWorkflowEvent ⟨"system",7,55⟩ (sampleEvent 34 2 1 .attemptProvisioning (Nat.succ_pos _) (Nat.succ_pos _))]

def endingTransactions : List Transaction :=
  sampleTransactions ++
    [.acceptWorkflowEvent ⟨"system",8,56⟩ (sampleEvent 35 2 2 .attemptRunning (Nat.succ_pos _) (Nat.succ_pos _)),
      .acceptWorkflowEvent ⟨"system",9,57⟩ (sampleEvent 36 2 3 .attemptFinalizing (Nat.succ_pos _) (Nat.succ_pos _)),
      .acceptWorkflowEvent ⟨"system",10,58⟩ (sampleEvent 37 2 4 .attemptSucceeded (Nat.succ_pos _) (Nat.succ_pos _))]

def sampleRun : Option (AgentStore (SealedIdempotentEnvelope CommandResult)) :=
  execute (commit sampleCryptography) (.initial sampleDefinitions) sampleTransactions

def sampleStore : AgentStore (SealedIdempotentEnvelope CommandResult) := sampleRun.get (by decide)

theorem event_stream_fenced_resumed : ∃ attempt, sampleStore.attempts 10 = some attempt ∧
    attempt.runnerGeneration = 2 ∧ attempt.eventSequence = 1 ∧
    (∀ generation, ∃ n, (storedEvents sampleStore 10 generation).map (·.sequence) = List.range' 1 n) ∧
    (storedEvents sampleStore 10 attempt.runnerGeneration).length = attempt.eventSequence := by
  have found : (sampleStore.attempts 10).isSome := by decide
  have reached : Runs (Enabled (commit sampleCryptography)) (.initial sampleDefinitions)
      sampleTransactions sampleStore := execute_get (by decide)
  have stream := event_stream_fenced reached .nil (Option.some_get found).symm
  exact ⟨_,(Option.some_get found).symm,rfl,rfl,stream.1,stream.2.1⟩

end EngineeringPlatform.Agent
