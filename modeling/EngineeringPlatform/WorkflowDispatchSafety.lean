import EngineeringPlatform.AgentEventStream
import EngineeringPlatform.WorkflowDispatch
namespace EngineeringPlatform.Agent
open Checked Idempotency TransitionRuns SharedWorkers
variable {κ : Type} {crypto : AgentCryptography κ} {id : Uuid}

def WorkflowCommandState.open : WorkflowCommandState → Bool
  | .planned | .unknown => true
  | .dispatched | .failed => false

-- Every row has either work left that some claim can take up, or the terminal
-- error.
structure CommandValid (id : Uuid) (row : WorkflowCommand) : Prop where
  keyed : row.id = id
  bounded : row.dispatchAttempts ≤ maxClaims
  planned : row.state = .planned → row.claim = none → row.dispatchAttempts < maxClaims
  unknown : row.state = .unknown → row.claim = none → maxClaims ≤ row.dispatchAttempts →
    row.lastErrorCode = some .claimAttemptsExhausted
  settled : row.state.open = false → row.claim = none

-- What a committed step does to one row: nothing, or it leaves every claim token
-- known before behind. No step leads from UNKNOWN back to PLANNED.
def CommandMoves (tokens : List Uuid) (old new : WorkflowCommand) : Prop :=
  new = old ∨ (∀ token ∈ tokens, new.claimToken ≠ some token) ∧ old.state.open = true ∧
    (old.state = .unknown → new.state ≠ .planned)

structure WorkflowMoves (s next : WorkflowStore κ) : Prop where
  tokens : ∀ token ∈ s.claimTokens, token ∈ next.claimTokens
  rows : Table.Advances (CommandMoves s.claimTokens) s.commands next.commands

structure WorkflowValid (s : WorkflowStore κ) : Prop where
  agent : StoreValid s.agent
  rows : Table.Every CommandValid s.commands

-- A command in a worker's hands: while the row still carries its token, the row
-- is what the worker read.
structure Held (s : WorkflowStore κ) (mode : WorkflowClaimMode) (command : WorkflowCommand) : Prop where
  issued : ∃ token ∈ s.claimTokens, command.claimToken = some token
  current : ∃ row, s.commands command.id = some row ∧ (row.claimToken = command.claimToken → row = command)
  «open» : command.state.open = true
  dispatch : mode = .dispatch → command.state = .planned
  bounded : command.dispatchAttempts ≤ maxClaims

structure Fits (command : WorkflowCommand) (decision : WorkflowOutcomeDecision) : Prop where
  planned : decision.state = .planned → command.state = .planned ∧ command.dispatchAttempts < maxClaims
  unknown : decision.state = .unknown → maxClaims ≤ command.dispatchAttempts →
    decision.error = some .claimAttemptsExhausted

def WorkerHolds (s : WorkflowStore κ) : Worker → Prop
  | .idle | .parked _ _ => True
  | .handling mode command rest => Held s mode command ∧ ∀ other ∈ rest, Held s mode other
  | .answered mode command decision rest =>
    Held s mode command ∧ Fits command decision ∧ ∀ other ∈ rest, Held s mode other

theorem CommandMoves.refl (tokens : List Uuid) (row : WorkflowCommand) : CommandMoves tokens row row :=
  .inl rfl

theorem CommandMoves.trans {tokens later : List Uuid} (grown : ∀ token ∈ tokens, token ∈ later)
    (first : CommandMoves tokens one two) (second : CommandMoves later two three) :
    CommandMoves tokens one three := by
  rcases second with rfl | ⟨fresh,opened,forward⟩
  · exact first
  · have fresh' := fun token known => fresh token (grown token known)
    rcases first with rfl | ⟨_,opened',forward'⟩
    · exact .inr ⟨fresh',opened,forward⟩
    · refine .inr ⟨fresh',opened',fun unknown => forward ?_⟩
      have left := forward' unknown
      cases state : two.state <;> simp_all [WorkflowCommandState.open]

theorem WorkflowMoves.refl (s : WorkflowStore κ) : WorkflowMoves s s :=
  ⟨fun _ known => known,.refl (.refl _) _⟩

theorem WorkflowMoves.trans {a b c : WorkflowStore κ} (first : WorkflowMoves a b)
    (second : WorkflowMoves b c) : WorkflowMoves a c := by
  refine ⟨fun token known => second.tokens token (first.tokens token known),?_⟩
  intro id row found
  obtain ⟨middle,stored,moved⟩ := first.rows id row found
  obtain ⟨last,kept,moved'⟩ := second.rows id middle stored
  exact ⟨last,kept,moved.trans first.tokens moved'⟩

theorem Held.stable {s next : WorkflowStore κ} (held : Held s mode command) (moved : WorkflowMoves s next) :
    Held next mode command := by
  obtain ⟨token,known,carried⟩ := held.issued
  obtain ⟨row,found,current⟩ := held.current
  obtain ⟨row',stored,change⟩ := moved.rows _ _ found
  refine ⟨⟨token,moved.tokens token known,carried⟩,⟨row',stored,?_⟩,held.open,held.dispatch,held.bounded⟩
  intro same
  rcases change with rfl | ⟨fresh,_⟩
  · exact current same
  · exact absurd (same.trans carried) (fresh token known)

theorem WorkerHolds.stable {s next : WorkflowStore κ} {memory : Worker} (moved : WorkflowMoves s next)
    (holds : WorkerHolds s memory) : WorkerHolds next memory := by
  cases memory with
  | idle => trivial
  | parked mode limit => trivial
  | handling mode command rest =>
    exact ⟨holds.1.stable moved,fun other member => (holds.2 other member).stable moved⟩
  | answered mode command decision rest =>
    exact ⟨holds.1.stable moved,holds.2.1,fun other member => (holds.2.2 other member).stable moved⟩

theorem WorkerHolds.next {s : WorkflowStore κ} (held : ∀ command ∈ rest, Held s mode command) :
    WorkerHolds s (Worker.next mode rest) := by
  cases rest with
  | nil => trivial
  | cons command rest =>
    exact ⟨held command List.mem_cons_self,fun other member => held other (List.mem_cons_of_mem _ member)⟩

theorem uncertain_fits (command : WorkflowCommand) : Fits command (uncertain command) := by
  unfold uncertain
  split
  · exact ⟨(fun planned => by cases planned),fun _ _ => rfl⟩
  · rename_i open'
    exact ⟨(fun planned => by cases planned),fun _ exhausted => absurd exhausted open'⟩

theorem acknowledged_fits (command : WorkflowCommand) (receipt : WorkflowReceipt) :
    Fits command (acknowledged command receipt) := by
  unfold acknowledged
  split
  · exact ⟨(fun planned => by cases planned),fun unknown => by cases unknown⟩
  · exact uncertain_fits command

theorem dispatchDecision_fits (planned : command.state = .planned) (answer : DispatchAnswer) :
    Fits command (dispatchDecision command answer) := by
  cases answer with
  | preCallFailure =>
    dsimp only [dispatchDecision]
    split
    · exact ⟨(fun planned => by cases planned),fun _ _ => rfl⟩
    · rename_i open'
      exact ⟨fun _ => ⟨planned,Nat.lt_of_not_le open'⟩,fun unknown => by cases unknown⟩
  | raised => exact uncertain_fits command
  | accepted receipt => exact acknowledged_fits command receipt
  | rejected => exact ⟨(fun planned => by cases planned),fun unknown => by cases unknown⟩
  | acknowledgementUnknown => exact uncertain_fits command

theorem lookupDecision_fits (command : WorkflowCommand) (answer : LookupAnswer) :
    Fits command (lookupDecision command answer) := by
  cases answer with
  | confirmed receipt => exact acknowledged_fits command receipt
  | rejected => exact ⟨(fun planned => by cases planned),fun unknown => by cases unknown⟩
  | neverObserved =>
    dsimp only [lookupDecision]
    split
    · rename_i fresh
      exact ⟨fun _ => fresh,fun unknown => by cases unknown⟩
    · exact uncertain_fits command
  | stillUnknown => exact uncertain_fits command
  | raised => exact uncertain_fits command

theorem claimable_spec (free : claimable mode now row = true) :
    row.state.open = true ∧ (mode = .dispatch → row.state = .planned) ∧
      ∀ owner token lease, (claimedCommand ⟨owner,token,lease,mode⟩ now row).dispatchAttempts ≤ maxClaims := by
  cases mode with
  | dispatch =>
    simp only [claimable,decide_eq_true_eq] at free
    obtain ⟨planned,_,fewer⟩ := free
    exact ⟨by rw [planned]; rfl,fun _ => planned,fun _ _ _ => by simpa [claimedCommand,maxClaims] using by omega⟩
  | reconcile =>
    cases held : row.claim with
    | none =>
      simp only [claimable,held,decide_eq_true_eq] at free
      refine ⟨by rw [free.1]; rfl,(fun other => by cases other),fun _ _ _ => ?_⟩
      simpa [claimedCommand,maxClaims,held] using by omega
    | some claim =>
      simp only [claimable,held,decide_eq_true_eq] at free
      refine ⟨by rcases free.1 with state | state <;> rw [state] <;> rfl,(fun other => by cases other),fun _ _ _ => ?_⟩
      simpa [claimedCommand,maxClaims,held] using free.2.2

theorem planned_valid (id : Uuid) : CommandValid id (plannedCommand id kind key attemptId generation now) :=
  ⟨rfl,Nat.zero_le _,fun _ _ => by simp [plannedCommand,maxClaims],(fun unknown => by cases unknown),
    fun closed => by cases closed⟩

theorem claimed_valid (valid : CommandValid id row) (free : claimable mode now row = true) :
    CommandValid id (claimedCommand ⟨owner,token,lease,mode⟩ now row) := by
  obtain ⟨opened,_,bounded⟩ := claimable_spec free
  refine ⟨valid.keyed,bounded _ _ _,(fun _ none => by cases none),(fun _ none => by cases none),fun closed => ?_⟩
  rw [show (claimedCommand ⟨owner,token,lease,mode⟩ now row).state = row.state from rfl,opened] at closed
  cases closed

theorem recorded_valid (valid : CommandValid id row) (fits : Fits row decision) :
    CommandValid id (recordedCommand decision now row) :=
  ⟨valid.keyed,valid.bounded,fun planned _ => (fits.planned planned).2,
    fun unknown _ exhausted => fits.unknown unknown exhausted,fun _ => rfl⟩

theorem parked_valid (valid : CommandValid id row) : CommandValid id (parkedCommand now row) :=
  ⟨valid.keyed,valid.bounded,(fun planned => by cases planned),fun _ _ _ => rfl,fun _ => rfl⟩

theorem unclaimed_moves (none : new.claim = none) (opened : old.state.open = true)
    (forward : old.state = .unknown → new.state ≠ .planned) : CommandMoves tokens old new :=
  .inr ⟨(fun token _ same => by simp [WorkflowCommand.claimToken,none] at same),opened,forward⟩

-- Changing rows in place keeps the store valid when it does so row by row.
theorem rows_changed {s : WorkflowStore κ} {change : Uuid → WorkflowCommand → WorkflowCommand}
    (valid : WorkflowValid s)
    (changed : ∀ id row, s.commands id = some row → CommandValid id row →
      CommandValid id (change id row) ∧ CommandMoves s.claimTokens row (change id row)) :
    WorkflowValid (s.putCommands (s.commands.updateAll change)) ∧
      WorkflowMoves s (s.putCommands (s.commands.updateAll change)) := by
  refine ⟨⟨⟨valid.agent.keyed,valid.agent.fenced,valid.agent.evidenced⟩,?_⟩,⟨fun _ known => known,?_⟩⟩
  · intro id row' found
    obtain ⟨row,stored,rfl⟩ := Table.updateAll_some (show (s.commands.updateAll change) id = _ from found)
    exact (changed id row stored (valid.rows id row stored)).1
  · exact .updateAll fun id row stored => (changed id row stored (valid.rows id row stored)).2

theorem park_moves {s : WorkflowStore κ} (valid : WorkflowValid s) :
    WorkflowValid (parkExpiredWorkflowClaims now s) ∧ WorkflowMoves s (parkExpiredWorkflowClaims now s) := by
  refine rows_changed valid fun id row _ rowValid => ?_
  split
  · rename_i parks
    simp only [parkable,decide_eq_true_eq] at parks
    exact ⟨parked_valid rowValid,
      unclaimed_moves rfl (by rw [parks.1]; rfl) (fun _ planned => by cases planned)⟩
  · exact ⟨rowValid,.refl _ _⟩

theorem record_moves {s : WorkflowStore κ} (valid : WorkflowValid s) (held : Held s mode command)
    (fits : Fits command decision) (carried : command.claimToken = some token) :
    WorkflowValid (recordWorkflowCommandDispatch command token decision now s) ∧
      WorkflowMoves s (recordWorkflowCommandDispatch command token decision now s) := by
  refine rows_changed valid fun id row found rowValid => ?_
  split
  · rename_i hit
    -- the row the completion matches is the one the worker read
    have same : row = command := by
      obtain ⟨stored,held,current⟩ := held.current
      rw [hit.1,held] at found
      cases found
      exact current (hit.2.2.trans carried.symm)
    subst same
    refine ⟨recorded_valid rowValid fits,unclaimed_moves rfl held.open fun unknown planned => ?_⟩
    rw [(fits.planned planned).1] at unknown
    cases unknown
  · exact ⟨rowValid,.refl _ _⟩

theorem claimWorkflowCommands_some {s next : WorkflowStore κ}
    (claimed : claimWorkflowCommands mode limit now token ids s = some (next,commands)) :
    token ∉ s.claimTokens ∧ (∀ id ∈ ids, ∃ row, s.commands id = some row ∧ claimable mode now row = true) ∧
      next = (claimRows ⟨mode.owner,token,now + claimLease,mode⟩ now ids s).issue token ∧
      commands = ids.filterMap next.commands := by
  unfold claimWorkflowCommands at claimed
  split at claimed
  · rename_i fresh
    cases Option.some.inj claimed
    obtain ⟨fresh,selected⟩ := fresh
    simp only [selectable,decide_eq_true_eq] at selected
    exact ⟨fresh,fun id member => (Option.any_eq_true _ _).mp (selected.2.2.1 id member),rfl,rfl⟩
  · cases claimed

theorem claimRows_some {s : WorkflowStore κ}
    (found : ((claimRows claim now ids s).issue token).commands id = some command) :
    ∃ row, s.commands id = some row ∧ command = if id ∈ ids then claimedCommand claim now row else row := by
  obtain ⟨row,stored,same⟩ := Option.map_eq_some_iff.mp found
  exact ⟨row,stored,same.symm⟩

theorem claim_moves {s next : WorkflowStore κ} (valid : WorkflowValid s)
    (claimed : claimWorkflowCommands mode limit now token ids s = some (next,commands)) :
    WorkflowValid next ∧ WorkflowMoves s next ∧ ∀ command ∈ commands, Held next mode command := by
  obtain ⟨fresh,selected,rfl,rfl⟩ := claimWorkflowCommands_some claimed
  have changed : WorkflowValid (claimRows ⟨mode.owner,token,now + claimLease,mode⟩ now ids s) ∧
      WorkflowMoves s (claimRows ⟨mode.owner,token,now + claimLease,mode⟩ now ids s) := by
    refine rows_changed valid fun id row found rowValid => ?_
    split
    · rename_i member
      obtain ⟨row',stored,free⟩ := selected id member
      cases found.symm.trans stored
      have opened := (claimable_spec free).1
      refine ⟨claimed_valid rowValid free,.inr ⟨?_,opened,fun unknown => ?_⟩⟩
      · intro known member same
        cases Option.some.inj same
        exact fresh member
      · exact fun planned => by cases unknown.symm.trans planned
    · exact ⟨rowValid,.refl _ _⟩
  refine ⟨⟨changed.1.agent,changed.1.rows⟩,⟨fun _ known => List.mem_cons_of_mem _ known,changed.2.rows⟩,?_⟩
  intro command member
  obtain ⟨id,chosen,found⟩ := List.mem_filterMap.mp member
  obtain ⟨row,stored,rfl⟩ := claimRows_some found
  obtain ⟨row',stored',free⟩ := selected id chosen
  cases stored.symm.trans stored'
  rw [if_pos chosen] at found ⊢
  obtain ⟨opened,planned,bounded⟩ := claimable_spec free
  have keyed : (claimedCommand ⟨mode.owner,token,now + claimLease,mode⟩ now row).id = id :=
    (valid.rows id row stored).keyed
  exact ⟨⟨token,List.mem_cons_self,rfl⟩,⟨_,keyed ▸ found,fun _ => rfl⟩,opened,planned,bounded _ _ _⟩

-- Agent transactions only ever add commands, planned and unclaimed.
theorem commit_commands {s next : AgentStore κ} (valid : StoreValid s)
    (step : commit crypto s transaction = some next) :
    next.commands = s.commands ∨ ∃ id kind key attemptId generation now, s.commands id = none ∧
      next.commands = s.commands.put id (plannedCommand id kind key attemptId generation now) := by
  cases transaction with
  | startRun env command =>
    obtain ⟨result,ran⟩ := committed_some.mp step
    rcases executeAgentCommand_ok ran with rfl | ⟨claimed,after,performed,completed,inner,rfl⟩
    · exact .inl rfl
    · obtain ⟨_,_,_,_,_,fresh,_,_,rfl⟩ := startOperation_ok valid.putIdempotency.evidenced inner
      exact .inr ⟨_,_,_,_,_,_,fresh,rfl⟩
  | cancelAttempt env command =>
    obtain ⟨result,ran⟩ := committed_some.mp step
    obtain ⟨⟨run,attempt⟩,locked,ran⟩ := bind_ok.mp ran
    have found := lockedAttempt_ok locked
    rcases executeAgentCommand_ok ran with rfl | ⟨claimed,after,performed,completed,inner,rfl⟩
    · exact .inl rfl
    · rcases cancelOperation_ok (valid.keyed _ _ found ▸ found) inner with ⟨_,_,fresh,_,rfl⟩ | ⟨_,rfl⟩
      · exact .inr ⟨_,_,_,_,_,_,fresh,rfl⟩
      · exact .inl rfl
  | resumeAttempt env command =>
    obtain ⟨result,ran⟩ := committed_some.mp step
    obtain ⟨⟨run,attempt⟩,locked,ran⟩ := bind_ok.mp ran
    have found := lockedAttempt_ok locked
    rcases executeAgentCommand_ok ran with rfl | ⟨claimed,after,performed,completed,inner,rfl⟩
    · exact .inl rfl
    · obtain ⟨_,fresh,_,rfl⟩ := resumeOperation_ok (valid.keyed _ _ found ▸ found) inner
      exact .inr ⟨_,_,_,_,_,_,fresh,rfl⟩
  | acceptWorkflowEvent env event =>
    obtain ⟨outcome,ran⟩ := committed_some.mp step
    exact .inl (acceptWorkflowEvent_commands valid ran)

theorem transact_moves {s next : WorkflowStore κ} (valid : WorkflowValid s)
    (step : (workflowProgram crypto).transact s transaction = some next) :
    WorkflowValid next ∧ WorkflowMoves s next := by
  obtain ⟨agent,commit,rfl⟩ := Option.map_eq_some_iff.mp step
  have agentValid := commit_valid _ _ _ valid.agent commit
  have rows : Table.Every CommandValid agent.commands ∧
      Table.Advances (CommandMoves s.claimTokens) s.commands agent.commands := by
    rcases commit_commands valid.agent commit with same | ⟨id,kind,key,attemptId,generation,now,fresh,added⟩
    · rw [same]
      exact ⟨valid.rows,.refl (.refl _) _⟩
    · rw [added]
      refine ⟨valid.rows.put (planned_valid id),.put (.refl _) fun old found => ?_⟩
      cases fresh.symm.trans found
  exact ⟨⟨agentValid,rows.1⟩,⟨fun _ known => known,rows.2⟩⟩

theorem worker_moves {s next : WorkflowStore κ} (valid : WorkflowValid s) (holds : WorkerHolds s memory)
    (step : workerStep s memory event = some (next,memory')) :
    WorkflowValid next ∧ WorkflowMoves s next ∧ WorkerHolds next memory' := by
  unfold workerStep at step
  split at step
  · split at step
    · cases step
      exact ⟨(park_moves valid).1,(park_moves valid).2,trivial⟩
    · cases step
  · obtain ⟨⟨claimed,commands⟩,claims,same⟩ := Option.map_eq_some_iff.mp step
    cases same
    obtain ⟨validNext,moved,held⟩ := claim_moves valid claims
    exact ⟨validNext,moved,.next held⟩
  · cases step
    exact ⟨valid,.refl _,holds.1,dispatchDecision_fits (holds.1.dispatch rfl) _,holds.2⟩
  · cases step
    exact ⟨valid,.refl _,holds.1,lookupDecision_fits _ _,holds.2⟩
  · obtain ⟨token,carried,same⟩ := Option.map_eq_some_iff.mp step
    cases same
    obtain ⟨held,fits,rest⟩ := holds
    obtain ⟨validNext,moved⟩ := record_moves valid held fits carried
    exact ⟨validNext,moved,.next fun other member => (rest other member).stable moved⟩
  · cases step

def workflowContract (crypto : AgentCryptography κ) : Contract (workflowProgram crypto) where
  valid := WorkflowValid
  holds := WorkerHolds
  apart _ _ := True
  rely := WorkflowMoves
  symmetric _ _ _ := trivial
  idle _ _ := trivial
  idle_apart _ := trivial
  transacted _ _ _ valid step :=
    have moved := transact_moves valid step
    ⟨moved.1,moved.2,fun _ holds => holds.stable moved.2⟩
  acted _ _ _ _ _ valid holds step :=
    have moved := worker_moves valid holds step
    ⟨moved.1,moved.2.1,moved.2.2,fun _ other _ => ⟨other.stable moved.2.1,trivial⟩⟩

theorem workflow_initial_valid (definitions : Table (Uuid × Nat) AgentDefinition) :
    (workflowContract crypto).Valid (workflowInitial definitions) :=
  (workflowContract crypto).initial_valid ⟨initial_valid definitions,Table.every_empty _⟩

theorem workflow_moves {s next : WorkflowSystem κ}
    (path : Runs (Enabled (workflowProgram crypto).advance) s labels next)
    (valid : (workflowContract crypto).Valid s) : WorkflowMoves s.store next.store :=
  (workflowContract crypto).runs_rely .refl (fun _ _ _ => .trans) path valid

theorem CommandMoves.unknown_left (moved : CommandMoves tokens old new) (unknown : old.state = .unknown) :
    new.state ≠ .planned := by
  rcases moved with rfl | ⟨_,_,forward⟩
  · exact fun planned => by cases unknown.symm.trans planned
  · exact forward unknown

theorem CommandMoves.settled (moved : CommandMoves tokens old new) (settled : old.state.open = false) :
    new = old := by
  rcases moved with same | ⟨_,opened,_⟩
  · exact same
  · cases opened.symm.trans settled

-- A completion whose token the row no longer carries matches no row.
theorem record_without_claim {s : WorkflowStore κ}
    (lost : ∀ row, s.commands command.id = some row → row.claimToken ≠ some token) :
    recordWorkflowCommandDispatch command token decision now s = s := by
  have same : (s.commands.updateAll fun id row =>
      if id = command.id ∧ row.state = command.state ∧ row.claimToken = some token then
        recordedCommand decision now row
      else row) = s.commands := by
    funext id
    cases found : s.commands id with
    | none => simp [found]
    | some row =>
      by_cases here : id = command.id
      · simp [found,lost row (here ▸ found)]
      · simp [found,here]
  unfold recordWorkflowCommandDispatch
  rw [same]
  rfl

def NeverStuck (row : WorkflowCommand) : Prop :=
  (∀ now, ∃ mode, claimable mode now row = true) ∨
  (∃ claim, row.claim = some claim ∧ ∀ now, claim.leaseUntil ≤ now → claimable .reconcile now row = true) ∨
  row.lastErrorCode = some .claimAttemptsExhausted

theorem CommandValid.never_stuck (valid : CommandValid id row) (opened : row.state.open = true) :
    NeverStuck row := by
  have states : row.state = .planned ∨ row.state = .unknown := by
    cases state : row.state <;> simp_all [WorkflowCommandState.open]
  cases held : row.claim with
  | some claim =>
    refine .inr (.inl ⟨claim,held,fun now expired => ?_⟩)
    simpa [claimable,held] using ⟨states,expired,valid.bounded⟩
  | none =>
    rcases states with planned | unknown
    · exact .inl fun now => ⟨.dispatch,by simpa [claimable,held,planned,maxClaims] using valid.planned planned held⟩
    · by_cases exhausted : maxClaims ≤ row.dispatchAttempts
      · exact .inr (.inr (valid.unknown unknown held exhausted))
      · exact .inl fun now => ⟨.reconcile,by simpa [claimable,held,unknown,maxClaims] using exhausted⟩

-- Sending is safe exactly while the row is still PLANNED when the call is made.
def sendsPlanned (s : WorkflowSystem κ) (label : WorkflowLabel) : Bool :=
  match sent s label with
  | some command => (s.store.commands command.id).any fun row => row.state = .planned
  | none => true

abbrev WorkflowStep (crypto : AgentCryptography κ) :=
  Guarded (fun s label => sendsPlanned s label = true) (Enabled (workflowProgram crypto).advance)

theorem workflow_dispatch_safe {s t : WorkflowSystem κ}
    (reached : Runs (WorkflowStep crypto) (workflowInitial definitions) labels s)
    (continued : Runs (WorkflowStep crypto) s rest t) :
    (∀ id row, s.store.commands id = some row → row.state = .unknown →
      ∀ label next command, WorkflowStep crypto t label next → sent t label = some command →
        command.id ≠ id) ∧
    (∀ id row, t.store.commands id = some row → row.dispatchAttempts ≤ maxClaims) ∧
    (∀ worker now next mode command decision rest, t.workers worker = .answered mode command decision rest →
      (∀ row, t.store.commands command.id = some row → row.claimToken ≠ command.claimToken) →
      WorkflowStep crypto t (.act worker (.persist now)) next → next.store = t.store) ∧
    (∀ id row, s.store.commands id = some row → row.state = .dispatched ∨ row.state = .failed →
      t.store.commands id = some row) ∧
    (∀ id row, t.store.commands id = some row → row.state ≠ .dispatched → row.state ≠ .failed →
      NeverStuck row) := by
  have valid := (workflowContract crypto).runs_valid reached.unguarded (workflow_initial_valid definitions)
  have valid' := (workflowContract crypto).runs_valid continued.unguarded valid
  have moves := workflow_moves continued.unguarded valid
  refine ⟨?_,?_,?_,?_,?_⟩
  · rintro id row found unknown label next command ⟨planned,_⟩ sends rfl
    obtain ⟨row',stored,moved⟩ := moves.rows _ row found
    simp only [sendsPlanned,sends,stored,Option.any_some,decide_eq_true_eq] at planned
    exact moved.unknown_left unknown planned
  · exact fun id row found => (valid'.store.rows id row found).bounded
  · rintro worker now next mode command decision rest memory lost ⟨_,step⟩
    obtain ⟨⟨store,after⟩,acted,rfl⟩ := Option.map_eq_some_iff.mp step
    rw [memory] at acted
    obtain ⟨token,carried,same⟩ := Option.map_eq_some_iff.mp acted
    cases same
    exact record_without_claim fun row found => carried ▸ lost row found
  · intro id row found settled
    obtain ⟨row',stored,moved⟩ := moves.rows id row found
    have closed : row.state.open = false := by
      rcases settled with state | state <;> rw [state] <;> rfl
    rw [stored,moved.settled closed]
  · intro id row found notDispatched notFailed
    refine (valid'.store.rows id row found).never_stuck ?_
    cases state : row.state <;> simp_all [WorkflowCommandState.open]

def sampleProgram : Program (WorkflowStore (SealedIdempotentEnvelope CommandResult)) Worker Transaction
    WorkerEvent :=
  workflowProgram sampleCryptography

def sampleStart : WorkflowLabel :=
  .transact (.startRun ⟨"actor",1,900,some ⟨1,2,3,4,"goal"⟩,true,some ⟨20,.devFake,"digest"⟩,5,10,30,40,50⟩
    ⟨1,2,3,800,1,"goal","start-key","correlation"⟩)

-- Worker 2 sends the command and loses the answer; worker 1 looks it up.
def sampleUnknown : List WorkflowLabel :=
  [sampleStart,.act 2 (.park .dispatch 1 10),.act 2 (.claim 10 100 [40]),
    .act 2 (.dispatch .acknowledgementUnknown),.act 2 (.persist 11)]

def sampleLookup : List WorkflowLabel :=
  [.act 1 (.park .reconcile 1 12),.act 1 (.claim 12 101 [40]),
    .act 1 (.lookup (.confirmed ⟨"start:10:generation-1","ACCEPTED"⟩)),.act 1 (.persist 13)]

-- Worker 0 claims first and stalls past its lease before it sends.
def sampleStalled : List WorkflowLabel :=
  [sampleStart,.act 0 (.park .dispatch 1 10),.act 0 (.claim 10 100 [40]),
    .act 1 (.park .reconcile 1 50),.act 1 (.claim 50 101 [40]),.act 1 (.lookup .neverObserved),
    .act 1 (.persist 51),.act 2 (.park .dispatch 1 52),.act 2 (.claim 52 102 [40]),
    .act 2 (.dispatch .acknowledgementUnknown),.act 2 (.persist 53)]

def sampleResend : WorkflowLabel := .act 0 (.dispatch .acknowledgementUnknown)

def sampleUnknownSystem : WorkflowSystem (SealedIdempotentEnvelope CommandResult) :=
  (execute (restrict sendsPlanned sampleProgram.advance) (workflowInitial sampleDefinitions) sampleUnknown).get
    (by decide)

theorem workflow_dispatch_safe_settled :
    ∃ t : WorkflowSystem (SealedIdempotentEnvelope CommandResult),
      (∃ row, t.store.commands 40 = some row ∧ row.state = .dispatched ∧ row.dispatchAttempts ≤ maxClaims) ∧
      ∀ label next command, WorkflowStep sampleCryptography t label next → sent t label = some command →
        command.id ≠ 40 := by
  have reached : Runs (Enabled (restrict sendsPlanned sampleProgram.advance))
      (workflowInitial sampleDefinitions) sampleUnknown sampleUnknownSystem := execute_get (by decide)
  have continued : (execute (restrict sendsPlanned sampleProgram.advance) sampleUnknownSystem
      sampleLookup).isSome := by decide
  have safe := workflow_dispatch_safe (restrict_runs reached) (restrict_runs (execute_get continued))
  exact ⟨_,⟨_,rfl,rfl,safe.2.1 40 _ rfl⟩,safe.1 40 _ rfl rfl⟩

-- Without that condition the claim on UNKNOWN commands fails: the stalled worker
-- still sends what another worker has sent since.
theorem workflow_dispatch_resent :
    ¬ ∀ (labels : List WorkflowLabel) (s : WorkflowSystem (SealedIdempotentEnvelope CommandResult)),
      Runs (Enabled sampleProgram.advance) (workflowInitial sampleDefinitions) labels s →
      ∀ id row, s.store.commands id = some row → row.state = .unknown →
      ∀ label next command, Enabled sampleProgram.advance s label next → sent s label = some command →
        command.id ≠ id := by
  intro claim
  have reached : (execute sampleProgram.advance (workflowInitial sampleDefinitions) sampleStalled).isSome := by
    decide
  exact claim sampleStalled _ (execute_get reached) 40 _ rfl rfl sampleResend _ _ rfl rfl rfl

end EngineeringPlatform.Agent
