import EngineeringPlatform.ModelExecution
namespace EngineeringPlatform.ModelGateway
open Checked KeyedRows
variable {ι σ ρ ω μ κ : Type}
variable (k : ExecutionKind ι σ ρ ω μ κ)

-- One change of a row: the request stays as it was asked, and the revision
-- counts the changes.
structure Turned (old new : Execution ι σ ρ ω μ) : Prop where
  identity : new.id = old.id
  deployment : new.deploymentId = old.deploymentId
  requested : new.requestedBy = old.requestedBy ∧ new.requestedAt = old.requestedAt
  input : new.input = old.input
  revision : new.revision = old.revision + 1
  route : (old.state = k.queued ∧ (new.state = k.running ∨ new.state = k.blocked)) ∨
    (old.state = k.running ∧ new.state ∈ k.finals ∧ new.executionToken = old.executionToken ∧
      new.deadlineAt = old.deadlineAt)

variable {k}

theorem Turned.claims {old new : Execution ι σ ρ ω μ} (turned : Turned k old new) (running : new.state = k.running) :
    old.state = k.queued := by
  rcases turned.route with ⟨queued,_⟩ | ⟨_,final,_⟩
  · exact queued
  · exact absurd (running ▸ final) k.running_final

theorem Turned.started {old new : Execution ι σ ρ ω μ} (turned : Turned k old new) : new.state ≠ k.queued := by
  intro back
  rcases turned.route with ⟨_,running | blocked⟩ | ⟨_,final,_⟩
  · exact k.queued_running (back.symm.trans running)
  · exact k.blocked_queued (blocked.symm.trans back)
  · exact k.queued_final (back ▸ final)

-- All that one step does to a table. `mine` are the executions its worker holds,
-- `busy` the connections in use before it.
inductive Move (k : ExecutionKind ι σ ρ ω μ κ) (clock : Time) (busy : String → Bool) (mine : Uuid → Prop)
    (rows : List (Execution ι σ ρ ω μ)) : List (Execution ι σ ρ ω μ) → Prop where
  | same : Move k clock busy mine rows rows
  | inserted (row) : find (·.id) rows row.id = none → row.revision = 1 →
      (row.state = k.queued ∨ row.state = k.blocked) → Move k clock busy mine rows (rows ++ [row])
  | claimed (old new) : find (·.id) rows new.id = some old → Turned k old new → new.state = k.running →
      (∀ reference, k.connectionRef new.input = some reference → busy reference = false) →
      Move k clock busy mine rows (update (·.id) rows new.id fun _ => new)
  | blocked (old new) : find (·.id) rows new.id = some old → Turned k old new → old.state = k.queued →
      new.state = k.blocked → Move k clock busy mine rows (update (·.id) rows new.id fun _ => new)
  | ended (old new) : find (·.id) rows new.id = some old → Turned k old new → old.state = k.running →
      (mine new.id ∨ ∃ lease, old.deadlineAt = some lease ∧ lease ≤ clock) →
      Move k clock busy mine rows (update (·.id) rows new.id fun _ => new)

section
variable {clock : Time} {busy : String → Bool} {mine : Uuid → Prop} {rows after : List (Execution ι σ ρ ω μ)}

-- A move is nothing, one new row, or one row turned: a queued one by whoever
-- comes, a running one by its own worker or past its lease.
theorem Move.cases_on (move : Move k clock busy mine rows after) :
    after = rows ∨
    (∃ row, find (·.id) rows row.id = none ∧ after = rows ++ [row]) ∨
    (∃ old new, find (·.id) rows new.id = some old ∧ Turned k old new ∧
      (old.state = k.queued ∨ mine new.id ∨ ∃ lease, old.deadlineAt = some lease ∧ lease ≤ clock) ∧
      after = update (·.id) rows new.id fun _ => new) := by
  cases move with
  | same => exact .inl rfl
  | inserted row fresh => exact .inr (.inl ⟨row,fresh,rfl⟩)
  | claimed old new found turned running =>
    exact .inr (.inr ⟨old,new,found,turned,.inl (turned.claims running),rfl⟩)
  | blocked old new found turned queued => exact .inr (.inr ⟨old,new,found,turned,.inl queued,rfl⟩)
  | ended old new found turned _ allowed => exact .inr (.inr ⟨old,new,found,turned,.inr allowed,rfl⟩)

theorem Move.unique (move : Move k clock busy mine rows after) (unique : Unique (·.id) rows) :
    Unique (·.id) after := by
  rcases move.cases_on with rfl | ⟨row,fresh,rfl⟩ | ⟨old,new,_,_,_,rfl⟩
  · exact unique
  · exact unique_insert unique fresh
  · exact unique_replace rfl unique

theorem find_turned {new : Execution ι σ ρ ω μ} (found : find (·.id) rows new.id = some old) (id' : Uuid) :
    find (·.id) (update (·.id) rows new.id fun _ => new) id' =
      if id' = new.id then some new else find (·.id) rows id' := by
  rw [find_replace rfl]
  split
  · rename_i same
    rw [same,found]
    rfl
  · rfl

theorem Move.row {row : Execution ι σ ρ ω μ} (move : Move k clock busy mine rows after)
    (found : find (·.id) rows id' = some row) :
    ∃ row', find (·.id) after id' = some row' ∧
      (row' = row ∨ Turned k row row' ∧
        (row.state = k.queued ∨ mine id' ∨ ∃ lease, row.deadlineAt = some lease ∧ lease ≤ clock)) := by
  rcases move.cases_on with rfl | ⟨fresh,absent,rfl⟩ | ⟨old,new,stored,turned,allowed,rfl⟩
  · exact ⟨row,found,.inl rfl⟩
  · refine ⟨row,?_,.inl rfl⟩
    rw [find_insert _ absent]
    split
    · rename_i same
      rw [same,absent] at found
      cases found
    · exact found
  · rw [find_turned stored]
    split
    · rename_i same
      rw [same] at found ⊢
      have here : old = row := Option.some.inj (stored.symm.trans found)
      exact ⟨new,rfl,.inr ⟨here ▸ turned,here ▸ allowed⟩⟩
    · exact ⟨row,found,.inl rfl⟩

theorem Move.admitted {row : Execution ι σ ρ ω μ} (move : Move k clock busy mine rows after)
    (absent : find (·.id) rows id' = none) (found : find (·.id) after id' = some row) :
    row.revision = 1 ∧ (row.state = k.queued ∨ row.state = k.blocked) := by
  cases move with
  | same => cases absent.symm.trans found
  | inserted value fresh first state =>
    rw [find_insert _ fresh] at found
    split at found
    · cases found
      exact ⟨first,state⟩
    · cases absent.symm.trans found
  | claimed old new stored | blocked old new stored | ended old new stored =>
    rw [find_turned stored] at found
    split at found
    · rename_i same
      rw [←same] at stored
      cases absent.symm.trans stored
    · cases absent.symm.trans found

-- At most one row comes to occupy a connection, and none did before.
theorem Move.occupies (move : Move k clock busy mine rows after) :
    ∃ taker, ∀ id' row, find (·.id) after id' = some row → row.state = k.running →
      find (·.id) rows id' = some row ∨
        (id' = taker ∧ ∀ reference, k.connectionRef row.input = some reference → busy reference = false) := by
  cases move with
  | same => exact ⟨0,fun _ _ found _ => .inl found⟩
  | inserted value fresh first state =>
    refine ⟨0,fun id' row found running => ?_⟩
    rw [find_insert _ fresh] at found
    split at found
    · cases found
      rcases state with queued | blocked
      · exact absurd (queued.symm.trans running) k.queued_running
      · exact absurd (blocked.symm.trans running) k.blocked_running
    · exact .inl found
  | claimed old new stored turned _ free =>
    refine ⟨new.id,fun id' row found running => ?_⟩
    rw [find_turned stored] at found
    split at found
    · rename_i same
      cases found
      exact .inr ⟨same,free⟩
    · exact .inl found
  | blocked old new stored turned _ state =>
    refine ⟨0,fun id' row found running => ?_⟩
    rw [find_turned stored] at found
    split at found
    · cases found
      exact absurd (state.symm.trans running) k.blocked_running
    · exact .inl found
  | ended old new stored turned before =>
    refine ⟨0,fun id' row found running => ?_⟩
    rw [find_turned stored] at found
    split at found
    · cases found
      exact absurd (before.symm.trans (turned.claims running)).symm k.queued_running
    · exact .inl found

-- The execution a worker has set running and not yet let go of.
def ExecutionWorker.running : ExecutionWorker ι σ ρ ω μ κ → Option (Execution ι σ ρ ω μ)
  | .dispatching running _ _ _ | .looking running _ _ _ _ | .measuring running _ _ _ _ _ | .cleared running _ _
  | .sent running _ | .concluding running _ _ | .finishing running _ _ => some running
  | .idle | .admitted _ _ | .prepared _ _ => none

-- The same, while its request may still go out.
def ExecutionWorker.unsent : ExecutionWorker ι σ ρ ω μ κ → Option (Execution ι σ ρ ω μ)
  | .dispatching running _ _ _ | .looking running _ _ _ _ | .measuring running _ _ _ _ _ | .cleared running _ _ =>
    some running
  | .idle | .admitted _ _ | .prepared _ _ | .sent _ _ | .concluding _ _ _ | .finishing _ _ _ => none

def ExecutionWorker.checkedAt : ExecutionWorker ι σ ρ ω μ κ → Option Time
  | .looking _ _ _ _ checkedAt | .measuring _ _ _ _ checkedAt _ => some checkedAt
  | _ => none

def ExecutionWorker.holding (memory : ExecutionWorker ι σ ρ ω μ κ) (target : Uuid) : Prop :=
  ∃ running, memory.running = some running ∧ running.id = target

-- The row a worker has set running: nobody has touched it, or its lease is over.
structure Owned (k : ExecutionKind ι σ ρ ω μ κ) (clock : Time) (rows : List (Execution ι σ ρ ω μ))
    (running : Execution ι σ ρ ω μ) (lease : Time) : Prop where
  state : running.state = k.running
  deadline : running.deadlineAt = some lease
  row : ∃ row, find (·.id) rows running.id = some row ∧ row.state ≠ k.queued ∧ (row = running ∨ lease ≤ clock)

theorem Owned.later {running : Execution ι σ ρ ω μ} (owned : Owned k clock rows running lease) (passes : clock ≤ clock') :
    Owned k clock' rows running lease := by
  obtain ⟨row,found,started,held⟩ := owned.row
  exact ⟨owned.state,owned.deadline,row,found,started,held.imp_right fun due => Nat.le_trans due passes⟩

theorem Owned.move {running : Execution ι σ ρ ω μ} (owned : Owned k clock rows running lease)
    (move : Move k clock busy mine rows after) (other : ¬mine running.id) : Owned k clock after running lease := by
  obtain ⟨row,found,started,held⟩ := owned.row
  obtain ⟨row',found',same | ⟨turned,allowed⟩⟩ := move.row found
  · exact ⟨owned.state,owned.deadline,row',found',same ▸ started,same ▸ held⟩
  · refine ⟨owned.state,owned.deadline,row',found',turned.started,.inr ?_⟩
    rcases held with rfl | due
    · rcases allowed with queued | held | ⟨lease',deadline,due⟩
      · exact absurd queued started
      · exact absurd held other
      · cases owned.deadline.symm.trans deadline
        exact due
    · exact due

-- What a worker knows of the table and of the requests sent so far.
structure Holds (k : ExecutionKind ι σ ρ ω μ κ) (clock : Time) (rows : List (Execution ι σ ρ ω μ))
    (sent : Uuid → Prop) (memory : ExecutionWorker ι σ ρ ω μ κ) : Prop where
  owned : ∀ running, memory.running = some running → ∃ lease, Owned k clock rows running lease
  unsent : ∀ running, memory.unsent = some running → ¬sent running.id
  anchored : ∀ checkedAt, memory.checkedAt = some checkedAt → checkedAt ≤ clock
  cleared : ∀ running material deadline, memory = .cleared running material deadline →
    ∀ lease, running.deadlineAt = some lease → deadline ≤ lease

variable {sent sent' : Uuid → Prop} {memory : ExecutionWorker ι σ ρ ω μ κ}

theorem Holds.free (empty : memory.running = none) (waiting : memory.unsent = none)
    (floating : memory.checkedAt = none) : Holds k clock rows sent memory := by
  refine ⟨?_,?_,?_,?_⟩
  · intro running here
    cases empty.symm.trans here
  · intro running here
    cases waiting.symm.trans here
  · intro checkedAt here
    cases floating.symm.trans here
  · rintro running material deadline rfl
    cases empty

theorem Holds.later (holds : Holds k clock rows sent memory) (passes : clock ≤ clock') :
    Holds k clock' rows sent memory := by
  refine ⟨?_,holds.unsent,?_,holds.cleared⟩
  · intro running here
    obtain ⟨lease,owned⟩ := holds.owned running here
    exact ⟨lease,owned.later passes⟩
  · intro checkedAt here
    exact Nat.le_trans (holds.anchored checkedAt here) passes

-- A worker is not disturbed by a move of another one, nor by another's request.
theorem Holds.move (holds : Holds k clock rows sent memory) (move : Move k clock busy mine rows after)
    (others : ∀ target, memory.holding target → ¬mine target)
    (requests : ∀ running, memory.unsent = some running → sent' running.id → sent running.id) :
    Holds k clock after sent' memory := by
  refine ⟨?_,?_,holds.anchored,holds.cleared⟩
  · intro running here
    obtain ⟨lease,owned⟩ := holds.owned running here
    exact ⟨lease,owned.move move (others running.id ⟨running,here,rfl⟩)⟩
  · intro running here out
    exact holds.unsent running here (requests running here out)

-- A step in the worker's own memory: it takes on no execution and forgets none
-- that it could still send, and what the guard measured fits the lease.
structure Quiet (clock : Time) (memory memory' : ExecutionWorker ι σ ρ ω μ κ) : Prop where
  running : ∀ running, memory'.running = some running → memory.running = some running
  unsent : ∀ running, memory'.unsent = some running → memory.unsent = some running
  anchored : ∀ checkedAt, memory'.checkedAt = some checkedAt → checkedAt = clock ∨ memory.checkedAt = some checkedAt
  cleared : ∀ running material deadline, memory' = .cleared running material deadline →
    ∃ checkedAt lease, memory.checkedAt = some checkedAt ∧ running.deadlineAt = some lease ∧ clock < lease ∧
      deadline ≤ checkedAt + (lease - clock)

variable {memory' : ExecutionWorker ι σ ρ ω μ κ}

-- A worker with nothing left to send has no guard open.
theorem Quiet.settled (kept : ∀ running, memory'.running = some running → memory.running = some running)
    (sent : memory'.unsent = none) : Quiet clock memory memory' := by
  refine ⟨kept,?_,?_,?_⟩
  · intro running here
    cases sent.symm.trans here
  · intro checkedAt here
    cases memory' <;> simp [ExecutionWorker.checkedAt,ExecutionWorker.unsent] at here sent
  · rintro running material deadline rfl
    cases sent

theorem Quiet.empty (empty : memory'.running = none) (sent : memory'.unsent = none) : Quiet clock memory memory' :=
  .settled (fun _ here => by cases empty.symm.trans here) sent

theorem remaining_some {running : Execution ι σ ρ ω μ} (left : remaining running seen clock ≠ 0) :
    ∃ lease, running.deadlineAt = some lease ∧ clock < lease ∧ remaining running seen clock = lease - clock := by
  unfold remaining at left ⊢
  split at left
  · rename_i here
    rw [if_pos here]
    cases deadline : running.deadlineAt with
    | none => simp [deadline] at left
    | some lease =>
      rw [deadline] at left
      have later : clock < lease := by simpa [Nat.sub_eq_zero_iff_le] using left
      exact ⟨lease,rfl,later,rfl⟩
  · exact absurd rfl left

theorem measured_quiet {running : Execution ι σ ρ ω μ} {material : κ} :
    Quiet clock (.measuring running material stage deadline checkedAt seen)
      (measured k clock running material stage deadline checkedAt seen) := by
  unfold measured
  dsimp only
  split
  · exact .settled (fun _ here => here) rfl
  · rename_i left
    cases stage with
    | first | second =>
      exact ⟨fun _ here => here,fun _ here => here,(fun _ here => by cases here),(fun _ _ _ here => by cases here)⟩
    | third =>
      obtain ⟨lease,leased,later,same⟩ := remaining_some left
      refine ⟨fun _ here => here,fun _ here => here,(fun _ here => by cases here),?_⟩
      intro running' material' deadline' here
      cases here
      exact ⟨checkedAt,lease,rfl,leased,later,same ▸ Nat.min_le_right _ _⟩

end

section
variable [DecidableEq ι] [DecidableEq σ]

theorem guarded_turned {old new : Execution ι σ ρ ω μ} (guarded : k.guarded old new = true) : Turned k old new := by
  unfold ExecutionKind.guarded ExecutionKind.active at guarded
  simp only [decide_eq_true_eq] at guarded
  obtain ⟨active,revision,⟨identity,deployment,by',at',input⟩,queued,running⟩ := guarded
  refine ⟨identity,deployment,⟨by',at'⟩,input,revision,?_⟩
  rcases active with here | here
  · exact .inl ⟨here,queued here⟩
  · obtain ⟨final,_,token,_,deadline⟩ := running here
    exact .inr ⟨here,final,token,deadline⟩

-- The states a row never leaves.
def ExecutionKind.terminal (k : ExecutionKind ι σ ρ ω μ κ) (state : σ) : Bool := !k.active state

omit [DecidableEq ι] in
theorem Turned.active {old new : Execution ι σ ρ ω μ} (turned : Turned k old new) : k.terminal old.state = false := by
  unfold ExecutionKind.terminal ExecutionKind.active
  rcases turned.route with ⟨queued,_⟩ | ⟨running,_⟩
  · simp [queued]
  · simp [running]

theorem saveExecution_ok {value : Execution ι σ ρ ω μ} {rows after : List (Execution ι σ ρ ω μ)}
    (ran : saveExecution k deployments value expectedRevision rows = .ok (saved,after)) :
    (saved = false ∧ after = rows) ∨
    (saved = true ∧ after = update (·.id) rows value.id (fun _ => value) ∧
      ∃ old, find (·.id) rows value.id = some old ∧ Turned k old value) := by
  unfold saveExecution at ran
  split at ran
  · cases ran
    exact .inl ⟨rfl,rfl⟩
  · rename_i old found
    split at ran
    · simp only [bind_ok,require_ok,pure_ok,exists_const,Prod.mk.injEq] at ran
      obtain ⟨guarded,_,_,rfl,rfl⟩ := ran
      exact .inr ⟨rfl,rfl,old,found,guarded_turned guarded⟩
    · cases ran
      exact .inl ⟨rfl,rfl⟩

theorem finish_ok {row : Execution ι σ ρ ω μ} {rows after : List (Execution ι σ ρ ω μ)}
    (ran : finish k clock deployments row outcome material rows = .ok after)
    (found : find (·.id) rows row.id = some row) :
    ∃ new, find (·.id) rows new.id = some row ∧ Turned k row new ∧ new.state = outcome.state ∧
      after = update (·.id) rows new.id fun _ => new := by
  unfold finish at ran
  simp only [bind_ok,require_ok,pure_ok,exists_const] at ran
  obtain ⟨⟨saved,middle⟩,written,rfl,rfl⟩ := ran
  rcases saveExecution_ok written with ⟨lost,_⟩ | ⟨_,rfl,old,stored,turned⟩
  · cases lost
  · have here : old = row := Option.some.inj (stored.symm.trans found)
    rw [here] at turned
    exact ⟨{ row with
        state := outcome.state
        reason := outcome.reason
        evidence := outcome.evidence
        revision := row.revision + 1
        finishedAt := some clock
        materialCurrentness := material },found,turned,rfl,rfl⟩

theorem finish_blocks {row : Execution ι σ ρ ω μ} {rows after : List (Execution ι σ ρ ω μ)}
    (ran : finish k clock deployments row ⟨k.blocked,reason,evidence⟩ material rows = .ok after)
    (found : find (·.id) rows row.id = some row) (queued : row.state = k.queued) :
    Move k clock busy mine rows after := by
  obtain ⟨new,stored,turned,state,rfl⟩ := finish_ok ran found
  exact .blocked row new stored turned queued state

theorem finish_ends {row : Execution ι σ ρ ω μ} {rows after : List (Execution ι σ ρ ω μ)}
    (ran : finish k clock deployments row outcome material rows = .ok after)
    (found : find (·.id) rows row.id = some row) (running : row.state = k.running)
    (allowed : mine row.id ∨ ∃ lease, row.deadlineAt = some lease ∧ lease ≤ clock) :
    Move k clock busy mine rows after := by
  obtain ⟨new,stored,turned,_,rfl⟩ := finish_ok ran found
  exact .ended row new stored turned running (turned.identity ▸ allowed)

theorem recoverExecution_moves {rows after : List (Execution ι σ ρ ω μ)}
    (ran : recoverExecution k clock deployments target rows = .ok after) : Move k clock busy mine rows after := by
  unfold recoverExecution at ran
  split at ran
  · cases ran
    exact .same
  · rename_i row found
    have keyed := (find_some found).2
    subst keyed
    split at ran
    · rename_i expired
      obtain ⟨lease,here,due⟩ := (Option.any_eq_true _ _).mp expired.2
      exact finish_ends ran found expired.1 (.inr ⟨lease,here,of_decide_eq_true due⟩)
    · cases ran
      exact .same

theorem finishExecution_moves {running : Execution ι σ ρ ω μ} {rows after : List (Execution ι σ ρ ω μ)}
    (ran : finishExecution k clock deployments running outcome material rows = .ok after) (held : mine running.id) :
    Move k clock busy mine rows after := by
  unfold finishExecution at ran
  split at ran
  · cases ran
    exact .same
  · rename_i row found
    have keyed := (find_some found).2
    rw [←keyed] at held found
    split at ran
    · rename_i fence
      split at ran
      · exact finish_ends ran found fence.1 (.inl held)
      · exact finish_ends ran found fence.1 (.inl held)
    · cases ran
      exact .same

omit [DecidableEq ι] [DecidableEq σ] in
theorem claimable_free {locked : Execution ι σ ρ ω μ}
    (ran : claimable k digests directories deployments busy manager version locked = .ok done)
    (reference : String) (bound : k.connectionRef locked.input = some reference) : busy reference = false := by
  unfold claimable at ran
  simp only [bind_ok,require_ok,exists_const] at ran
  obtain ⟨current,valid,_,_,_,_,_,free⟩ := ran
  rw [k.validated valid] at bound
  exact Option.some.inj bound ▸ free

-- A claim leaves its worker with a row it has just set running, or with nothing.
theorem claimExecution_ok {rows after : List (Execution ι σ ρ ω μ)}
    (ran : claimExecution k digests directories clock deployments busy manager version token target material rows =
      .ok (after,memory)) :
    Move k clock busy mine rows after ∧
    (memory = .idle ∨
      ∃ old value, find (·.id) rows target = some old ∧ old.state = k.queued ∧
        memory = .dispatching (claimed k clock token old) value .first 0 ∧
        find (·.id) after (claimed k clock token old).id = some (claimed k clock token old)) := by
  unfold claimExecution at ran
  split at ran
  · cases ran
    exact ⟨.same,.inl rfl⟩
  · rename_i locked found
    have keyed := (find_some found).2
    split at ran
    · cases ran
      exact ⟨.same,.inl rfl⟩
    · rename_i here
      have queued : locked.state = k.queued := Decidable.not_not.mp here
      split at ran
      · simp only [bind_ok,pure_ok,Prod.mk.injEq] at ran
        obtain ⟨blocked,done,rfl,rfl⟩ := ran
        exact ⟨finish_blocks done (keyed ▸ found) queued,.inl rfl⟩
      · rename_i value ready
        simp only [bind_ok] at ran
        obtain ⟨⟨saved,middle⟩,written,ran⟩ := ran
        simp only [bind_ok,pure_ok] at ready
        obtain ⟨_,_,_,admitted,rfl⟩ := ready
        rcases saveExecution_ok written with ⟨rfl,rfl⟩ | ⟨rfl,rfl,old,stored,turned⟩
        · simp only [Bool.false_eq_true,if_false,bind_ok,pure_ok,Prod.mk.injEq] at ran
          obtain ⟨blocked,done,rfl,rfl⟩ := ran
          exact ⟨finish_blocks done (keyed ▸ found) queued,.inl rfl⟩
        · simp only [if_true,pure_ok,Prod.mk.injEq] at ran
          obtain ⟨rfl,rfl⟩ := ran
          refine ⟨.claimed old _ stored turned rfl (claimable_free admitted),.inr ⟨locked,_,found,queued,rfl,?_⟩⟩
          exact find_replaced stored turned.identity

section
variable {rows after : List (Execution ι σ ρ ω μ)} {memory memory' : ExecutionWorker ι σ ρ ω μ κ}
  {sentRow : Option (Execution ι σ ρ ω μ)}

theorem executionStep_cases
    (taken : executionStep k digests clock deployments busy rows memory event = some (after,sentRow,memory')) :
    (after = rows ∧ sentRow = none ∧ Quiet clock memory memory') ∨
    (∃ running material deadline, memory = .cleared running material deadline ∧ clock < deadline ∧ after = rows ∧
      sentRow = some running ∧ memory' = .sent running material) ∨
    (∃ row material directories manager version token, memory = .prepared row material ∧ sentRow = none ∧
      claimExecution k digests directories clock deployments busy manager version token row.id material rows =
        .ok (after,memory')) ∨
    (∃ running outcome currentness, memory = .finishing running outcome currentness ∧ sentRow = none ∧
      memory' = .idle ∧ finishExecution k clock deployments running outcome currentness rows = .ok after) := by
  unfold executionStep at taken
  split at taken
  -- the reads and answers before the claim
  · cases taken
    refine .inl ⟨rfl,rfl,?_⟩
    unfold readExecution
    split
    · exact .empty rfl rfl
    · split <;> exact .empty rfl rfl
  · obtain ⟨manager,_,same⟩ := Option.map_eq_some_iff.mp taken
    cases same
    exact .inl ⟨rfl,rfl,.empty rfl rfl⟩
  · obtain ⟨manager,_,taken⟩ := Option.bind_eq_some_iff.mp taken
    obtain ⟨⟨next,held⟩,ran,same⟩ := Option.map_eq_some_iff.mp taken
    cases same
    exact .inr (.inr (.inl ⟨_,_,_,_,_,_,rfl,rfl,toOption_some.mp ran⟩))
  -- the guard
  · cases taken
    exact .inl ⟨rfl,rfl,fun _ here => here,fun _ here => here,fun _ here => .inl (Option.some.inj here).symm,
      (fun _ _ _ here => by cases here)⟩
  · cases taken
    exact .inl ⟨rfl,rfl,fun _ here => here,fun _ here => here,fun _ here => .inr here,
      (fun _ _ _ here => by cases here)⟩
  · cases taken
    exact .inl ⟨rfl,rfl,measured_quiet⟩
  · split at taken
    · cases taken
      exact .inl ⟨rfl,rfl,.settled (fun _ here => here) rfl⟩
    · rename_i early
      cases taken
      exact .inr (.inl ⟨_,_,_,rfl,Nat.lt_of_not_le early,rfl,rfl,rfl⟩)
  all_goals try
    cases taken
    exact .inl ⟨rfl,rfl,.settled (fun _ here => here) rfl⟩
  -- the last transaction
  · obtain ⟨next,ran,same⟩ := Option.map_eq_some_iff.mp taken
    cases same
    exact .inr (.inr (.inr ⟨_,_,_,rfl,rfl,rfl,toOption_some.mp ran⟩))
  · cases taken

theorem executionStep_moves
    (taken : executionStep k digests clock deployments busy rows memory event = some (after,sentRow,memory')) :
    Move k clock busy memory.holding rows after := by
  rcases executionStep_cases taken with ⟨rfl,_⟩ | ⟨_,_,_,_,_,rfl,_⟩ | ⟨row,_,_,_,_,_,_,_,ran⟩ | ⟨_,_,_,rfl,_,_,ran⟩
  · exact .same
  · exact .same
  · exact (claimExecution_ok ran).1
  · exact finishExecution_moves ran ⟨_,rfl,rfl⟩

-- An execution newly held was queued just before.
theorem executionStep_holding
    (taken : executionStep k digests clock deployments busy rows memory event = some (after,sentRow,memory'))
    (held : memory'.holding target) :
    memory.holding target ∨ ∃ old, find (·.id) rows target = some old ∧ old.state = k.queued := by
  obtain ⟨running,here,keyed⟩ := held
  rcases executionStep_cases taken with ⟨_,_,quiet⟩ | ⟨_,_,_,rfl,_,_,_,rfl⟩ | ⟨row,_,_,_,_,_,_,_,ran⟩ | ⟨_,_,_,_,_,rfl,_⟩
  · exact .inl ⟨running,quiet.running running here,keyed⟩
  · exact .inl ⟨running,here,keyed⟩
  · obtain ⟨(_ : Move _ _ _ (fun _ => False) _ _),rfl | ⟨old,value,found,queued,rfl,_⟩⟩ := claimExecution_ok ran
    · cases here
    · cases here
      have same : old.id = row.id := (find_some found).2
      exact .inr ⟨old,by rw [←keyed]; exact same ▸ found,queued⟩
  · cases here

theorem executionStep_live {running : Execution ι σ ρ ω μ} (holds : Holds k clock rows sent memory)
    (taken : executionStep k digests clock deployments busy rows memory event = some (after,some running,memory')) :
    memory.holding running.id ∧ find (·.id) rows running.id = some running ∧ running.state = k.running ∧
      ¬sent running.id ∧ ∃ lease, running.deadlineAt = some lease ∧ clock < lease := by
  rcases executionStep_cases taken with ⟨_,none,_⟩ | ⟨_,material,deadline,rfl,early,_,out,_⟩ | ⟨_,_,_,_,_,_,_,none,_⟩ |
    ⟨_,_,_,_,none,_⟩
  · cases none
  · cases out
    obtain ⟨lease,owned⟩ := holds.owned running rfl
    have bound := holds.cleared running material deadline rfl lease owned.deadline
    have live : clock < lease := Nat.lt_of_lt_of_le early bound
    obtain ⟨row,found,_,rfl | due⟩ := owned.row
    · exact ⟨⟨row,rfl,rfl⟩,found,owned.state,holds.unsent row rfl,lease,owned.deadline,live⟩
    · exact absurd due (Nat.not_le_of_lt live)
  · cases none
  · cases none

theorem executionStep_holds (holds : Holds k clock rows sent memory)
    (started : ∀ target, sent target → ∃ row, find (·.id) rows target = some row ∧ row.state ≠ k.queued)
    (taken : executionStep k digests clock deployments busy rows memory event = some (after,sentRow,memory'))
    (requests : ∀ target, sent' target → sent target ∨ ∃ row, sentRow = some row ∧ row.id = target) :
    Holds k clock after sent' memory' := by
  rcases executionStep_cases taken with ⟨rfl,rfl,quiet⟩ | ⟨running,material,_,rfl,_,rfl,_,rfl⟩ |
    ⟨row,_,_,_,_,_,_,rfl,ran⟩ | ⟨_,_,_,_,_,rfl,_⟩
  · refine ⟨fun running here => holds.owned running (quiet.running running here),?_,?_,?_⟩
    · intro running here out
      rcases requests running.id out with before | ⟨_,none,_⟩
      · exact holds.unsent running (quiet.unsent running here) before
      · cases none
    · intro checkedAt here
      rcases quiet.anchored checkedAt here with rfl | before
      · exact Nat.le_refl _
      · exact holds.anchored checkedAt before
    · intro running material deadline here lease leased
      obtain ⟨checkedAt,lease',anchored,leased',early,bound⟩ := quiet.cleared running material deadline here
      cases leased.symm.trans leased'
      calc deadline ≤ checkedAt + (lease - clock) := bound
        _ ≤ clock + (lease - clock) := Nat.add_le_add_right (holds.anchored checkedAt anchored) _
        _ = lease := Nat.add_sub_of_le (Nat.le_of_lt early)
  · refine ⟨fun running here => holds.owned running here,(fun _ here => by cases here),(fun _ here => by cases here),
      fun _ _ _ here => by cases here⟩
  · obtain ⟨(_ : Move _ _ _ (fun _ => False) _ _),rfl | ⟨old,value,found,queued,rfl,stored⟩⟩ := claimExecution_ok ran
    · exact .free rfl rfl rfl
    · refine ⟨?_,?_,(fun _ here => by cases here),fun _ _ _ here => by cases here⟩
      · intro running here
        cases here
        exact ⟨_,rfl,rfl,_,stored,fun back => k.queued_running back.symm,.inl rfl⟩
      · intro running here out
        cases here
        have same : old.id = row.id := (find_some found).2
        rcases requests _ out with before | ⟨_,none,_⟩
        · obtain ⟨row',found',begun⟩ := started _ before
          have here : old = row' := Option.some.inj (found.symm.trans (same ▸ found'))
          exact begun (here ▸ queued)
        · cases none
  · exact .free rfl rfl rfl

end

end
end EngineeringPlatform.ModelGateway
