import EngineeringPlatform.TaskBranchLedger
namespace EngineeringPlatform.TaskBranch
open Checked ClaimedRows SharedWorkers EngineeringPlatform.SourceControl TransitionRuns
variable {policy : SourceControlPolicy}

-- An effect in a worker's hands, as it was at some moment of the run.
def Known (l : Ledger) (effect : BranchEffect) : Prop :=
  ∃ row, l.effects effect.id = some row ∧ EffectMoves effect row

theorem Known.kept (known : Known l effect) (moved : Table.Advances EffectMoves l.effects next.effects) :
    Known next effect := by
  obtain ⟨row,found,since⟩ := known
  obtain ⟨row',stored,further⟩ := moved effect.id row found
  exact ⟨row',stored,since.trans further⟩

theorem known_row (valid : LedgerValid l) (found : l.effects id' = some row) : Known l row := by
  have same := valid.identified id' row found
  exact ⟨row,same ▸ found,.refl row⟩

variable {s : TaskBranchStore}

theorem transitionEffect_some (taken : transitionEffect id' expected attempts change s = some (next,new)) :
    ∃ old, s.effects id' = some old ∧ old.state = expected ∧ (∀ n, attempts = some n → old.attempts = n) ∧
      new = change old ∧ next = s.putEffects (s.effects.put id' new) := by
  obtain ⟨⟨rows,row⟩,moved,same⟩ := Option.map_eq_some_iff.mp taken
  cases same
  obtain ⟨old,found,state,held,rfl,rfl⟩ := transition_some moved
  exact ⟨old,found,state,held,rfl,rfl⟩

theorem insertBinding_ok (ran : insertBinding row s = .ok next) : next = s.addBinding row := by
  simp only [insertBinding,require_bind_ok,pure_ok] at ran
  exact ran.2.2.2.symm

-- The change an outcome makes, in the terms of the ledger.
structure Completes (outcome : Outcome) (change : BranchEffect → BranchEffect) : Prop where
  plan : ∀ row, SamePlan row (change row)
  state : ∀ row, (change row).state = outcome.state
  attempts : ∀ row, (change row).attempts = row.attempts

theorem Completes.step (completes : Completes outcome change) (opened : old.state.terminal = false)
    (unbound : outcome ≠ .succeeded) : EffectStep old (change old) := by
  refine ⟨.opened (completes.plan old) (Nat.le_of_eq (completes.attempts old).symm) opened,?_,?_⟩
  · rw [completes.state]
    cases outcome <;> intro absurd <;> cases absurd
  · rw [completes.state]
    cases outcome with
    | succeeded => exact absurd rfl unbound
    | unknown => exact fun absurd => by cases absurd
    | blocked => exact fun absurd => by cases absurd

-- What both completions do: nothing, or the claimed row is settled, and a success
-- brings its binding with it.
structure Completed (s next : TaskBranchStore) (effect : BranchEffect) (outcome : Outcome)
    (recorded : Option BranchEffect) : Prop where
  write : Write s.ledger next.ledger
  recorded : ∀ row, recorded = some row → Known next.ledger row ∧ row.state = outcome.state
  superseded : (∀ row, s.effects effect.id = some row → effect.attempts < row.attempts) → next = s

def RestHolds (l : Ledger) : Rest → Prop
  | .done => True
  | .reconcile rest => ∀ effect ∈ rest, Known l effect
  | .deliver rest => ∀ effect ∈ rest, Known l effect ∧ effect.state.terminal = true

-- What every worker knows of the rows in its hands. A mark is for the UNKNOWN
-- outcome of its own attempt, or for a settled row.
def Holds (l : Ledger) : TaskBranchWorker → Prop
  | .looked _ _ _ binding effect => ∀ row, effect = some row → Known l row ∧
      (binding ≠ none → row.state.terminal = true)
  | .planned _ context effect | .creating _ context effect => Known l effect ∧ effect.workItemId = context.workItemId
  | .finishing _ context effect outcome verified => Known l effect ∧ effect.workItemId = context.workItemId ∧
      (outcome = .succeeded → verified = effect.baseCommitSha)
  | .reconciling effect rest | .judging effect _ rest | .checking effect _ rest | .lookingUp effect _ rest
  | .completing effect _ _ rest => Known l effect ∧ ∀ other ∈ rest, Known l other
  | .delivering effects => ∀ effect ∈ effects, Known l effect ∧ effect.state.terminal = true
  | .calling effect expected rest | .marking effect expected _ rest => Known l effect ∧
      (expected = .unknown ∨ effect.state.terminal = true) ∧ RestHolds l rest
  | _ => True

theorem RestHolds.kept (holds : RestHolds l rest) (moved : Table.Advances EffectMoves l.effects next.effects) :
    RestHolds next rest := by
  cases rest with
  | done => trivial
  | reconcile rest => exact fun effect member => (holds effect member).kept moved
  | deliver rest => exact fun effect member => ⟨(holds effect member).1.kept moved,(holds effect member).2⟩

theorem Holds.kept (holds : Holds l memory) (moved : Table.Advances EffectMoves l.effects next.effects) :
    Holds next memory := by
  have listed {rest : List BranchEffect} (known : ∀ other ∈ rest, Known l other) : ∀ other ∈ rest, Known next other :=
    fun other member => (known other member).kept moved
  cases memory with
  | looked request claimed context binding effect => exact fun row same => ⟨(holds row same).1.kept moved,(holds row same).2⟩
  | planned => exact ⟨holds.1.kept moved,holds.2⟩
  | creating => exact ⟨holds.1.kept moved,holds.2⟩
  | finishing => exact ⟨holds.1.kept moved,holds.2⟩
  | reconciling => exact ⟨holds.1.kept moved,listed holds.2⟩
  | judging => exact ⟨holds.1.kept moved,listed holds.2⟩
  | checking => exact ⟨holds.1.kept moved,listed holds.2⟩
  | lookingUp => exact ⟨holds.1.kept moved,listed holds.2⟩
  | completing => exact ⟨holds.1.kept moved,listed holds.2⟩
  | delivering effects => exact fun effect member => ⟨(holds effect member).1.kept moved,(holds effect member).2⟩
  | calling => exact ⟨holds.1.kept moved,holds.2.1,holds.2.2.kept moved⟩
  | marking => exact ⟨holds.1.kept moved,holds.2.1,holds.2.2.kept moved⟩
  | _ => trivial

def samplePolicy : SourceControlPolicy := ⟨asciiText,fun now attempts => now + 30 * attempts⟩

def sampleRequest : BindingRequest := ⟨1,"payload",4,5,"repository",.received,0,0,none,0⟩

def sampleContext : RequirementBindingContext := ⟨4,"feat","title",6,5,"repository","ASSIGNED",some 9⟩

-- Worker 0 claims the request and the effect, and loses the answer of GitLab.
def sampleUncertain : List TaskBranchLabel :=
  [.transact (.repository ⟨"repository",6,"project","path","main","connection","secret",.authorized,1,0⟩),
    .transact (.accept sampleRequest),.act 0 (.claim 1 true 1),.act 0 (.context sampleContext),.act 0 .look,
    .act 0 (.route 1),.act 0 (.evaluate ⟨true,none⟩),.act 0 .profile,.act 0 (.base (.ok "base")),
    .act 0 (.plan ⟨2,10,1⟩),.act 0 (.start 3),.act 0 (.create (.error .resultUnknown) (.error .providerUnavailable)),
    .act 0 (.finish ⟨4,20⟩)]

-- Worker 1 reconciles the effect.
def sampleReconcile (now : Time) (looked : Except GitLabError String) : List TaskBranchLabel :=
  [.act 1 (.claimUnknown 5 now [10]),.act 1 (.available (some sampleContext)),.act 1 (.evaluate ⟨true,none⟩),
    .act 1 .profile,.act 1 (.lookup looked (.ok ()) (.ok "base")),.act 1 (.finish ⟨now + 1,21⟩)]

-- … or after one that leaves the effect UNKNOWN again.
def sampleLate : List TaskBranchLabel :=
  sampleUncertain ++ [.act 0 (.callback true)] ++ sampleReconcile 40 (.error .providerUnavailable)

def sampleSuperseded : TaskBranchSystem :=
  (execute (taskBranchProgram samplePolicy).advance taskBranchInitial sampleLate).get (by decide)

end EngineeringPlatform.TaskBranch
