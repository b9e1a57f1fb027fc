import EngineeringPlatform.TaskBranchWorkers
namespace EngineeringPlatform.TaskBranch
open Checked ClaimedRows SharedWorkers EngineeringPlatform.SourceControl TransitionRuns
variable {policy : SourceControlPolicy}

-- The part of the store that the agreement is about; the inbox and the repositories
-- are the rest.
structure Ledger where
  effects : Table Uuid BranchEffect
  byWorkItem : Table Uuid Uuid
  bindings : List RepositoryBranchBinding

def TaskBranchStore.ledger (s : TaskBranchStore) : Ledger := ⟨s.effects,s.byWorkItem,s.bindings⟩

-- What an effect was planned with, which no later write changes.
structure SamePlan (old new : BranchEffect) : Prop where
  id : new.id = old.id
  workItem : new.workItemId = old.workItemId
  number : new.workItemNumber = old.workItemNumber
  branch : new.branchName = old.branchName
  base : new.baseCommitSha = old.baseCommitSha

structure EffectMoves (old new : BranchEffect) : Prop extends SamePlan old new where
  moves : Moves effectColumns EffectState.terminal old new
  closed : old.state.terminal = true → new.attempts = old.attempts

theorem SamePlan.refl (row : BranchEffect) : SamePlan row row := ⟨rfl,rfl,rfl,rfl,rfl⟩

theorem SamePlan.trans (first : SamePlan one two) (second : SamePlan two three) : SamePlan one three :=
  ⟨second.id.trans first.id,second.workItem.trans first.workItem,second.number.trans first.number,
    second.branch.trans first.branch,second.base.trans first.base⟩

theorem EffectMoves.refl (row : BranchEffect) : EffectMoves row row := ⟨.refl row,.refl row,fun _ => rfl⟩

theorem EffectMoves.state (moved : EffectMoves old new) (done : old.state.terminal = true) : new.state = old.state :=
  moved.moves.final done

theorem EffectMoves.trans (first : EffectMoves one two) (second : EffectMoves two three) : EffectMoves one three := by
  refine ⟨first.toSamePlan.trans second.toSamePlan,first.moves.trans second.moves,fun done => ?_⟩
  have still : two.state.terminal = true := by
    rw [first.state done]
    exact done
  exact (second.closed still).trans (first.closed done)

-- A row that has not been settled yet may move anywhere but back to PLANNED.
theorem EffectMoves.opened (plan : SamePlan old new) (attempts : old.attempts ≤ new.attempts)
    (opened : old.state.terminal = false) : EffectMoves old new := by
  refine ⟨plan,⟨attempts,fun done => ?_⟩,fun done => ?_⟩
  · have here : old.state.terminal = true := done
    rw [opened] at here
    cases here
  · rw [opened] at done
    cases done

-- A move that neither plans nor succeeds.
structure EffectStep (old new : BranchEffect) : Prop extends EffectMoves old new where
  planned : new.state = .planned → old.state = .planned ∧ new.attempts = old.attempts
  unbound : new.state = .succeeded → old.state = .succeeded

theorem EffectStep.refl (row : BranchEffect) : EffectStep row row :=
  ⟨.refl row,fun planned => ⟨planned,rfl⟩,fun succeeded => succeeded⟩

-- The same state under the same attempt: only bookkeeping columns change.
theorem EffectStep.still (plan : SamePlan old new) (state : new.state = old.state)
    (attempts : new.attempts = old.attempts) : EffectStep old new :=
  ⟨⟨plan,⟨Nat.le_of_eq attempts.symm,fun _ => state⟩,fun _ => attempts⟩,fun planned => ⟨state.symm.trans planned,attempts⟩,
    fun succeeded => state.symm.trans succeeded⟩

def EffectsStep (rows next : Table Uuid BranchEffect) : Prop :=
  ∀ id, (rows id = none ∧ next id = none) ∨ ∃ old new, rows id = some old ∧ next id = some new ∧ EffectStep old new

theorem EffectsStep.before (step : EffectsStep rows next) (stored : next id' = some new) :
    ∃ old, rows id' = some old ∧ EffectStep old new := by
  rcases step id' with ⟨_,absent⟩ | ⟨old,new',found,kept,moved⟩
  · cases absent.symm.trans stored
  · cases kept.symm.trans stored
    exact ⟨old,found,moved⟩

theorem EffectsStep.after (step : EffectsStep rows next) (found : rows id' = some old) :
    ∃ new, next id' = some new ∧ EffectStep old new := by
  rcases step id' with ⟨absent,_⟩ | ⟨old',new,found',kept,moved⟩
  · cases absent.symm.trans found
  · cases found'.symm.trans found
    exact ⟨new,kept,moved⟩

theorem EffectsStep.refl (rows : Table Uuid BranchEffect) : EffectsStep rows rows := by
  intro id
  cases found : rows id with
  | none => exact .inl ⟨rfl,rfl⟩
  | some row => exact .inr ⟨row,row,rfl,rfl,.refl row⟩

theorem EffectsStep.put {rows : Table Uuid BranchEffect} (found : rows id' = some old) (step : EffectStep old new) :
    EffectsStep rows (rows.put id' new) := by
  intro id
  by_cases same : id = id'
  · subst same
    exact .inr ⟨old,new,found,Table.put_same _ _ _,step⟩
  · rw [Table.put_other _ _ same]
    exact EffectsStep.refl rows id

theorem EffectsStep.updateAll {rows : Table Uuid BranchEffect} {change : Uuid → BranchEffect → BranchEffect}
    (step : ∀ id row, rows id = some row → EffectStep row (change id row)) :
    EffectsStep rows (rows.updateAll change) := by
  intro id
  cases found : rows id with
  | none => exact .inl ⟨rfl,by simp [found]⟩
  | some row => exact .inr ⟨row,change id row,rfl,by simp [found],step id row found⟩

-- What one transaction writes.
inductive Write (l : Ledger) : Ledger → Prop where
  | unchanged : Write l l
  | planned (fresh : l.byWorkItem row.workItemId = none) (absent : l.effects row.id = none)
      (state : row.state = .planned) (attempts : row.attempts = 0) :
      Write l ⟨l.effects.put row.id row,l.byWorkItem.put row.workItemId row.id,l.bindings⟩
  | moved (step : EffectsStep l.effects effects) : Write l ⟨effects,l.byWorkItem,l.bindings⟩
  | bound (found : l.effects id' = some old) (opened : old.state.terminal = false) (plan : SamePlan old new)
      (attempts : new.attempts = old.attempts) (succeeded : new.state = .succeeded)
      (binding : RepositoryBranchBinding) (effect : binding.effectId = id') (item : binding.workItemId = old.workItemId)
      (number : binding.workItemNumber = old.workItemNumber) (branch : binding.branchName = old.branchName)
      (base : binding.baseCommitSha = old.baseCommitSha) :
      Write l ⟨l.effects.put id' new,l.byWorkItem,l.bindings ++ [binding]⟩

structure LedgerValid (l : Ledger) : Prop where
  identified : ∀ id row, l.effects id = some row → row.id = id
  indexed : ∀ id row, l.effects id = some row → l.byWorkItem row.workItemId = some id
  named : ∀ workItemId id, l.byWorkItem workItemId = some id →
    ∃ row, l.effects id = some row ∧ row.workItemId = workItemId
  unclaimed : ∀ id row, l.effects id = some row → row.state = .planned → row.attempts = 0
  once : KeyedRows.Unique RepositoryBranchBinding.workItemId l.bindings
  bound : ∀ binding ∈ l.bindings, ∃ row, l.effects binding.effectId = some row ∧ row.state = .succeeded ∧
    row.workItemId = binding.workItemId ∧ row.workItemNumber = binding.workItemNumber ∧
    row.branchName = binding.branchName ∧ row.baseCommitSha = binding.baseCommitSha
  succeeded : ∀ id row, l.effects id = some row → row.state = .succeeded →
    ∃ binding ∈ l.bindings, binding.workItemId = row.workItemId

theorem LedgerValid.moved (valid : LedgerValid l) (step : EffectsStep l.effects effects) :
    LedgerValid ⟨effects,l.byWorkItem,l.bindings⟩ := by
  refine ⟨?_,?_,?_,?_,valid.once,?_,?_⟩
  · intro id new stored
    obtain ⟨old,found,moved⟩ := step.before stored
    exact moved.id.trans (valid.identified id old found)
  · intro id new stored
    obtain ⟨old,found,moved⟩ := step.before stored
    rw [moved.workItem]
    exact valid.indexed id old found
  · intro workItemId id named
    obtain ⟨old,found,same⟩ := valid.named workItemId id named
    obtain ⟨new,stored,moved⟩ := step.after found
    exact ⟨new,stored,moved.workItem.trans same⟩
  · intro id new stored planned
    obtain ⟨old,found,moved⟩ := step.before stored
    obtain ⟨before,attempts⟩ := moved.planned planned
    exact attempts.trans (valid.unclaimed id old found before)
  · intro binding member
    obtain ⟨old,found,succeeded,item,number,branch,base⟩ := valid.bound binding member
    obtain ⟨new,stored,moved⟩ := step.after found
    refine ⟨new,stored,(moved.state (by rw [succeeded]; rfl)).trans succeeded,moved.workItem.trans item,
      moved.number.trans number,moved.branch.trans branch,moved.base.trans base⟩
  · intro id new stored succeeded
    obtain ⟨old,found,moved⟩ := step.before stored
    rw [moved.workItem]
    exact valid.succeeded id old found (moved.unbound succeeded)

theorem LedgerValid.planned (valid : LedgerValid l) {row : BranchEffect}
    (fresh : l.byWorkItem row.workItemId = none) (absent : l.effects row.id = none) (state : row.state = .planned)
    (attempts : row.attempts = 0) :
    LedgerValid ⟨l.effects.put row.id row,l.byWorkItem.put row.workItemId row.id,l.bindings⟩ := by
  have kept {id : Uuid} {old : BranchEffect} (found : l.effects id = some old) :
      (l.effects.put row.id row) id = some old := by
    rw [Table.put_other _ _ fun same => by cases (same ▸ absent).symm.trans found]
    exact found
  refine ⟨?_,?_,?_,?_,valid.once,?_,?_⟩
  · intro id new stored
    rcases Table.put_some stored with ⟨rfl,rfl⟩ | ⟨_,found⟩
    · rfl
    · exact valid.identified id new found
  · intro id new stored
    dsimp only
    rcases Table.put_some stored with ⟨rfl,rfl⟩ | ⟨_,found⟩
    · exact Table.put_same _ _ _
    · have index := valid.indexed id new found
      rw [Table.put_other _ _ fun same => by cases (same ▸ fresh).symm.trans index]
      exact index
  · intro workItemId id named
    rcases Table.put_some named with ⟨rfl,rfl⟩ | ⟨_,before⟩
    · exact ⟨row,Table.put_same _ _ _,rfl⟩
    · obtain ⟨old,found,same⟩ := valid.named workItemId id before
      exact ⟨old,kept found,same⟩
  · intro id new stored planned
    rcases Table.put_some stored with ⟨rfl,rfl⟩ | ⟨_,found⟩
    · exact attempts
    · exact valid.unclaimed id new found planned
  · intro binding member
    obtain ⟨old,found,rest⟩ := valid.bound binding member
    exact ⟨old,kept found,rest⟩
  · intro id new stored succeeded
    rcases Table.put_some stored with ⟨rfl,rfl⟩ | ⟨_,found⟩
    · cases state.symm.trans succeeded
    · exact valid.succeeded id new found succeeded

-- Two effects of one work item are one effect.
theorem LedgerValid.effect_unique (valid : LedgerValid l) (one : l.effects id' = some row)
    (two : l.effects id'' = some row') (same : row.workItemId = row'.workItemId) : id' = id'' := by
  have first := valid.indexed id' row one
  rw [same] at first
  exact Option.some.inj (first.symm.trans (valid.indexed id'' row' two))

-- An effect that has not succeeded has no binding.
theorem LedgerValid.unbound (valid : LedgerValid l) (found : l.effects id' = some row)
    (opened : row.state.terminal = false) : ∀ binding ∈ l.bindings, binding.workItemId ≠ row.workItemId := by
  intro binding member same
  obtain ⟨row',stored,succeeded,item,_⟩ := valid.bound binding member
  cases valid.effect_unique found stored (same.symm.trans item.symm)
  cases found.symm.trans stored
  rw [succeeded] at opened
  cases opened

theorem LedgerValid.bind (valid : LedgerValid l) (found : l.effects id' = some old) (opened : old.state.terminal = false)
    (plan : SamePlan old new) (succeeded : new.state = .succeeded) (binding : RepositoryBranchBinding)
    (effect : binding.effectId = id') (item : binding.workItemId = old.workItemId)
    (number : binding.workItemNumber = old.workItemNumber) (branch : binding.branchName = old.branchName)
    (base : binding.baseCommitSha = old.baseCommitSha) :
    LedgerValid ⟨l.effects.put id' new,l.byWorkItem,l.bindings ++ [binding]⟩ := by
  have absent := valid.unbound found opened
  refine ⟨?_,?_,?_,?_,?_,?_,?_⟩
  · intro id row stored
    rcases Table.put_some stored with ⟨rfl,rfl⟩ | ⟨_,before⟩
    · exact plan.id.trans (valid.identified _ old found)
    · exact valid.identified id row before
  · intro id row stored
    rcases Table.put_some stored with ⟨rfl,rfl⟩ | ⟨_,before⟩
    · rw [plan.workItem]
      exact valid.indexed _ old found
    · exact valid.indexed id row before
  · intro workItemId id named
    obtain ⟨row,before,same⟩ := valid.named workItemId id named
    by_cases here : id = id'
    · subst here
      cases before.symm.trans found
      exact ⟨new,Table.put_same _ _ _,plan.workItem.trans same⟩
    · exact ⟨row,(Table.put_other _ _ here).trans before,same⟩
  · intro id row stored planned
    rcases Table.put_some stored with ⟨rfl,rfl⟩ | ⟨_,before⟩
    · cases succeeded.symm.trans planned
    · exact valid.unclaimed id row before planned
  · refine KeyedRows.unique_insert valid.once (List.find?_eq_none.mpr fun other member => ?_)
    rw [item]
    simpa using absent other member
  · intro other member
    rcases List.mem_append.mp member with before | latest
    · obtain ⟨row,stored,rest⟩ := valid.bound other before
      have elsewhere : other.effectId ≠ id' := by
        intro same
        subst same
        cases found.symm.trans stored
        rw [rest.1] at opened
        cases opened
      exact ⟨row,(Table.put_other _ _ elsewhere).trans stored,rest⟩
    · cases List.mem_singleton.mp latest
      subst effect
      exact ⟨new,Table.put_same _ _ _,succeeded,plan.workItem.trans item.symm,plan.number.trans number.symm,
        plan.branch.trans branch.symm,plan.base.trans base.symm⟩
  · intro id row stored done
    rcases Table.put_some stored with ⟨rfl,rfl⟩ | ⟨_,before⟩
    · exact ⟨binding,List.mem_append_right _ (List.mem_singleton.mpr rfl),item.trans plan.workItem.symm⟩
    · obtain ⟨other,member,same⟩ := valid.succeeded id row before done
      exact ⟨other,List.mem_append_left _ member,same⟩

theorem Write.valid (valid : LedgerValid l) (write : Write l next) : LedgerValid next := by
  cases write with
  | unchanged => exact valid
  | planned fresh absent state attempts => exact valid.planned fresh absent state attempts
  | moved step => exact valid.moved step
  | bound found opened plan _ succeeded binding effect item number branch base =>
    exact valid.bind found opened plan succeeded binding effect item number branch base

theorem Write.moves (write : Write l next) : Table.Advances EffectMoves l.effects next.effects := by
  cases write with
  | unchanged => exact .refl .refl _
  | planned fresh absent =>
    refine .put .refl fun old found => ?_
    cases absent.symm.trans found
  | moved step =>
    intro id old found
    obtain ⟨new,stored,moved⟩ := step.after found
    exact ⟨new,stored,moved.toEffectMoves⟩
  | bound found opened plan attempts =>
    refine .put .refl fun old stored => ?_
    cases found.symm.trans stored
    exact .opened plan (Nat.le_of_eq attempts.symm) opened

end EngineeringPlatform.TaskBranch
