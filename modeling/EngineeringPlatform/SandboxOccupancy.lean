import EngineeringPlatform.SandboxTeardown
import Mathlib.Data.List.MinMax
namespace EngineeringPlatform.Sandbox
open Checked Idempotency TransitionRuns SharedWorkers
variable {κ : Type} {crypto : SandboxCryptography κ} {allowed : Allowed κ}

def activeMaterializations (executionId : String) (s : SandboxStore κ) : List (Materialization κ) :=
  s.materializations.filter fun row => row.executionId = executionId ∧ row.state.active = true

def activeGenerations (executionId : String) (s : SandboxStore κ) : List RunnerGeneration :=
  s.generations.filter fun row => row.executionId = executionId ∧ row.state = .active

def activeExecutionLeases (executionId : String) (s : SandboxStore κ) : List CapacityLease :=
  s.leases.filter fun row => row.executionId = executionId ∧ row.state = .active

-- A materialization never becomes active again, and keeps its execution and its generation.
structure Materialization.Ages (old new : Materialization κ) : Prop where
  execution : new.executionId = old.executionId
  generation : new.generation = old.generation
  active : new.state.active = true → old.state.active = true

theorem Materialization.Ages.refl (row : Materialization κ) : row.Ages row :=
  ⟨rfl,rfl,fun active => active⟩

theorem Materialization.Ages.trans {one two three : Materialization κ} (first : one.Ages two) (second : two.Ages three) :
    one.Ages three :=
  ⟨second.execution.trans first.execution,second.generation.trans first.generation,
    fun active => first.active (second.active active)⟩

theorem RowStep.ages {row row' : Materialization κ} (step : RowStep begins row row') : row.Ages row' := by
  cases step with
  | bound => exact ⟨rfl,rfl,fun active => active⟩
  | touched => exact ⟨rfl,rfl,fun active => active⟩
  | begun permitted ready => exact ⟨rfl,rfl,fun _ => ready ▸ rfl⟩
  | orphaned provisioning => exact ⟨rfl,rfl,fun _ => provisioning ▸ rfl⟩
  | evidencePersisted => exact ⟨rfl,rfl,fun active => active⟩
  | secretRevoked => exact ⟨rfl,rfl,fun active => active⟩
  | completed expected =>
    obtain ⟨inactive,_⟩ := intended_complete expected
    exact ⟨rfl,rfl,fun active => by cases inactive.symm.trans active⟩
  | quarantined cleaning => exact ⟨rfl,rfl,fun _ => cleaning_active cleaning⟩

-- Of the same execution, a materialization of a smaller generation is over.
structure OccupancyHolds (s : SandboxStore κ) : Prop where
  rows : ∀ executionId, (activeMaterializations executionId s).length ≤ 1
  generations : ∀ executionId, (activeGenerations executionId s).length ≤ 1
  leases : ∀ executionId, (activeExecutionLeases executionId s).length ≤ 1
  superseded : ∀ id id' row row', s.materialization id = some row → s.materialization id' = some row' →
    row.executionId = row'.executionId → row.generation < row'.generation → row.state.active = false

-- Materializations stay, and a new one has a greater generation than all of its execution.
structure OccupancyMoves (s next : SandboxStore κ) : Prop where
  kept : Table.Advances Materialization.Ages s.materialization next.materialization
  grown : ∀ id id' row old, s.materialization id = none → next.materialization id = some row →
    s.materialization id' = some old → old.executionId = row.executionId → old.generation < row.generation

theorem OccupancyMoves.refl (s : SandboxStore κ) : OccupancyMoves s s :=
  ⟨.refl .refl _,fun _ _ _ _ absent found => by cases absent.symm.trans found⟩

theorem OccupancyMoves.trans {one two three : SandboxStore κ} (first : OccupancyMoves one two)
    (second : OccupancyMoves two three) : OccupancyMoves one three := by
  refine ⟨first.kept.trans (fun _ _ _ => .trans) second.kept,fun id id' row old absent found there same => ?_⟩
  obtain ⟨middle,kept,aged⟩ := first.kept id' old there
  cases between : two.materialization id with
  | none =>
    have grown := second.grown id id' row middle between found kept (aged.execution.trans same)
    rw [aged.generation] at grown
    exact grown
  | some fresh =>
    obtain ⟨last,again,later⟩ := second.kept id fresh between
    cases found.symm.trans again
    rw [later.generation]
    exact first.grown id id' fresh old absent between there (same.trans later.execution)

theorem filter_map_length {ρ : Type} {p : ρ → Bool} {change : ρ → ρ} {rows : List ρ}
    (shrinks : ∀ row ∈ rows, p (change row) = true → p row = true) :
    ((rows.map change).filter p).length ≤ (rows.filter p).length := by
  simp only [←List.countP_eq_length_filter,List.countP_map]
  exact List.countP_mono_left shrinks

theorem filter_update_length {ρ : Type} {p : ρ → Bool} {key : ρ → Uuid} {change : ρ → ρ} {rows : List ρ} {id : Uuid}
    (shrinks : ∀ row ∈ rows, key row = id → p (change row) = true → p row = true) :
    ((KeyedRows.update key rows id change).filter p).length ≤ (rows.filter p).length := by
  refine filter_map_length fun row member => ?_
  split
  · rename_i here
    exact shrinks row member here
  · exact fun same => same

theorem filter_insert_length {ρ : Type} {p : ρ → Bool} {rows : List ρ} {row : ρ} (bounded : (rows.filter p).length ≤ 1)
    (alone : p row = true → rows.filter p = []) : ((rows ++ [row]).filter p).length ≤ 1 := by
  rw [List.filter_append]
  cases here : p row with
  | true => simp [alone here,here]
  | false => simpa [here] using bounded

theorem nextGeneration_greater {s : SandboxStore κ} {row : Materialization κ} (member : row ∈ s.materializations)
    (same : row.executionId = executionId) : row.generation < nextGeneration executionId s := by
  have listed : row.generation ∈
      (s.materializations.filter fun row => row.executionId = executionId).map Materialization.generation :=
    List.mem_map_of_mem (List.mem_filter.mpr ⟨member,by simpa using same⟩)
  exact Nat.lt_succ_of_le (List.le_max_of_le' 0 listed (Nat.le_refl _))

theorem setGeneration_shrinks (s : SandboxStore κ) (id : Uuid) (change : RunnerGeneration → RunnerGeneration)
    (keeps : ∀ row, (change row).executionId = row.executionId ∧ ((change row).state = .active → row.state = .active))
    (executionId : String) :
    (activeGenerations executionId (s.setGeneration id change)).length ≤ (activeGenerations executionId s).length := by
  refine filter_update_length fun row _ _ active => ?_
  obtain ⟨execution,stays⟩ := keeps row
  simp only [decide_eq_true_eq] at active ⊢
  exact ⟨execution.symm.trans active.1,stays active.2⟩

theorem setLease_shrinks (s : SandboxStore κ) (id : Uuid) (change : CapacityLease → CapacityLease)
    (keeps : ∀ row, (change row).executionId = row.executionId ∧ ((change row).state = .active → row.state = .active))
    (executionId : String) :
    (activeExecutionLeases executionId (s.setLease id change)).length ≤ (activeExecutionLeases executionId s).length := by
  refine filter_update_length fun row _ _ active => ?_
  obtain ⟨execution,stays⟩ := keeps row
  simp only [decide_eq_true_eq] at active ⊢
  exact ⟨execution.symm.trans active.1,stays active.2⟩

-- One materialization ages; generations and leases do not come back.
theorem occupancy_changed {s next : SandboxStore κ} {change : Materialization κ → Materialization κ}
    (valid : CapacityValid s) (holds : OccupancyHolds s)
    (rows : next.materializations = (s.setMaterialization id' change).materializations)
    (generations : ∀ executionId, (activeGenerations executionId next).length ≤ (activeGenerations executionId s).length)
    (leases : ∀ executionId, (activeExecutionLeases executionId next).length ≤ (activeExecutionLeases executionId s).length)
    (keeps : ∀ row, (change row).id = row.id) (found : s.materialization id' = some row) (ages : row.Ages (change row)) :
    OccupancyHolds next ∧ OccupancyMoves s next := by
  have view (id : Uuid) : next.materialization id =
      if id = id' then (s.materialization id).map change else s.materialization id := by
    unfold SandboxStore.materialization
    rw [rows]
    exact setMaterialization_view s change keeps id' id
  have from_old {id : Uuid} {other : Materialization κ} (stored : next.materialization id = some other) :
      ∃ old, s.materialization id = some old ∧ old.Ages other := by
    rw [view] at stored
    split at stored
    · rename_i same
      subst same
      rw [found] at stored
      cases Option.some.inj stored
      exact ⟨row,found,ages⟩
    · exact ⟨other,stored,.refl other⟩
  refine ⟨⟨fun executionId => ?_,fun executionId => (generations executionId).trans (holds.generations executionId),
    fun executionId => (leases executionId).trans (holds.leases executionId),fun id one other two here there same less => ?_⟩,
    fun id old stored => ?_,fun id _ other _ absent stored => ?_⟩
  · refine Nat.le_trans ?_ (holds.rows executionId)
    unfold activeMaterializations
    rw [rows]
    refine filter_update_length fun other member here active => ?_
    obtain ⟨present,there⟩ := KeyedRows.find_some found
    cases List.inj_on_of_nodup_map valid.rows member present (here.trans there.symm)
    simp only [decide_eq_true_eq] at active ⊢
    exact ⟨ages.execution.symm.trans active.1,ages.active active.2⟩
  · obtain ⟨old,stored,first⟩ := from_old here
    obtain ⟨old',stored',second⟩ := from_old there
    have gone := holds.superseded id one old old' stored stored' (first.execution.symm.trans (same.trans second.execution))
      (by rw [←first.generation,←second.generation]; exact less)
    cases active : other.state.active with
    | false => rfl
    | true => exact absurd (first.active active) (by simp [gone])
  · refine ⟨if id = id' then change old else old,?_,?_⟩
    · rw [view,stored]
      split <;> rfl
    · split
      · rename_i same
        subst same
        cases found.symm.trans stored
        exact ages
      · exact .refl old
  · obtain ⟨old,before,_⟩ := from_old stored
    cases absent.symm.trans before

theorem occupancy_reserved {s : SandboxStore κ} (holds : OccupancyHolds s)
    (admitted : admitReservation binding ledger s = .ok ()) (fresh : s.materialization ids.materializationId = none)
    (leases : s.leases.any (fun row => row.executionId = binding.executionId ∧ row.state = .active) = false)
    (generations : s.generations.any (fun row => row.executionId = binding.executionId ∧
      (row.state = .active ∨ row.generation = nextGeneration binding.executionId s)) = false) :
    OccupancyHolds ((s.addReservation binding policy ids tokenDigest (nextGeneration binding.executionId s) now).putLedger
        environmentId after) ∧
      OccupancyMoves s ((s.addReservation binding policy ids tokenDigest (nextGeneration binding.executionId s)
        now).putLedger environmentId after) := by
  have row_at (id : Uuid) : (s.addReservation binding policy ids tokenDigest
      (nextGeneration binding.executionId s) now).materialization id = _ :=
    addReservation_materialization fresh id
  have vacant : activeExecution binding.executionId s = false := by
    simp only [admitReservation,require_bind_ok,require_ok] at admitted
    exact admitted.2.1
  have older {id : Uuid} {row : Materialization κ} (found : s.materialization id = some row)
      (same : row.executionId = binding.executionId) : row.state.active = false := by
    have inactive := List.any_eq_false.mp vacant row (KeyedRows.find_some found).1
    simpa [same] using inactive
  refine ⟨⟨fun executionId => ?_,fun executionId => ?_,fun executionId => ?_,fun id one row other here there same less => ?_⟩,
    fun id row found => ⟨row,(row_at id).trans ?_,.refl row⟩,fun id one row old absent stored there same => ?_⟩
  · refine filter_insert_length (holds.rows executionId) fun active => List.filter_eq_nil_iff.mpr fun row member taken => ?_
    simp only [decide_eq_true_eq] at active taken
    have inactive := List.any_eq_false.mp vacant row member
    exact inactive (by simpa using ⟨taken.1.trans active.1.symm,taken.2⟩)
  · refine filter_insert_length (holds.generations executionId) fun active =>
      List.filter_eq_nil_iff.mpr fun row member taken => ?_
    simp only [decide_eq_true_eq] at active taken
    have inactive := List.any_eq_false.mp generations row member
    exact inactive (by simpa using ⟨taken.1.trans active.1.symm,Or.inl taken.2⟩)
  · refine filter_insert_length (holds.leases executionId) fun active =>
      List.filter_eq_nil_iff.mpr fun row member taken => ?_
    simp only [decide_eq_true_eq] at active taken
    have inactive := List.any_eq_false.mp leases row member
    exact inactive (by simpa using ⟨taken.1.trans active.1.symm,taken.2⟩)
  · have here := (row_at id).symm.trans here
    have there := (row_at one).symm.trans there
    split at here
    · split at there
      · cases Option.some.inj here
        cases Option.some.inj there
        exact absurd less (Nat.lt_irrefl _)
      · cases Option.some.inj here
        have greater := nextGeneration_greater (KeyedRows.find_some there).1 same.symm
        exact absurd less (Nat.not_lt_of_lt greater)
    · split at there
      · cases Option.some.inj there
        exact older here same
      · exact holds.superseded id one row other here there same less
  · split
    · rename_i same
      cases (same ▸ found).symm.trans fresh
    · exact found
  · have stored := (row_at id).symm.trans stored
    split at stored
    · cases Option.some.inj stored
      exact nextGeneration_greater (KeyedRows.find_some there).1 same
    · cases absent.symm.trans stored

theorem Write.occupancy {s next : SandboxStore κ} (step : Write allowed s next) (valid : CapacityValid s)
    (holds : OccupancyHolds s) : OccupancyHolds next ∧ OccupancyMoves s next := by
  have kept : OccupancyHolds s ∧ OccupancyMoves s s := ⟨holds,.refl s⟩
  cases step with
  | reserved found admitted fresh unleased unrun leases generations =>
    exact occupancy_reserved holds admitted fresh leases generations
  | row change keeps found step =>
    exact occupancy_changed valid holds rfl (fun _ => Nat.le_refl _) (fun _ => Nat.le_refl _) keeps found step.ages
  | @readied id' row lease runner now permitted found leased run provisioning =>
    have shrinks := setGeneration_shrinks s id' (RunnerGeneration.ready now) fun _ => ⟨rfl,fun active => active⟩
    exact occupancy_changed valid holds rfl shrinks (fun _ => Nat.le_refl _) (fun _ => rfl) found
      ⟨rfl,rfl,fun _ => provisioning ▸ rfl⟩
  | @fenced id' row runner now found =>
    have shrinks := setGeneration_shrinks s id' (RunnerGeneration.fence now) fun _ => ⟨rfl,fun active => by cases active⟩
    exact occupancy_changed valid holds rfl shrinks (fun _ => Nat.le_refl _) (fun _ => rfl) found
      ⟨rfl,rfl,fun active => active⟩
  | @released id' row lease ledger now found =>
    have shrinks := setGeneration_shrinks s id' (RunnerGeneration.release now) fun row => by
      unfold RunnerGeneration.release
      split
      · exact ⟨rfl,fun active => by cases active⟩
      · exact ⟨rfl,fun active => active⟩
    have freed := setLease_shrinks s id' (CapacityLease.release now) fun _ => ⟨rfl,fun active => by cases active⟩
    exact occupancy_changed valid holds rfl shrinks freed (fun _ => rfl) found ⟨rfl,rfl,fun active => active⟩
  | _ => exact ⟨⟨kept.1.rows,kept.1.generations,kept.1.leases,kept.1.superseded⟩,kept.2.kept,kept.2.grown⟩

def occupancyLaw (κ : Type) : WriteLaw κ where
  holds := OccupancyHolds
  moves := OccupancyMoves
  refl := .refl
  trans _ _ _ := .trans
  keeps _ _ _ step := step.occupancy

-- Whoever passes the guard holds the lease of a materialization that is not over.
theorem guard_active {s : SandboxStore κ} {guard : MaterializationGuard} (valid : CapacityValid s)
    (locked : lockCurrentGuard crypto guard s = .ok row) :
    s.materialization guard.materializationId = some row ∧ row.generation = guard.generation ∧
      row.state.active = true := by
  simp only [lockCurrentGuard,orRaise_bind_ok,require_bind_ok,pure_ok] at locked
  obtain ⟨found,stored,lease,leased,_,_,⟨_,generation,_,active,_⟩,rfl⟩ := locked
  obtain ⟨other,held,fits⟩ := valid.leased _ _ stored
  cases leased.symm.trans held
  refine ⟨stored,generation,?_⟩
  rcases fits.state with ⟨_,_,still⟩ | ⟨_,gone⟩
  · exact still
  · cases active.symm.trans gone

theorem sandbox_single_occupancy {s t : SandboxSystem κ}
    (reached : Runs (Enabled (sandboxProgram crypto).advance) sandboxInitial labels s)
    (continued : Runs (Enabled (sandboxProgram crypto).advance) s rest t) :
    (∀ executionId, (activeMaterializations executionId s.store).length ≤ 1 ∧
      (activeGenerations executionId s.store).length ≤ 1 ∧ (activeExecutionLeases executionId s.store).length ≤ 1) ∧
    OccupancyMoves s.store t.store ∧
    ∀ id current guard row, s.store.materialization id = some current → guard.generation < current.generation →
      lockCurrentGuard crypto guard t.store = .ok row → row.executionId ≠ current.executionId := by
  have initial : OccupancyHolds (.initial : SandboxStore κ) :=
    ⟨fun _ => Nat.zero_le _,fun _ => Nat.zero_le _,fun _ => Nat.zero_le _,fun id _ row _ found => by cases found⟩
  obtain ⟨_,holds⟩ := (occupancyLaw κ).reached initial reached
  have moves : OccupancyMoves s.store t.store := (occupancyLaw κ).continued initial reached continued
  obtain ⟨valid,later⟩ := (occupancyLaw κ).reached initial (reached.append continued)
  refine ⟨fun executionId => ⟨holds.rows executionId,holds.generations executionId,holds.leases executionId⟩,moves,
    fun id current guard row found older locked same => ?_⟩
  obtain ⟨stored,generation,active⟩ := guard_active valid locked
  obtain ⟨after,kept,aged⟩ := moves.kept id current found
  have gone := later.superseded _ _ row after stored kept (same.trans aged.execution.symm)
    (by rw [generation,aged.generation]; exact older)
  cases active.symm.trans gone

-- The execution is provisioned once more, after its first materialization is finalized.
def sampleAgain : SandboxLabel :=
  .transact (.claimProvision ⟨⟨12,30,31⟩,⟨"policy",true,2,8,500⟩,⟨40,41,42⟩,"again",none⟩
    ⟨⟨"actor",provisionOperation,"again"⟩,"again",sampleBinding⟩)

def sampleAgainSystem : SandboxSystem SampleSealed :=
  (execute sampleProgram.advance sampleFinalizedSystem [sampleAgain]).get (by decide)

theorem sandbox_single_occupancy_again :
    (activeMaterializations sampleBinding.executionId sampleAgainSystem.store).length ≤ 1 ∧
    ∀ guard row, guard.generation = 1 →
      lockCurrentGuard sampleCryptography guard sampleAgainSystem.store = .ok row →
      row.executionId ≠ sampleBinding.executionId := by
  have reached : Runs (Enabled sampleProgram.advance) sandboxInitial [sampleProvision 500 21 1,sampleReady 21 2]
      sampleReadySystem := execute_get (by decide)
  have continued : Runs (Enabled sampleProgram.advance) sampleReadySystem sampleFinalize
      sampleFinalizedSystem := execute_get (by decide)
  have again : Runs (Enabled sampleProgram.advance) sampleFinalizedSystem [sampleAgain] sampleAgainSystem :=
    execute_get (by decide)
  obtain ⟨single,_,fenced⟩ := sandbox_single_occupancy ((reached.append continued).append again) .nil
  refine ⟨(single _).1,fun guard row older locked => fenced 40 _ guard row rfl ?_ locked⟩
  rw [older]
  decide

end EngineeringPlatform.Sandbox
