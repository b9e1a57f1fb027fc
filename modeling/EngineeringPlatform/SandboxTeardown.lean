import EngineeringPlatform.SandboxCapacity
namespace EngineeringPlatform.Sandbox
open Checked Idempotency TransitionRuns SharedWorkers
variable {κ : Type} {crypto : SandboxCryptography κ} {allowed : Allowed κ}

-- What holds of the store whatever order its writes come in, and how one write moves it.
structure WriteLaw (κ : Type) where
  holds : SandboxStore κ → Prop
  moves : SandboxStore κ → SandboxStore κ → Prop
  refl : ∀ s, moves s s
  trans : ∀ one two three, moves one two → moves two three → moves one three
  keeps : ∀ allowed s next, Write allowed s next → CapacityValid s → holds s → holds next ∧ moves s next

namespace WriteLaw
variable (law : WriteLaw κ)

theorem writes {s next : SandboxStore κ} (path : Writes allowed s next) (valid : CapacityValid s) (holds : law.holds s) :
    (CapacityValid next ∧ law.holds next) ∧ law.moves s next := by
  induction path with
  | refl => exact ⟨⟨valid,holds⟩,law.refl s⟩
  | tail _ step ih =>
    obtain ⟨⟨valid,holds⟩,moved⟩ := ih
    obtain ⟨held,on⟩ := law.keeps _ _ _ step valid holds
    exact ⟨⟨step.capacity valid,held⟩,law.trans _ _ _ moved on⟩

def contract (crypto : SandboxCryptography κ) : Contract (sandboxProgram crypto) where
  valid s := CapacityValid s ∧ law.holds s
  holds _ _ := True
  apart _ _ := True
  rely := law.moves
  symmetric _ _ _ := trivial
  idle _ _ := trivial
  idle_apart _ := trivial
  transacted _ transaction _ valid step :=
    have path : Writes ⟨fun _ _ => False,transaction.readies,fun _ => True,fun _ _ => True⟩ _ _ :=
      commitSandbox_writes valid.1.rows (fun _ readied => readied) (fun _ => trivial) (fun _ _ _ => trivial) step
    have moved := law.writes path valid.1 valid.2
    ⟨moved.1,moved.2,fun _ _ => trivial⟩
  acted s memory event _ _ valid _ step :=
    have path : Writes ⟨memory.saves s event,fun _ => False,memory.begins event,fun _ _ => True⟩ _ _ :=
      reconcileStep_writes (fun _ _ saved => saved) (fun _ begun => begun) (fun _ _ _ => trivial) step
    have moved := law.writes path valid.1 valid.2
    ⟨moved.1,moved.2,trivial,fun _ _ _ => ⟨trivial,trivial⟩⟩

theorem reached {s : SandboxSystem κ} (initial : law.holds .initial)
    (path : Runs (Enabled (sandboxProgram crypto).advance) sandboxInitial labels s) :
    CapacityValid s.store ∧ law.holds s.store :=
  ((law.contract crypto).runs_valid path ((law.contract crypto).initial_valid ⟨initial_capacity,initial⟩)).store

theorem continued {s t : SandboxSystem κ} (initial : law.holds .initial)
    (path : Runs (Enabled (sandboxProgram crypto).advance) sandboxInitial labels s)
    (rest : Runs (Enabled (sandboxProgram crypto).advance) s more t) : law.moves s.store t.store :=
  (law.contract crypto).runs_rely law.refl law.trans rest
    ((law.contract crypto).runs_valid path ((law.contract crypto).initial_valid ⟨initial_capacity,initial⟩))

end WriteLaw

-- What the cleanup terminal state says of the state it belongs to.
def Intended (state : MaterializationState) (terminal : Option MaterializationState) : Prop :=
  match state with
  | .provisioning | .ready => terminal = none
  | .releasing => terminal = some .released
  | .finalizing => terminal = some .finalized
  | .canceling => terminal = some .canceled ∨ terminal = some .timedOut
  | .quarantined => terminal ≠ none
  | state => terminal = some state

structure Materialization.TornDown (row : Materialization κ) : Prop where
  fenced : row.fencedAt ≠ none → row.evidencePersistedAt ≠ none
  revoked : row.secretRevokedAt ≠ none → row.fencedAt ≠ none
  released : row.leaseReleasedAt ≠ none → row.secretRevokedAt ≠ none
  destroyed : row.destroyedAt ≠ none → row.leaseReleasedAt ≠ none
  terminal : row.state.active = false ↔ row.destroyedAt ≠ none
  intended : Intended row.state row.cleanupTerminalState

def Kept (old new : Option Time) : Prop := ∀ time, old = some time → new = some time

theorem Kept.refl (mark : Option Time) : Kept mark mark := fun _ same => same

theorem Kept.trans (first : Kept one two) (second : Kept two three) : Kept one three :=
  fun time same => second time (first time same)

theorem Kept.fresh (absent : old = none) : Kept old new := fun _ same => by cases absent.symm.trans same

structure Materialization.MarksKept (old new : Materialization κ) : Prop where
  evidence : Kept old.evidencePersistedAt new.evidencePersistedAt
  fenced : Kept old.fencedAt new.fencedAt
  revoked : Kept old.secretRevokedAt new.secretRevokedAt
  released : Kept old.leaseReleasedAt new.leaseReleasedAt
  destroyed : Kept old.destroyedAt new.destroyedAt

theorem Materialization.MarksKept.refl (row : Materialization κ) : row.MarksKept row :=
  ⟨.refl _,.refl _,.refl _,.refl _,.refl _⟩

theorem Materialization.MarksKept.trans {one two three : Materialization κ} (first : one.MarksKept two)
    (second : two.MarksKept three) : one.MarksKept three :=
  ⟨first.evidence.trans second.evidence,first.fenced.trans second.fenced,first.revoked.trans second.revoked,
    first.released.trans second.released,first.destroyed.trans second.destroyed⟩

theorem intended_complete (expected : expectedTransition terminal = some transition) :
    terminal.active = false ∧ Intended terminal (some terminal) := by
  cases terminal <;> cases expected <;> exact ⟨rfl,rfl⟩

theorem intended_begin (expected : expectedTransition terminal = some transition) (cleanup : terminal ≠ .failed) :
    transition.active = true ∧ Intended transition (some terminal) := by
  cases terminal <;> cases expected
  · exact ⟨rfl,rfl⟩
  · exact ⟨rfl,rfl⟩
  · exact ⟨rfl,.inl rfl⟩
  · exact ⟨rfl,.inr rfl⟩
  · exact absurd rfl cleanup

theorem cleaning_active {state : MaterializationState} (cleaning : state.cleaning = true) : state.active = true := by
  cases state <;> first | rfl | cases cleaning

theorem standing {state : MaterializationState} {destroyed : Option Time} (active : state.active = true)
    (present : destroyed = none) : state.active = false ↔ destroyed ≠ none :=
  ⟨fun inactive => (by cases active.symm.trans inactive),fun gone => absurd present gone⟩

theorem Materialization.TornDown.present {row : Materialization κ} (torn : row.TornDown) (active : row.state.active = true) :
    row.destroyedAt = none :=
  not_not.mp fun gone => by cases (torn.terminal.mpr gone).symm.trans active

theorem RowStep.torn {row row' : Materialization κ} (step : RowStep begins row row') (torn : row.TornDown) :
    row'.TornDown ∧ row.MarksKept row' := by
  have present := torn.present
  obtain ⟨fenced,revoked,released,destroyed,terminal,intended⟩ := torn
  cases step with
  | bound => exact ⟨⟨fenced,revoked,released,destroyed,terminal,intended⟩,.refl _,.refl _,.refl _,.refl _,.refl _⟩
  | touched => exact ⟨⟨fenced,revoked,released,destroyed,terminal,intended⟩,.refl _,.refl _,.refl _,.refl _,.refl _⟩
  | begun permitted ready expected cleanup =>
    obtain ⟨active,meant⟩ := intended_begin expected cleanup
    exact ⟨⟨fenced,revoked,released,destroyed,standing active (present (ready ▸ rfl)),meant⟩,.refl _,.refl _,.refl _,
      .refl _,.refl _⟩
  | orphaned provisioning =>
    have meant : Intended .quarantined (some .failed) := fun absurd => by cases absurd
    exact ⟨⟨fenced,revoked,released,destroyed,standing rfl (present (provisioning ▸ rfl)),meant⟩,.refl _,.refl _,.refl _,
      .refl _,.refl _⟩
  | evidencePersisted cleaning intent absent =>
    exact ⟨⟨fun _ unset => (by cases unset),revoked,released,destroyed,terminal,intended⟩,.fresh absent,.refl _,.refl _,
      .refl _,.refl _⟩
  | secretRevoked before absent =>
    exact ⟨⟨fenced,fun _ => before,fun _ unset => (by cases unset),destroyed,terminal,intended⟩,.refl _,.refl _,
      .fresh absent,.refl _,.refl _⟩
  | completed expected cleaning intent before absent =>
    obtain ⟨inactive,meant⟩ := intended_complete expected
    refine ⟨⟨fenced,revoked,released,fun _ => before,⟨fun _ unset => (by cases unset),fun _ => inactive⟩,?_⟩,.refl _,
      .refl _,.refl _,.refl _,.fresh absent⟩
    exact intent.symm ▸ meant
  | quarantined cleaning intent =>
    exact ⟨⟨fenced,revoked,released,destroyed,standing rfl (present (cleaning_active cleaning)),intent⟩,.refl _,.refl _,
      .refl _,.refl _,.refl _⟩

def TeardownMoves (s next : SandboxStore κ) : Prop :=
  Table.Advances Materialization.MarksKept s.materialization next.materialization

def teardownHolds (s : SandboxStore κ) : Prop := ∀ id row, s.materialization id = some row → row.TornDown

theorem teardown_changed {s next : SandboxStore κ} {change : Materialization κ → Materialization κ}
    (rows : next.materializations = (s.setMaterialization id' change).materializations)
    (keeps : ∀ row, (change row).id = row.id) (found : s.materialization id' = some row) (holds : teardownHolds s)
    (step : row.TornDown → (change row).TornDown ∧ row.MarksKept (change row)) :
    teardownHolds next ∧ TeardownMoves s next := by
  have view (id : Uuid) : next.materialization id =
      if id = id' then (s.materialization id).map change else s.materialization id := by
    unfold SandboxStore.materialization
    rw [rows]
    exact setMaterialization_view s change keeps id' id
  obtain ⟨torn,kept⟩ := step (holds id' row found)
  constructor
  · intro id other stored
    rw [view] at stored
    split at stored
    · rename_i same
      subst same
      rw [found] at stored
      cases Option.some.inj stored
      exact torn
    · exact holds id other stored
  · intro id old stored
    refine ⟨if id = id' then change old else old,?_,?_⟩
    · rw [view,stored]
      split <;> rfl
    · split
      · rename_i same
        subst same
        cases found.symm.trans stored
        exact kept
      · exact .refl old

theorem reserved_torn (binding : ExecutionBindingProjection) (id : Uuid) (generation : Nat) (now : Time) :
    (reservedMaterialization binding id generation now : Materialization κ).TornDown :=
  ⟨fun set => absurd rfl set,fun set => absurd rfl set,fun set => absurd rfl set,fun set => absurd rfl set,
    standing rfl rfl,rfl⟩

theorem Write.torn {s next : SandboxStore κ} (step : Write allowed s next) (holds : teardownHolds s) :
    teardownHolds next ∧ TeardownMoves s next := by
  have kept : TeardownMoves s s := .refl .refl _
  cases step with
  | @reserved ledger binding policy ids tokenDigest now _ _ fresh =>
    have row_at (id : Uuid) : (s.addReservation binding policy ids tokenDigest
        (nextGeneration binding.executionId s) now).materialization id = _ :=
      addReservation_materialization fresh id
    constructor
    · intro id row stored
      have stored := (row_at id).symm.trans stored
      split at stored
      · cases Option.some.inj stored
        exact reserved_torn binding _ _ now
      · exact holds id row stored
    · intro id row found
      refine ⟨row,(row_at id).trans ?_,.refl row⟩
      split
      · rename_i same
        cases (same ▸ found).symm.trans fresh
      · exact found
  | row change keeps found step => exact teardown_changed rfl keeps found holds step.torn
  | readied permitted found leased run provisioning =>
    refine teardown_changed rfl (fun _ => rfl) found holds fun torn => ?_
    have meant : Intended .ready _ := provisioning ▸ torn.intended
    exact ⟨⟨torn.fenced,torn.revoked,torn.released,torn.destroyed,standing rfl (torn.present (provisioning ▸ rfl)),meant⟩,
      .refl _,.refl _,.refl _,.refl _,.refl _⟩
  | fenced found run cleaning persisted absent =>
    refine teardown_changed rfl (fun _ => rfl) found holds fun torn => ?_
    exact ⟨⟨fun _ => persisted,fun _ unset => (by cases unset),torn.released,torn.destroyed,torn.terminal,torn.intended⟩,
      .refl _,.fresh absent,.refl _,.refl _,.refl _⟩
  | released found leased revoked absent =>
    refine teardown_changed rfl (fun _ => rfl) found holds fun torn => ?_
    exact ⟨⟨torn.fenced,torn.revoked,fun _ => revoked,fun _ unset => (by cases unset),torn.terminal,torn.intended⟩,
      .refl _,.refl _,.refl _,.fresh absent,.refl _⟩
  | _ => exact ⟨holds,kept⟩

def teardownLaw (κ : Type) : WriteLaw κ where
  holds := teardownHolds
  moves := TeardownMoves
  refl _ := .refl .refl _
  trans _ _ _ first second := Table.Advances.trans (fun _ _ _ => .trans) first second
  keeps _ _ _ step _ := step.torn

theorem sandbox_teardown_order {s t : SandboxSystem κ}
    (reached : Runs (Enabled (sandboxProgram crypto).advance) sandboxInitial labels s)
    (continued : Runs (Enabled (sandboxProgram crypto).advance) s rest t) :
    (∀ id row, s.store.materialization id = some row → row.TornDown) ∧
    ∀ id row, s.store.materialization id = some row →
      ∃ later, t.store.materialization id = some later ∧ row.MarksKept later := by
  have initial : teardownHolds (.initial : SandboxStore κ) := fun id row found => by cases found
  obtain ⟨_,holds⟩ := (teardownLaw κ).reached initial reached
  exact ⟨holds,(teardownLaw κ).continued initial reached continued⟩

theorem sandbox_teardown_order_finalized :
    (∀ id row, sampleReadySystem.store.materialization id = some row → row.TornDown) ∧
    ∃ row, sampleFinalizedSystem.store.materialization 10 = some row ∧ row.state = .finalized ∧ row.TornDown := by
  have reached : Runs (Enabled sampleProgram.advance) sandboxInitial [sampleProvision 500 21 1,sampleReady 21 2]
      sampleReadySystem := execute_get (by decide)
  have continued : Runs (Enabled sampleProgram.advance) sampleReadySystem sampleFinalize
      sampleFinalizedSystem := execute_get (by decide)
  have torn := sandbox_teardown_order reached continued
  have finished := sandbox_teardown_order (reached.append continued) .nil
  exact ⟨torn.1,_,rfl,rfl,finished.1 10 _ rfl⟩

end EngineeringPlatform.Sandbox
