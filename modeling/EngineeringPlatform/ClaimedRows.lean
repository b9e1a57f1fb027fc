import EngineeringPlatform.Table
-- Rows with a state and a claim counter. A claim raises the counter, a completion
-- is a compare-and-set on both: under a superseded claim it changes nothing.
namespace ClaimedRows
universe u v w
variable {κ : Type u} {ρ : Type v} {τ : Type w} [DecidableEq κ] [DecidableEq τ]

structure Columns (ρ : Type v) (τ : Type w) where
  state : ρ → τ
  attempts : ρ → Nat

-- UPDATE … WHERE key AND state [AND attempts] RETURNING *
def transition (columns : Columns ρ τ) (rows : Table κ ρ) (key : κ) (expected : τ)
    (attempts : Option Nat) (change : ρ → ρ) : Option (Table κ ρ × ρ) :=
  match rows key with
  | some row =>
    if columns.state row = expected ∧ attempts.all (columns.attempts row = ·) = true then
      some (rows.put key (change row),change row)
    else none
  | none => none

-- UPDATE … FROM the rows a locking scan returned.
def claimAll (rows : Table κ ρ) (keys : List κ) (change : ρ → ρ) : Table κ ρ :=
  rows.updateAll fun key row => if key ∈ keys then change row else row

-- The counter never falls, and a settled state is final.
structure Moves (columns : Columns ρ τ) (settled : τ → Bool) (old new : ρ) : Prop where
  attempts : columns.attempts old ≤ columns.attempts new
  final : settled (columns.state old) = true → columns.state new = columns.state old

variable {columns : Columns ρ τ} {settled : τ → Bool} {rows : Table κ ρ}

omit [DecidableEq τ] in
theorem Moves.refl (row : ρ) : Moves columns settled row row := ⟨Nat.le_refl _,fun _ => rfl⟩

omit [DecidableEq τ] in
theorem Moves.trans {one two three : ρ} (first : Moves columns settled one two)
    (second : Moves columns settled two three) : Moves columns settled one three := by
  refine ⟨Nat.le_trans first.attempts second.attempts,fun done => ?_⟩
  have same := first.final done
  exact (second.final (same ▸ done)).trans same

theorem transition_some {expected : τ} {attempts : Option Nat} {change : ρ → ρ}
    (taken : transition columns rows key expected attempts change = some (next,new)) :
    ∃ row, rows key = some row ∧ columns.state row = expected ∧
      (∀ n, attempts = some n → columns.attempts row = n) ∧ next = rows.put key (change row) ∧
      new = change row := by
  unfold transition at taken
  split at taken
  · rename_i row found
    split at taken
    · rename_i held
      cases taken
      refine ⟨row,found,held.1,?_,rfl,rfl⟩
      rintro n rfl
      simpa using held.2
    · cases taken
  · cases taken

-- What a lost completion says about the row it missed.
theorem transition_none {expected : τ} {change : ρ → ρ}
    (missed : transition columns rows key expected (some n) change = none) (found : rows key = some row) :
    columns.state row ≠ expected ∨ columns.attempts row ≠ n := by
  unfold transition at missed
  rw [found] at missed
  by_cases held : columns.state row = expected ∧ columns.attempts row = n
  · simp [held] at missed
  · exact Decidable.not_and_iff_or_not.mp held

omit [DecidableEq τ] in
theorem claimAll_some {keys : List κ} {change : ρ → ρ} (found : claimAll rows keys change key = some new) :
    ∃ row, rows key = some row ∧ ((key ∈ keys ∧ new = change row) ∨ (key ∉ keys ∧ new = row)) := by
  obtain ⟨row,stored,rfl⟩ := Table.updateAll_some found
  refine ⟨row,stored,?_⟩
  split
  · exact .inl ⟨by assumption,rfl⟩
  · exact .inr ⟨by assumption,rfl⟩

end ClaimedRows
