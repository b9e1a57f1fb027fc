import Mathlib.Logic.Function.Basic
-- Tables with a primary key, read as partial functions. A row is written by
-- `put`, many rows at once by `updateAll`; no operation deletes a row.
abbrev Table (κ : Type u) (ρ : Type v) := κ → Option ρ

namespace Table
variable {κ : Type u} {ρ : Type v}

def empty : Table κ ρ := fun _ => none

@[simp] theorem empty_apply (key : κ) : (empty : Table κ ρ) key = none := rfl

def updateAll (table : Table κ ρ) (change : κ → ρ → ρ) : Table κ ρ :=
  fun key => (table key).map (change key)

@[simp] theorem updateAll_apply (table : Table κ ρ) (change : κ → ρ → ρ) (key : κ) :
    table.updateAll change key = (table key).map (change key) := rfl

variable {table : Table κ ρ} {rel : ρ → ρ → Prop}

theorem updateAll_some {change : κ → ρ → ρ}
    (found : table.updateAll change key = some row) :
    ∃ old, table key = some old ∧ row = change key old := by
  obtain ⟨old,stored,rfl⟩ := Option.map_eq_some_iff.mp found
  exact ⟨old,stored,rfl⟩

def Every (holds : κ → ρ → Prop) (table : Table κ ρ) : Prop :=
  ∀ key row, table key = some row → holds key row

theorem every_empty (holds : κ → ρ → Prop) : Every holds empty := by
  intro key row found
  cases found

-- Rows persist and move forward in `rel`: the shape of every monotonicity
-- statement about one table between two moments of a run.
def Advances (rel : ρ → ρ → Prop) (before after : Table κ ρ) : Prop :=
  ∀ key row, before key = some row → ∃ row', after key = some row' ∧ rel row row'

theorem Advances.refl (self : ∀ row, rel row row) (table : Table κ ρ) :
    Advances rel table table :=
  fun _ row found => ⟨row,found,self row⟩

theorem Advances.trans {a b c : Table κ ρ}
    (compose : ∀ x y z, rel x y → rel y z → rel x z)
    (left : Advances rel a b) (right : Advances rel b c) : Advances rel a c := by
  intro key row found
  obtain ⟨mid,stored,first⟩ := left key row found
  obtain ⟨last,kept,second⟩ := right key mid stored
  exact ⟨last,kept,compose _ _ _ first second⟩

theorem Advances.updateAll {change : κ → ρ → ρ}
    (moves : ∀ key row, table key = some row → rel row (change key row)) :
    Advances rel table (table.updateAll change) := by
  intro key row found
  exact ⟨change key row,by simp [found],moves key row found⟩

variable [DecidableEq κ]

def put (table : Table κ ρ) (key : κ) (row : ρ) : Table κ ρ :=
  Function.update table key (some row)

@[simp] theorem put_same (table : Table κ ρ) (key : κ) (row : ρ) : table.put key row key = some row := by
  simp [put]

theorem put_other (table : Table κ ρ) (row : ρ) (differs : key' ≠ key) :
    table.put key row key' = table key' := by
  simp [put,Function.update_of_ne differs]

theorem put_apply (table : Table κ ρ) (key key' : κ) (row : ρ) :
    table.put key row key' = if key' = key then some row else table key' := by
  simp [put,Function.update_apply]

theorem put_some (found : table.put key row key' = some row') :
    (key' = key ∧ row' = row) ∨ (key' ≠ key ∧ table key' = some row') := by
  by_cases same : key' = key
  · subst same
    rw [put_same] at found
    exact .inl ⟨rfl,(Option.some.inj found).symm⟩
  · rw [put_other _ _ same] at found
    exact .inr ⟨same,found⟩

theorem Every.put {holds : κ → ρ → Prop} (valid : Every holds table)
    (new : holds key row) : Every holds (table.put key row) := by
  intro key' row' found
  rcases put_some found with ⟨rfl,rfl⟩ | ⟨_,stored⟩
  · exact new
  · exact valid key' row' stored

theorem Advances.put (self : ∀ row, rel row row)
    (moves : ∀ old, table key = some old → rel old row) : Advances rel table (table.put key row) := by
  intro key' old found
  by_cases same : key' = key
  · subst same
    exact ⟨row,put_same _ _ _,moves old found⟩
  · exact ⟨old,by rw [put_other _ _ same]; exact found,self old⟩

theorem put_unchanged (found : table key = some row) : table.put key row = table := by
  funext key'
  by_cases same : key' = key
  · subst same
    rw [put_same,found]
  · rw [put_other _ _ same]

-- Reading part of each row.
def map (table : Table κ ρ) (read : ρ → τ) : Table κ τ := fun key => (table key).map read

omit [DecidableEq κ] in
@[simp] theorem map_apply (table : Table κ ρ) (read : ρ → τ) (key : κ) :
    table.map read key = (table key).map read := rfl

theorem map_put (table : Table κ ρ) (key : κ) (row : ρ) (read : ρ → τ) :
    (table.put key row).map read = (table.map read).put key (read row) := by
  funext key'
  by_cases same : key' = key
  · subst same
    simp
  · simp [put_other _ _ same]

end Table
