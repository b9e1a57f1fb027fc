import EngineeringPlatform.Table
import Mathlib.Algebra.BigOperators.Group.List.Basic
import Mathlib.Algebra.Order.BigOperators.Group.List
import Mathlib.Algebra.Ring.Int.Defs
-- A table kept as the list of its rows, for queries that scan or add up rows.
-- `key` is its primary key; `view` is the same table read by key.
namespace KeyedRows
universe u v w
variable {κ : Type u} {ρ : Type v} [DecidableEq κ] (key : ρ → κ)

def find (rows : List ρ) (k : κ) : Option ρ := rows.find? fun row => key row = k

def view (rows : List ρ) : Table κ ρ := find key rows

def update (rows : List ρ) (k : κ) (change : ρ → ρ) : List ρ :=
  rows.map fun row => if key row = k then change row else row

-- INSERT … ON CONFLICT (key) DO UPDATE
def upsert (rows : List ρ) (k : κ) (fresh : ρ) (change : ρ → ρ) : List ρ :=
  if (find key rows k).isSome then update key rows k change else rows ++ [fresh]

def Unique (rows : List ρ) : Prop := (rows.map key).Nodup

def total (measure : ρ → Int) (rows : List ρ) : Int := (rows.map measure).sum

variable {key} {rows : List ρ} {change : ρ → ρ} {new : ρ}

theorem find_some (found : find key rows k = some row) : row ∈ rows ∧ key row = k :=
  ⟨List.mem_of_find?_eq_some found,by simpa using List.find?_some found⟩

theorem find_none (absent : find key rows k = none) : ∀ row ∈ rows, key row ≠ k := by
  intro row member
  simpa using List.find?_eq_none.mp absent row member

theorem find_of_mem (unique : Unique key rows) (member : row ∈ rows) :
    find key rows (key row) = some row := by
  induction rows with
  | nil => cases member
  | cons head tail ih =>
    obtain ⟨fresh,rest⟩ := List.nodup_cons.mp unique
    unfold find
    rcases List.mem_cons.mp member with rfl | later
    · simp
    · have differs : key head ≠ key row := fun same => fresh (same ▸ List.mem_map_of_mem later)
      simpa [find,differs] using ih rest later

theorem filter_key (unique : Unique key rows) (member : row ∈ rows) :
    rows.filter (fun other => key other = key row) = [row] := by
  induction rows with
  | nil => cases member
  | cons head tail ih =>
    obtain ⟨fresh,rest⟩ := List.nodup_cons.mp unique
    rcases List.mem_cons.mp member with rfl | later
    · have others : tail.filter (fun other => key other = key row) = [] := by
        refine List.filter_eq_nil_iff.mpr fun other there same => fresh ?_
        exact of_decide_eq_true same ▸ List.mem_map_of_mem there
      simp [others]
    · have differs : key head ≠ key row := fun same => fresh (same ▸ List.mem_map_of_mem later)
      simpa [differs] using ih rest later

theorem find_insert (k : κ) (fresh : find key rows (key row) = none) :
    find key (rows ++ [row]) k = if k = key row then some row else find key rows k := by
  unfold find at fresh ⊢
  rw [List.find?_append]
  by_cases same : k = key row
  · subst same
    simp [fresh]
  · have other : ¬key row = k := fun back => same back.symm
    simp [same,other]

theorem find_update (keeps : ∀ row, key (change row) = key row) (k' : κ) :
    find key (update key rows k change) k' =
      if k' = k then (find key rows k').map change else find key rows k' := by
  induction rows with
  | nil => simp [find,update]
  | cons head tail ih =>
    have changed : key (if key head = k then change head else head) = key head := by
      split
      · exact keeps head
      · rfl
    unfold find update at ih ⊢
    simp only [List.map_cons,List.find?_cons,changed]
    by_cases here : key head = k'
    · by_cases same : k' = k
      · subst same
        simp [here]
      · have other : ¬key head = k := fun back => same (here.symm.trans back)
        simp [here,same]
    · simpa [here] using ih

theorem find_upsert {fresh : ρ} (keeps : ∀ row, key (change row) = key row)
    (keyed : key fresh = k) (k' : κ) :
    find key (upsert key rows k fresh change) k' =
      if k' = k then some ((find key rows k).elim fresh change) else find key rows k' := by
  unfold upsert
  split
  · rename_i present
    obtain ⟨old,found⟩ := Option.isSome_iff_exists.mp present
    rw [find_update keeps]
    by_cases same : k' = k
    · subst same
      simp [found]
    · simp [same]
  · rename_i missing
    have absent : find key rows k = none := by simpa using missing
    rw [find_insert k' (keyed ▸ absent),keyed,absent]
    simp

-- Every row of an updated table is an old row left alone or the changed one.
theorem mem_update (unique : Unique key rows)
    (found : find key rows k = some old) (member : row ∈ update key rows k change) :
    (row ∈ rows ∧ key row ≠ k) ∨ row = change old := by
  obtain ⟨before,present,rfl⟩ := List.mem_map.mp member
  split
  · rename_i same
    subst same
    cases found.symm.trans (find_of_mem unique present)
    exact .inr rfl
  · rename_i differs
    exact .inl ⟨present,differs⟩

theorem mem_replace (unique : Unique key rows) (found : find key rows k = some old)
    (member : row ∈ update key rows k fun _ => new) : (row ∈ rows ∧ key row ≠ k) ∨ row = new :=
  mem_update unique found member

-- The same update seen through another key that it does not touch.
theorem find_update_other {κ' : Type w} [DecidableEq κ'] {other : ρ → κ'}
    (keeps : ∀ row, other (change row) = other row) (k : κ) (k' : κ') :
    find other (update key rows k change) k' =
      (find other rows k').map fun row => if key row = k then change row else row := by
  unfold find update
  rw [List.find?_map]
  congr 2
  funext row
  dsimp only [Function.comp]
  split
  · rw [keeps]
  · rfl

-- A query that no changed row belongs to, before or after, sees no update.
theorem filter_update {chosen : ρ → Bool}
    (unchosen : ∀ row ∈ rows, key row = k → chosen row = false ∧ chosen (change row) = false) :
    (update key rows k change).filter chosen = rows.filter chosen := by
  induction rows with
  | nil => rfl
  | cons head tail ih =>
    obtain ⟨here,others⟩ := List.forall_mem_cons.mp unchosen
    have rest := ih others
    unfold update at rest ⊢
    rw [List.map_cons]
    split
    · rename_i same
      obtain ⟨before,after⟩ := here same
      rw [List.filter_cons_of_neg (by simp [after]),List.filter_cons_of_neg (by simp [before]),rest]
    · by_cases taken : chosen head = true
      · rw [List.filter_cons_of_pos taken,List.filter_cons_of_pos taken,rest]
      · rw [List.filter_cons_of_neg taken,List.filter_cons_of_neg taken,rest]

theorem unique_insert (unique : Unique key rows) (fresh : find key rows (key row) = none) :
    Unique key (rows ++ [row]) := by
  unfold Unique at unique ⊢
  rw [List.map_append,List.nodup_append]
  refine ⟨unique,by simp,?_⟩
  intro k member k' single same
  obtain ⟨old,present,rfl⟩ := List.mem_map.mp member
  exact find_none fresh old present (same.trans (by simpa using single))

theorem unique_update (keeps : ∀ row, key (change row) = key row)
    (unique : Unique key rows) : Unique key (update key rows k change) := by
  have same : (update key rows k change).map key = rows.map key := by
    unfold update
    rw [List.map_map]
    refine List.map_congr_left fun row _ => ?_
    dsimp only [Function.comp]
    split
    · exact keeps row
    · rfl
  unfold Unique
  rw [same]
  exact unique

-- UPDATE … SET every column of one row.
theorem unique_replace (keyed : key new = k) (unique : Unique key rows) :
    Unique key (update key rows k fun _ => new) := by
  have same : (update key rows k fun _ => new).map key = rows.map key := by
    unfold update
    rw [List.map_map]
    refine List.map_congr_left fun row _ => ?_
    dsimp only [Function.comp]
    split
    · rename_i here
      exact keyed.trans here.symm
    · rfl
  unfold Unique
  rw [same]
  exact unique

-- The same row keeps what another key reads off it.
theorem unique_replace_other {κ' : Type w} {other : ρ → κ'} (unique : Unique key rows)
    (found : find key rows k = some old) (same : other new = other old) (distinct : Unique other rows) :
    Unique other (update key rows k fun _ => new) := by
  have kept : (update key rows k fun _ => new).map other = rows.map other := by
    unfold update
    rw [List.map_map]
    refine List.map_congr_left fun row member => ?_
    dsimp only [Function.comp]
    split
    · rename_i here
      subst here
      cases found.symm.trans (find_of_mem unique member)
      exact same
    · rfl
  unfold Unique
  rw [kept]
  exact distinct

theorem update_update {first second : ρ → ρ} (keeps : ∀ row, key row = k → key (first row) = k) :
    update key (update key rows k first) k second = update key rows k fun row => second (first row) := by
  unfold update
  rw [List.map_map]
  refine List.map_congr_left fun row _ => ?_
  dsimp only [Function.comp]
  by_cases here : key row = k
  · simp [here,keeps row here]
  · simp [here]

-- Only the one row under the key is read.
theorem update_found (unique : Unique key rows)
    (found : find key rows k = some old) : update key rows k change = update key rows k fun _ => change old := by
  unfold update
  refine List.map_congr_left fun row member => ?_
  split
  · rename_i here
    subst here
    cases found.symm.trans (find_of_mem unique member)
    rfl
  · rfl

theorem find_replace (keyed : key new = k) (k' : κ) :
    find key (update key rows k fun _ => new) k' =
      if k' = k then (find key rows k').map fun _ => new else find key rows k' := by
  induction rows with
  | nil => simp [find,update]
  | cons head tail ih =>
    unfold find update at ih ⊢
    simp only [List.map_cons,List.find?_cons]
    by_cases here : key head = k
    · by_cases same : k = k'
      · subst same
        simp [here,keyed]
      · have other : ¬k' = k := fun back => same back.symm
        rw [if_neg other] at ih
        simpa [here,keyed,same,other] using ih
    · by_cases same : key head = k'
      · have other : ¬k' = k := fun back => here (same.trans back)
        simp [same,other]
      · simpa [here,same] using ih

theorem find_replaced (found : find key rows k = some old) (keyed : key new = key old) :
    find key (update key rows k fun _ => new) k = some new := by
  rw [find_replace (keyed.trans (find_some found).2),if_pos rfl,found]
  rfl

theorem unique_upsert {fresh : ρ} (keeps : ∀ row, key (change row) = key row)
    (unique : Unique key rows) (keyed : key fresh = k) : Unique key (upsert key rows k fresh change) := by
  unfold upsert
  split
  · exact unique_update keeps unique
  · rename_i missing
    have absent : find key rows k = none := by simpa using missing
    exact unique_insert unique (keyed ▸ absent)

theorem total_insert (measure : ρ → Int) (rows : List ρ) (row : ρ) :
    total measure (rows ++ [row]) = total measure rows + measure row := by
  simp [total]

-- Changing the one row under a key moves a total by what that row contributes.
theorem total_update (measure : ρ → Int) (unique : Unique key rows)
    (found : find key rows k = some old) :
    total measure (update key rows k change) = total measure rows - measure old + measure (change old) := by
  induction rows with
  | nil => cases found
  | cons head tail ih =>
    obtain ⟨fresh,rest⟩ := List.nodup_cons.mp unique
    by_cases here : key head = k
    · have same : head = old := by simpa [find,here] using found
      subst same
      have untouched : update key tail k change = tail := by
        unfold update
        conv_rhs => rw [←List.map_id tail]
        refine List.map_congr_left fun row member => ?_
        have differs : key row ≠ k := fun again => fresh (here.trans again.symm ▸ List.mem_map_of_mem member)
        simp [differs]
      have shape : update key (head :: tail) k change = change head :: tail := by
        unfold update at untouched ⊢
        rw [List.map_cons,if_pos here,untouched]
      rw [shape]
      simp only [total,List.map_cons,List.sum_cons]
      omega
    · have later : find key tail k = some old := by simpa [find,here] using found
      have tail_total := ih rest later
      simp only [total,update,List.map_cons,List.sum_cons,here,if_false] at tail_total ⊢
      omega

theorem total_filter (measure : ρ → Int) (chosen : ρ → Bool) (rows : List ρ) :
    total (fun row => if chosen row then measure row else 0) rows =
      ((rows.filter chosen).map measure).sum := by
  induction rows with
  | nil => rfl
  | cons head tail ih =>
    unfold total at ih ⊢
    by_cases taken : chosen head
    · simp [taken,ih]
    · simp [taken,ih]

theorem total_nonneg {measure : ρ → Int} (rows : List ρ) (positive : ∀ row, 0 ≤ measure row) :
    0 ≤ total measure rows := by
  unfold total
  refine List.sum_nonneg fun value member => ?_
  obtain ⟨row,_,rfl⟩ := List.mem_map.mp member
  exact positive row

end KeyedRows
