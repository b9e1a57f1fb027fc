import EngineeringPlatform.KeyedRows
-- Rows that each carry a count, a limit and the instant they were made at. A row is
-- made when what was counted under its key since one window before stays below
-- its limit.
namespace WindowedCounts
universe u v
variable {ρ : Type u} {κ : Type v} [DecidableEq κ] {key : ρ → κ} {instant count limit : ρ → Int} {window : Int}

def countedSince (key : ρ → κ) (instant count : ρ → Int) (rows : List ρ) (k : κ) (start : Int) : Int :=
  ((rows.filter fun row => key row = k ∧ start ≤ instant row).map count).sum

def within (key : ρ → κ) (instant : ρ → Int) (window : Int) (rows : List ρ) (k : κ) (start : Int) : List ρ :=
  rows.filter fun row => key row = k ∧ start ≤ instant row ∧ instant row ≤ start + window

inductive Bounded (key : ρ → κ) (instant count limit : ρ → Int) (window : Int) : List ρ → Prop where
  | nil : Bounded key instant count limit window []
  | snoc (earlier : Bounded key instant count limit window rows) (latest : ∀ row ∈ rows, instant row ≤ instant fresh)
    (forward : 0 ≤ count fresh)
    (fits : countedSince key instant count rows (key fresh) (instant fresh - window) + count fresh ≤ limit fresh) :
    Bounded key instant count limit window (rows ++ [fresh])

theorem Bounded.forward {rows : List ρ} (bounded : Bounded key instant count limit window rows) :
    ∀ row ∈ rows, 0 ≤ count row := by
  induction bounded with
  | nil => exact fun _ absurd => by cases absurd
  | snoc earlier latest forward fits ih =>
    intro row member
    rcases List.mem_append.mp member with known | single
    · exact ih row known
    · exact List.mem_singleton.mp single ▸ forward

-- Counting fewer rows counts less.
theorem filter_sum_le {rows : List ρ} {narrow wide : ρ → Bool} (forward : ∀ row ∈ rows, 0 ≤ count row)
    (wider : ∀ row ∈ rows, narrow row = true → wide row = true) :
    ((rows.filter narrow).map count).sum ≤ ((rows.filter wide).map count).sum := by
  rw [←KeyedRows.total_filter,←KeyedRows.total_filter]
  refine List.sum_le_sum fun row member => ?_
  by_cases inside : narrow row = true
  · rw [if_pos inside,if_pos (wider row member inside)]
  · rw [if_neg inside]
    split
    · exact forward row member
    · exact le_refl _

theorem countedSince_forward {rows : List ρ} (bounded : Bounded key instant count limit window rows) (k : κ) (start : Int) :
    0 ≤ countedSince key instant count rows k start := by
  have none : ((rows.filter fun _ => false).map count).sum ≤ countedSince key instant count rows k start :=
    filter_sum_le bounded.forward fun _ _ absurd => by cases absurd
  simpa using none

-- In every window of the length the rows of one key count no more than the limit
-- of the last of them.
theorem Bounded.window_le {rows : List ρ} (bounded : Bounded key instant count limit window rows) (k : κ) (start : Int) :
    within key instant window rows k start = [] ∨
      ∃ last ∈ within key instant window rows k start,
        (∀ other ∈ within key instant window rows k start, instant other ≤ instant last) ∧
          ((within key instant window rows k start).map count).sum ≤ limit last := by
  induction bounded with
  | nil => exact .inl rfl
  | snoc earlier latest forward fits ih =>
    rename_i rows fresh
    unfold within at ih ⊢
    rw [List.filter_append]
    by_cases inside : key fresh = k ∧ start ≤ instant fresh ∧ instant fresh ≤ start + window
    · right
      obtain ⟨rfl,after,before⟩ := inside
      have single : [fresh].filter (fun row => decide (key row = key fresh ∧ start ≤ instant row ∧
          instant row ≤ start + window)) = [fresh] := by simp [after,before]
      rw [single]
      refine ⟨fresh,by simp,fun other member => ?_,?_⟩
      · rcases List.mem_append.mp member with known | same
        · exact latest other (List.mem_of_mem_filter known)
        · rw [List.mem_singleton.mp same]
      · have fewer : ((rows.filter fun row => decide (key row = key fresh ∧ start ≤ instant row ∧
            instant row ≤ start + window)).map count).sum ≤
              countedSince key instant count rows (key fresh) (instant fresh - window) := by
          refine filter_sum_le earlier.forward fun row _ chosen => ?_
          simp only [decide_eq_true_eq] at chosen ⊢
          exact ⟨chosen.1,by omega⟩
        simp only [List.map_append,List.sum_append,List.map_cons,List.map_nil,List.sum_cons,List.sum_nil]
        omega
    · have none : [fresh].filter (fun row => decide (key row = k ∧ start ≤ instant row ∧
          instant row ≤ start + window)) = [] := by
        rw [List.filter_singleton]
        simp [inside]
      rw [none,List.append_nil]
      exact ih

end WindowedCounts
