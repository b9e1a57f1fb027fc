import Mathlib.Data.List.Nodup
-- Rows ranked by a strict order, newest first, of which only the first ones are
-- kept: row_number() OVER (ORDER BY …) against a cap.
namespace RankedRows
universe u
variable {ρ : Type u} {newer : ρ → ρ → Bool} {rows : List ρ}

def rank (newer : ρ → ρ → Bool) (rows : List ρ) (row : ρ) : Nat := rows.countP fun other => newer other row

-- ORDER BY … LIMIT 1
def top (newer : ρ → ρ → Bool) : List ρ → Option ρ
  | [] => none
  | row :: rest =>
    match top newer rest with
    | none => some row
    | some best => some (if newer best row then best else row)

theorem top_mem (found : top newer rows = some best) : best ∈ rows := by
  induction rows generalizing best with
  | nil => cases found
  | cons row rest ih =>
    simp only [top] at found
    split at found
    · cases Option.some.inj found
      exact List.mem_cons_self
    · rename_i other there
      cases Option.some.inj found
      split
      · exact List.mem_cons_of_mem _ (ih there)
      · exact List.mem_cons_self

theorem top_none : top newer rows = none ↔ rows = [] := by
  cases rows with
  | nil => simp [top]
  | cons row rest =>
    simp only [top]
    split <;> simp

structure Ranking (newer : ρ → ρ → Bool) (rows : List ρ) : Prop where
  irrefl : ∀ row, newer row row = false
  trans : ∀ one two three, newer one two = true → newer two three = true → newer one three = true
  total : ∀ one ∈ rows, ∀ two ∈ rows, one ≠ two → newer one two = true ∨ newer two one = true

theorem Ranking.sublist (ranking : Ranking newer rows) (part : other.Sublist rows) : Ranking newer other :=
  ⟨ranking.irrefl,ranking.trans,fun one first two second =>
    ranking.total one (part.subset first) two (part.subset second)⟩

section
variable [DecidableEq ρ]

theorem countP_erase {chosen : ρ → Bool} (member : row ∈ rows) :
    rows.countP chosen = (rows.erase row).countP chosen + if chosen row then 1 else 0 := by
  rw [(List.perm_cons_erase member).countP_eq,List.countP_cons]

-- A newer row has fewer rows before it.
theorem rank_lt (ranking : Ranking newer rows) (member : one ∈ rows) (before : newer one two = true) :
    rank newer rows one < rank newer rows two := by
  unfold rank
  rw [countP_erase member,countP_erase member,ranking.irrefl one,before]
  have others : (rows.erase one).countP (fun row => newer row one) ≤
      (rows.erase one).countP (fun row => newer row two) :=
    List.countP_mono_left fun row _ first => ranking.trans _ _ _ first before
  simp only [Bool.false_eq_true,if_false,if_true]
  omega

omit [DecidableEq ρ] in
theorem exists_oldest (ranking : Ranking newer rows) (some : rows ≠ []) :
    ∃ oldest ∈ rows, ∀ row ∈ rows, row ≠ oldest → newer row oldest = true := by
  induction rows with
  | nil => exact absurd rfl some
  | cons head tail ih =>
    by_cases last : tail = []
    · subst last
      exact ⟨head,by simp,fun row member differs => absurd (List.mem_singleton.mp member) differs⟩
    · obtain ⟨oldest,there,after⟩ := ih (ranking.sublist (List.sublist_cons_self _ _)) last
      by_cases same : head = oldest
      · subst same
        refine ⟨head,by simp,fun row member differs => ?_⟩
        exact after row ((List.mem_cons.mp member).resolve_left differs) differs
      · rcases ranking.total head (by simp) oldest (by simp [there]) same with first | second
        · refine ⟨oldest,by simp [there],fun row member differs => ?_⟩
          rcases List.mem_cons.mp member with rfl | later
          · exact first
          · exact after row later differs
        · refine ⟨head,by simp,fun row member differs => ?_⟩
          have later := (List.mem_cons.mp member).resolve_left differs
          by_cases here : row = oldest
          · exact here ▸ second
          · exact ranking.trans _ _ _ (after row later here) second

-- The rows within the cap are no more than the cap.
theorem kept_le (ranking : Ranking newer rows) (nodup : rows.Nodup) (cap : Nat) :
    rows.countP (fun row => rank newer rows row < cap) ≤ cap := by
  by_cases none : rows.filter (fun row => rank newer rows row < cap) = []
  · rw [List.countP_eq_length_filter,none]
    exact Nat.zero_le _
  · obtain ⟨oldest,kept,after⟩ := exists_oldest (ranking.sublist List.filter_sublist) none
    obtain ⟨member,within⟩ := List.mem_filter.mp kept
    simp only [decide_eq_true_eq] at within
    have others : (rows.erase oldest).countP (fun row => rank newer rows row < cap) ≤ rank newer rows oldest := by
      refine Nat.le_trans (List.countP_mono_left fun row there chosen => ?_) (List.erase_sublist.countP_le)
      have differs : row ≠ oldest := fun same => (List.Nodup.not_mem_erase nodup) (same ▸ there)
      exact after row (List.mem_filter.mpr ⟨List.mem_of_mem_erase there,chosen⟩) differs
    rw [countP_erase member]
    split
    · omega
    · omega

-- No row ranks before the one on top.
omit [DecidableEq ρ] in
theorem top_first (ranking : Ranking newer rows) (found : top newer rows = some best) :
    ∀ row ∈ rows, newer row best = false := by
  induction rows generalizing best with
  | nil => simp
  | cons head tail ih =>
    intro row member
    have before := ranking.sublist (List.sublist_cons_self head tail)
    simp only [top] at found
    split at found
    · rename_i empty
      cases Option.some.inj found
      cases top_none.mp empty
      cases List.mem_singleton.mp member
      exact ranking.irrefl _
    · rename_i other there
      have best_tail := ih before there
      cases Option.some.inj found
      split
      · rename_i first
        rcases List.mem_cons.mp member with rfl | later
        · by_contra back
          have loop := ranking.trans _ _ _ first (by simpa using back)
          exact absurd (ranking.irrefl other) (by simp [loop])
        · exact best_tail row later
      · rename_i second
        rcases List.mem_cons.mp member with rfl | later
        · exact ranking.irrefl _
        · by_contra earlier
          by_cases same : other = row
          · subst same
            exact second (by simpa using earlier)
          · rcases ranking.total other (List.mem_cons_of_mem _ (top_mem there)) row (List.mem_cons_of_mem _ later)
              same with front | back
            · exact second (ranking.trans _ _ _ front (by simpa using earlier))
            · exact absurd (best_tail row later) (by simp [back])

-- What falls outside the cap is not newer than what stays within it.
theorem not_newer (ranking : Ranking newer rows) (outside : gone ∈ rows) (beyond : cap ≤ rank newer rows gone)
    (within : rank newer rows kept < cap) : newer gone kept = false := by
  by_contra before
  have earlier := rank_lt ranking outside (by simpa using before)
  omega

end
end RankedRows
