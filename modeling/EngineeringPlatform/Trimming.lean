import Mathlib.Data.List.DropRight
import Mathlib.Data.List.Infix
-- A list without the elements of a class at its two ends.
namespace Trimming
universe u
variable {α : Type u} {drop : α → Bool} {l : List α}

def trim (drop : α → Bool) (l : List α) : List α := (l.dropWhile drop).rdropWhile drop

-- The ends of a list are kept.
structure Solid (drop : α → Bool) (l : List α) : Prop where
  head : ∀ x, l.head? = some x → drop x = false
  last : ∀ x, l.getLast? = some x → drop x = false

theorem dropWhile_eq_self : l.dropWhile drop = l ↔ ∀ x, l.head? = some x → drop x = false := by
  cases l with
  | nil => simp
  | cons first rest =>
    constructor
    · intro kept x same
      cases same
      by_contra dropped
      have shorter := congrArg List.length kept
      rw [List.dropWhile_cons_of_pos (by simpa using dropped),List.length_cons] at shorter
      have bound := (List.dropWhile_sublist drop (l := rest)).length_le
      omega
    · intro solid
      exact List.dropWhile_cons_of_neg (by simp [solid first rfl])

theorem rdropWhile_eq_self : l.rdropWhile drop = l ↔ ∀ x, l.getLast? = some x → drop x = false := by
  rw [List.rdropWhile_eq_self_iff]
  constructor
  · intro solid x same
    have present : l ≠ [] := fun empty => by simp [empty] at same
    rw [List.getLast?_eq_some_getLast present] at same
    cases same
    simpa using solid present
  · intro solid present
    rw [solid _ (List.getLast?_eq_some_getLast present)]
    exact Bool.false_ne_true

theorem trim_solid : Solid drop (trim drop l) := by
  refine ⟨fun x same => ?_,rdropWhile_eq_self.mp (List.rdropWhile_idempotent _ _)⟩
  have solid := dropWhile_eq_self.mp (List.dropWhile_idempotent (p := drop) (l := l))
  obtain ⟨tail,whole⟩ := List.rdropWhile_prefix drop (l := l.dropWhile drop)
  apply solid
  rw [←whole]
  unfold trim at same
  rw [List.head?_append,same]
  rfl

theorem trim_eq_self : trim drop l = l ↔ Solid drop l := by
  constructor
  · intro kept
    rw [←kept]
    exact trim_solid
  · intro solid
    unfold trim
    rw [dropWhile_eq_self.mpr solid.head]
    exact rdropWhile_eq_self.mpr solid.last

theorem trim_trim : trim drop (trim drop l) = trim drop l := trim_eq_self.mpr trim_solid

theorem trim_inside : trim drop l <:+: l :=
  (List.rdropWhile_prefix drop _).isInfix.trans (List.dropWhile_suffix drop).isInfix

theorem trim_length_le : (trim drop l).length ≤ l.length := trim_inside.length_le

-- A list up to the first element of a class, and from it on.
def cut (stops : α → Bool) (l : List α) : List α × List α := (l.takeWhile (!stops ·),l.dropWhile (!stops ·))

def Free (stops : α → Bool) (l : List α) : Prop := ∀ x ∈ l, stops x = false

def Opens (stops : α → Bool) (l : List α) : Prop := ∀ x, l.head? = some x → stops x = true

section Cutting
variable {stops : α → Bool} {before after : List α}

theorem cut_append (l : List α) : (cut stops l).1 ++ (cut stops l).2 = l := List.takeWhile_append_dropWhile

theorem cut_free (l : List α) : Free stops (cut stops l).1 := by
  intro x member
  simpa using List.mem_takeWhile_imp member

theorem cut_opens (l : List α) : Opens stops (cut stops l).2 := by
  intro x first
  have head := dropWhile_eq_self.mp (List.dropWhile_idempotent (p := (!stops ·)) (l := l)) x first
  simpa using head

theorem cut_of_parts (free : Free stops before) (opens : Opens stops after) : cut stops (before ++ after) = (before,after) := by
  have kept : ∀ x ∈ before, (!stops x) = true := fun x member => by simp [free x member]
  have tail : after.dropWhile (!stops ·) = after := dropWhile_eq_self.mpr fun x first => by simp [opens x first]
  unfold cut
  rw [List.takeWhile_append_of_pos kept,List.dropWhile_append_of_pos kept,tail]
  cases after with
  | nil => simp
  | cons first rest => simp [opens first rfl]

theorem cut_of_free (free : Free stops before) : cut stops before = (before,[]) := by
  have parts := @cut_of_parts _ _ _ [] free nofun
  rwa [List.append_nil] at parts

theorem Free.append (one : Free stops before) (two : Free stops after) : Free stops (before ++ after) := by
  intro x member
  rcases List.mem_append.mp member with here | there
  · exact one x here
  · exact two x there

end Cutting

-- A list is cut in one way at a separator that the part before it does not hold.
theorem cut_unique {before before' after after' : List α} {separator : α} (free : separator ∉ before)
    (free' : separator ∉ before') (same : before ++ separator :: after = before' ++ separator :: after') :
    before = before' ∧ after = after' := by
  induction before generalizing before' with
  | nil =>
    cases before' with
    | nil => exact ⟨rfl,(List.cons.inj same).2⟩
    | cons first rest =>
      have here : separator = first := (List.cons.inj same).1
      exact absurd (here ▸ List.mem_cons_self) free'
  | cons first rest ih =>
    cases before' with
    | nil =>
      have here : first = separator := (List.cons.inj same).1
      exact absurd (here ▸ List.mem_cons_self) free
    | cons first' rest' =>
      obtain ⟨here,later⟩ := List.cons.inj same
      have absent (member : separator ∈ rest) := free (List.mem_cons_of_mem _ member)
      have absent' (member : separator ∈ rest') := free' (List.mem_cons_of_mem _ member)
      obtain ⟨tails,ends⟩ := ih absent absent' later
      exact ⟨by rw [here,tails],ends⟩
end Trimming
