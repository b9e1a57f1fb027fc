import Mathlib.Algebra.BigOperators.Group.List.Basic
import Mathlib.Algebra.GroupWithZero.Nat
import Mathlib.Data.List.Perm.Basic
-- `drawn` is made of the items of `parts`, each taken once and those of one
-- part in the part's own order.
universe u
variable {α : Type u}

inductive Interleaves : List (List α) → List α → Prop
  | nothing (count : Nat) : Interleaves (List.replicate count []) []
  | draw {front : List (List α)} {part : List α} {back : List (List α)} {drawn : List α} (item : α)
      (earlier : Interleaves (front ++ part :: back) drawn) :
      Interleaves (front ++ (part ++ [item]) :: back) (drawn ++ [item])

namespace Interleaves
variable {parts : List (List α)} {drawn : List α}

theorem perm (interleaves : Interleaves parts drawn) : drawn.Perm parts.flatten := by
  induction interleaves with
  | nothing count => simp
  | @draw front part back drawn item earlier ih =>
    have last : (drawn ++ [item]).Perm (item :: (front ++ part :: back).flatten) :=
      (List.perm_append_singleton item drawn).trans (ih.cons item)
    refine last.trans ?_
    simp only [List.flatten_append,List.flatten_cons,List.append_assoc,List.singleton_append]
    refine List.perm_middle.symm.trans (List.Perm.append_left _ ?_)
    exact List.perm_middle.symm

theorem length (interleaves : Interleaves parts drawn) : drawn.length = (parts.map List.length).sum := by
  rw [interleaves.perm.length_eq,List.length_flatten]
end Interleaves
