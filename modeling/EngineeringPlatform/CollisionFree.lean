import Mathlib.Data.Countable.Basic
import Mathlib.Data.List.Basic
import Mathlib.Logic.Equiv.List
-- A hash without collisions that is short on a few chosen values.
namespace CollisionFree
universe u
variable {α : Type u} [Countable α] [DecidableEq α]

instance countableChar : Countable Char :=
  Function.Injective.countable (f := Char.toNat) fun _ _ same => Char.ext (UInt32.toNat_inj.mp same)
instance countableString : Countable String := Function.Injective.countable (f := String.toList) fun _ _ => String.toList_injective

noncomputable def code (chosen : List α) (value : α) : Nat :=
  if value ∈ chosen then chosen.idxOf value else chosen.length + Classical.choose (exists_injective_nat α) value

noncomputable def hash (chosen : List α) (value : α) : String := String.ofList (List.replicate (code chosen value) 'h')

theorem code_injective (chosen : List α) : Function.Injective (code chosen) := by
  intro one two same
  unfold code at same
  split_ifs at same with first second second
  · exact (List.idxOf_inj first).mp same
  · have below := List.idxOf_lt_length_of_mem first
    omega
  · have below := List.idxOf_lt_length_of_mem second
    omega
  · exact Classical.choose_spec (exists_injective_nat α) (Nat.add_left_cancel same)

theorem hash_injective (chosen : List α) : Function.Injective (hash chosen) := by
  intro one two same
  have long := congrArg String.length same
  simp only [hash,String.length_ofList,List.length_replicate] at long
  exact code_injective chosen long

end CollisionFree
