import Mathlib.Logic.Relation
import Mathlib.Data.List.Dedup
import Mathlib.Data.List.Perm.Subperm
-- A set that grows by the successors of its members until it has them all. In a
-- finite universe the growth comes to an end, and what it ends with is what can be
-- reached from the seed.
namespace Frontier
universe u
variable {α : Type u} [DecidableEq α] (successors : List α → List α)

def fresh (seen : List α) : List α := ((successors seen).filter (· ∉ seen)).dedup

def grow : Nat → List α → List α
  | 0,seen => seen
  | rounds + 1,seen => if fresh successors seen = [] then seen else grow rounds (seen ++ fresh successors seen)

def Closed (seen : List α) : Prop := ∀ one ∈ successors seen, one ∈ seen

variable {successors} {seen : List α} {rel : α → α → Prop}

theorem mem_fresh {one : α} : one ∈ fresh successors seen ↔ one ∈ successors seen ∧ one ∉ seen := by
  unfold fresh
  rw [List.mem_dedup,List.mem_filter,decide_eq_true_eq]

theorem closed_fresh : Closed successors seen ↔ fresh successors seen = [] := by
  rw [List.eq_nil_iff_forall_not_mem]
  constructor
  · intro closed one member
    obtain ⟨next,outside⟩ := mem_fresh.mp member
    exact outside (closed one next)
  · intro none one next
    by_contra outside
    exact none one (mem_fresh.mpr ⟨next,outside⟩)

theorem grown_nodup (distinct : seen.Nodup) : (seen ++ fresh successors seen).Nodup :=
  List.nodup_append.mpr ⟨distinct,List.nodup_dedup _,fun _ inside _ new same => (mem_fresh.mp new).2 (same ▸ inside)⟩

theorem grow_nodup (rounds : Nat) (distinct : seen.Nodup) : (grow successors rounds seen).Nodup := by
  induction rounds generalizing seen with
  | zero => exact distinct
  | succ rounds ih =>
    unfold grow
    split
    · exact distinct
    · exact ih (grown_nodup distinct)

theorem subset_grow (rounds : Nat) : seen ⊆ grow successors rounds seen := by
  induction rounds generalizing seen with
  | zero => exact List.Subset.refl _
  | succ rounds ih =>
    unfold grow
    split
    · exact List.Subset.refl _
    · exact List.Subset.trans (List.subset_append_left _ _) ih

-- Each round but the last adds a member of the universe.
theorem grow_closed {all : List α} (bounded : ∀ seen, successors seen ⊆ all) (rounds : Nat) (distinct : seen.Nodup)
    (inside : seen ⊆ all) (enough : all.length < rounds + seen.length) : Closed successors (grow successors rounds seen) := by
  induction rounds generalizing seen with
  | zero =>
    have short := (distinct.subperm inside).length_le
    omega
  | succ rounds ih =>
    unfold grow
    split
    · rename_i none
      exact closed_fresh.mpr none
    · rename_i some
      have more : 0 < (fresh successors seen).length := List.length_pos_iff.mpr some
      refine ih (grown_nodup distinct) (List.append_subset.mpr ⟨inside,fun one new => ?_⟩) ?_
      · exact bounded seen (mem_fresh.mp new).1
      · rw [List.length_append]
        omega

theorem grow_sound {seed : α} (follows : ∀ seen one, one ∈ successors seen → ∃ before ∈ seen, rel before one) (rounds : Nat)
    (reached : ∀ one ∈ seen, Relation.ReflTransGen rel seed one) :
    ∀ one ∈ grow successors rounds seen, Relation.ReflTransGen rel seed one := by
  induction rounds generalizing seen with
  | zero => exact reached
  | succ rounds ih =>
    unfold grow
    split
    · exact reached
    · refine ih fun one member => ?_
      rcases List.mem_append.mp member with old | new
      · exact reached one old
      · obtain ⟨before,inside,step⟩ := follows seen one (mem_fresh.mp new).1
        exact (reached before inside).tail step

omit [DecidableEq α] in
theorem closed_complete {seed : α} (closed : Closed successors seen) (inside : seed ∈ seen)
    (follows : ∀ one ∈ seen, ∀ next, rel one next → next ∈ successors seen) (path : Relation.ReflTransGen rel seed last) :
    last ∈ seen := by
  induction path with
  | refl => exact inside
  | tail _ step ih => exact closed _ (follows _ ih _ step)

-- What the growth from one seed ends with.
theorem mem_grow {seed last : α} {all : List α} (bounded : ∀ seen, successors seen ⊆ all)
    (follows : ∀ seen one, one ∈ successors seen ↔ ∃ before ∈ seen, rel before one) {rounds : Nat}
    (enough : all.length < rounds) : last ∈ grow successors rounds [seed] ↔ Relation.ReflTransGen rel seed last := by
  constructor
  · refine grow_sound (fun seen one => (follows seen one).mp) rounds (fun one member => ?_) last
    cases List.mem_singleton.mp member
    exact .refl
  · have wider : ∀ seen, successors seen ⊆ seed :: all := fun seen => List.Subset.trans (bounded seen) (List.subset_cons_self _ _)
    have closed := grow_closed wider rounds (List.nodup_singleton seed)
      (List.cons_subset.mpr ⟨List.mem_cons_self,List.nil_subset _⟩) (by simp only [List.length_cons,List.length_nil]; omega)
    refine closed_complete closed (subset_grow rounds (List.mem_singleton_self seed)) fun one inside next step => ?_
    exact (follows _ next).mpr ⟨one,inside,step⟩

end Frontier
