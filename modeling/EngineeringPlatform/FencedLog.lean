import EngineeringPlatform.Runs
import EngineeringPlatform.Table
import Mathlib.Data.List.Range
-- Append-only logs whose owners pass through generations. Each owner has one
-- cursor, the generation it is in and how many entries it has in that
-- generation; a new generation starts counting from zero.
namespace FencedLog
open TransitionRuns
universe u v
variable {κ : Type u} {α : Type v}

structure Coordinates (κ : Type u) (α : Type v) where
  owner : α → κ
  generation : α → Nat
  sequence : α → Nat

structure Cursor where
  generation : Nat
  sequence : Nat

structure State (κ : Type u) (α : Type v) where
  cursors : Table κ Cursor
  log : List α

variable [DecidableEq κ] (coords : Coordinates κ α)

def entries (log : List α) (key : κ) (generation : Nat) : List α :=
  log.filter fun entry => coords.owner entry = key ∧ coords.generation entry = generation

def stream (log : List α) (key : κ) (generation : Nat) : List Nat :=
  (entries coords log key generation).map coords.sequence

inductive Step : State κ α → Unit → State κ α → Prop where
  | stay : Step s () s
  | opened (entry : α) (fresh : s.cursors (coords.owner entry) = none) (first : coords.sequence entry = 1) :
      Step s () ⟨s.cursors.put (coords.owner entry) ⟨coords.generation entry,1⟩,s.log ++ [entry]⟩
  | appended (entry : α) (cursor : Cursor) (found : s.cursors (coords.owner entry) = some cursor)
      (current : coords.generation entry = cursor.generation)
      (next : coords.sequence entry = cursor.sequence + 1) :
      Step s () ⟨s.cursors.put (coords.owner entry) ⟨cursor.generation,cursor.sequence + 1⟩,s.log ++ [entry]⟩
  | advanced (key : κ) (cursor : Cursor) (found : s.cursors key = some cursor) :
      Step s () ⟨s.cursors.put key ⟨cursor.generation + 1,0⟩,s.log⟩

structure Valid (s : State κ α) : Prop where
  owned : ∀ entry ∈ s.log, ∃ cursor, s.cursors (coords.owner entry) = some cursor ∧
    coords.generation entry ≤ cursor.generation
  gapless : ∀ key generation, ∃ n, stream coords s.log key generation = List.range' 1 n
  counted : ∀ key cursor, s.cursors key = some cursor →
    stream coords s.log key cursor.generation = List.range' 1 cursor.sequence

theorem initial_valid : Valid coords (⟨Table.empty,[]⟩ : State κ α) := by
  refine ⟨?_,?_,?_⟩
  · intro entry member
    cases member
  · intro key generation
    exact ⟨0,rfl⟩
  · intro key cursor found
    cases found

theorem entries_append (log : List α) (entry : α) (key : κ) (generation : Nat) :
    entries coords (log ++ [entry]) key generation = entries coords log key generation ++
      if coords.owner entry = key ∧ coords.generation entry = generation then [entry] else [] := by
  unfold entries
  rw [List.filter_append]
  by_cases here : coords.owner entry = key ∧ coords.generation entry = generation <;> simp [here]

theorem stream_append_here (log : List α) (entry : α) :
    stream coords (log ++ [entry]) (coords.owner entry) (coords.generation entry) =
      stream coords log (coords.owner entry) (coords.generation entry) ++ [coords.sequence entry] := by
  simp [stream,entries_append]

theorem stream_append_elsewhere (log : List α) (entry : α) {key : κ} {generation : Nat}
    (elsewhere : ¬(coords.owner entry = key ∧ coords.generation entry = generation)) :
    stream coords (log ++ [entry]) key generation = stream coords log key generation := by
  simp [stream,entries_append,elsewhere]

-- No entry lies in a generation its owner has not reached yet.
theorem unreached_empty {s : State κ α} (valid : Valid coords s)
    (ahead : ∀ cursor, s.cursors key = some cursor → cursor.generation < generation) :
    entries coords s.log key generation = [] := by
  apply List.filter_eq_nil_iff.mpr
  intro entry member
  obtain ⟨cursor,found,bound⟩ := valid.owned entry member
  rw [decide_eq_true_eq]
  rintro ⟨rfl,rfl⟩
  exact absurd (ahead cursor found) (Nat.not_lt.mpr bound)

theorem append_valid {s : State κ α} (valid : Valid coords s) (entry : α) (count : Nat)
    (bound : ∀ cursor, s.cursors (coords.owner entry) = some cursor →
      cursor.generation ≤ coords.generation entry)
    (filled : stream coords s.log (coords.owner entry) (coords.generation entry) = List.range' 1 count)
    (next : coords.sequence entry = count + 1) :
    Valid coords ⟨s.cursors.put (coords.owner entry) ⟨coords.generation entry,count + 1⟩,s.log ++ [entry]⟩ := by
  have extended : stream coords (s.log ++ [entry]) (coords.owner entry) (coords.generation entry) =
      List.range' 1 (count + 1) := by
    rw [stream_append_here,filled,next,List.range'_concat]
    simp [Nat.add_comm]
  refine ⟨?_,?_,?_⟩
  · intro other member
    by_cases same : coords.owner other = coords.owner entry
    · refine ⟨⟨coords.generation entry,count + 1⟩,by simp [same],?_⟩
      rcases List.mem_append.mp member with old | new
      · obtain ⟨cursor,found,reached⟩ := valid.owned other old
        rw [same] at found
        exact Nat.le_trans reached (bound cursor found)
      · rw [List.mem_singleton.mp new]
    · rcases List.mem_append.mp member with old | new
      · obtain ⟨cursor,found,reached⟩ := valid.owned other old
        exact ⟨cursor,by simpa [Table.put_other _ _ same] using found,reached⟩
      · exact absurd (congrArg coords.owner (List.mem_singleton.mp new)) same
  · intro key generation
    by_cases here : coords.owner entry = key ∧ coords.generation entry = generation
    · obtain ⟨rfl,rfl⟩ := here
      exact ⟨count + 1,extended⟩
    · obtain ⟨n,old⟩ := valid.gapless key generation
      exact ⟨n,by simpa [stream_append_elsewhere _ _ _ here] using old⟩
  · intro key cursor found
    rcases Table.put_some found with ⟨rfl,rfl⟩ | ⟨other,stored⟩
    · exact extended
    · have elsewhere : ¬(coords.owner entry = key ∧ coords.generation entry = cursor.generation) :=
        fun here => other here.1.symm
      simpa [stream_append_elsewhere _ _ _ elsewhere] using valid.counted key cursor stored

theorem step_valid : Preserves (Step coords) (Valid coords) := by
  intro s _ next valid step
  cases step with
  | stay => exact valid
  | opened entry fresh first =>
    have none_yet : stream coords s.log (coords.owner entry) (coords.generation entry) = List.range' 1 0 := by
      unfold stream
      rw [unreached_empty coords valid (fun cursor found => by rw [fresh] at found; cases found)]
      rfl
    exact append_valid coords valid entry 0 (fun cursor found => by rw [fresh] at found; cases found)
      none_yet first
  | appended entry cursor found current next =>
    have filled := valid.counted _ _ found
    rw [←current] at filled ⊢
    refine append_valid coords valid entry cursor.sequence ?_ filled next
    intro other same
    rw [found] at same
    cases same
    exact Nat.le_of_eq current.symm
  | advanced key cursor found =>
    refine ⟨?_,valid.gapless,?_⟩
    · intro entry member
      obtain ⟨old,stored,reached⟩ := valid.owned entry member
      by_cases same : coords.owner entry = key
      · subst same
        rw [found] at stored
        cases stored
        exact ⟨_,Table.put_same _ _ _,Nat.le_succ_of_le reached⟩
      · exact ⟨old,by simpa [Table.put_other _ _ same] using stored,reached⟩
    · intro key' cursor' stored
      rcases Table.put_some stored with ⟨rfl,rfl⟩ | ⟨_,old⟩
      · unfold stream
        rw [unreached_empty coords valid]
        · rfl
        · intro cursor' same
          rw [found] at same
          cases same
          exact Nat.lt_succ_self _
      · exact valid.counted key' cursor' old

-- Generations only grow, and a generation that was left is closed for good.
structure Forward (before after : State κ α) : Prop where
  cursors : Table.Advances (fun old new => old.generation ≤ new.generation) before.cursors after.cursors
  closed : ∀ key cursor, before.cursors key = some cursor → ∀ generation < cursor.generation,
    entries coords after.log key generation = entries coords before.log key generation

theorem Forward.refl (s : State κ α) : Forward coords s s :=
  ⟨.refl (fun row => Nat.le_refl row.generation) _,fun _ _ _ _ _ => rfl⟩

theorem Forward.trans {a b c : State κ α} (left : Forward coords a b) (right : Forward coords b c) :
    Forward coords a c := by
  refine ⟨left.cursors.trans (fun _ _ _ => Nat.le_trans) right.cursors,?_⟩
  intro key cursor found generation below
  obtain ⟨middle,kept,grown⟩ := left.cursors key cursor found
  rw [right.closed key middle kept generation (Nat.lt_of_lt_of_le below grown)]
  exact left.closed key cursor found generation below

theorem step_forward {s next : State κ α} (step : Step coords s label next) : Forward coords s next := by
  cases step with
  | stay => exact .refl coords s
  | opened entry fresh first =>
    refine ⟨.put (fun _ => Nat.le_refl _) (fun old found => by rw [fresh] at found; cases found),?_⟩
    intro key cursor found generation below
    have elsewhere : ¬(coords.owner entry = key ∧ coords.generation entry = generation) := by
      rintro ⟨rfl,_⟩
      rw [fresh] at found
      cases found
    simp [entries_append,elsewhere]
  | appended entry cursor found current next =>
    refine ⟨.put (fun _ => Nat.le_refl _) (fun old same => ?_),?_⟩
    · rw [found] at same
      cases same
      exact Nat.le_refl _
    · intro key other stored generation below
      have elsewhere : ¬(coords.owner entry = key ∧ coords.generation entry = generation) := by
        rintro ⟨rfl,rfl⟩
        rw [found] at stored
        cases stored
        omega
      simp [entries_append,elsewhere]
  | advanced key cursor found =>
    refine ⟨.put (fun _ => Nat.le_refl _) (fun old same => ?_),fun _ _ _ _ _ => rfl⟩
    rw [found] at same
    cases same
    exact Nat.le_succ _

theorem runs_valid (path : Runs (Step coords) s labels next) (valid : Valid coords s) :
    Valid coords next :=
  path.invariant (step_valid coords) valid

theorem runs_forward {s next : State κ α} (path : Runs (Step coords) s labels next)
    (valid : Valid coords s) : Forward coords s next :=
  path.relation (step_valid coords) (Forward.refl coords) (fun _ _ _ => Forward.trans coords)
    (fun _ _ _ _ step => step_forward coords step) valid

end FencedLog
