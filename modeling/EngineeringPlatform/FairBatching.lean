import EngineeringPlatform.Interleaving
import Mathlib.Algebra.Order.BigOperators.Group.List
import Mathlib.Algebra.Order.Group.Nat
import Mathlib.Algebra.Order.Ring.Int
namespace SourceControl
universe u
variable {α : Type u}

-- `divmod` raises on a lane count of zero.
def laneLimits (limit : Int) (laneCount : Nat) : Option (List Int) :=
  if laneCount = 0 then none
  else
    let quotient := limit / laneCount
    let remainder := limit % laneCount
    some ((List.range laneCount).map fun (index : Nat) => quotient + if (index : Int) < remainder then 1 else 0)

-- One lane of the round robin with its entry of `offsets`.
structure Cursor (α : Type u) where
  lane : List α
  offset : Nat
  within : offset ≤ lane.length

namespace Cursor
def start (lane : List α) : Cursor α := ⟨lane,0,Nat.zero_le _⟩

def taken (cursor : Cursor α) : List α := cursor.lane.take cursor.offset

def Open (cursor : Cursor α) : Prop := cursor.offset < cursor.lane.length
end Cursor

-- The `for` over the lanes: the cursors after it, `selected` and `added`.
def pass (limit : Int) : List (Cursor α) → List α → List (Cursor α) × List α × Bool
  | [],selected => ([],selected,false)
  | cursor :: rest,selected =>
    if limit ≤ selected.length then (cursor :: rest,selected,false)
    else if available : cursor.offset < cursor.lane.length then
      let later := pass limit rest (selected ++ [cursor.lane[cursor.offset]])
      (⟨cursor.lane,cursor.offset + 1,available⟩ :: later.1,later.2.1,true)
    else
      let later := pass limit rest selected
      (cursor :: later.1,later.2.1,later.2.2)

theorem pass_extends (limit : Int) (cursors : List (Cursor α)) (selected : List α) :
    ∃ more, (pass limit cursors selected).2.1 = selected ++ more ∧
      ((pass limit cursors selected).2.2 = true → more ≠ []) := by
  induction cursors generalizing selected with
  | nil => exact ⟨[],by simp [pass],by simp [pass]⟩
  | cons cursor rest ih =>
    unfold pass
    split
    · exact ⟨[],by simp,by simp⟩
    · split
      · obtain ⟨more,grown,_⟩ := ih (selected ++ [cursor.lane[cursor.offset]])
        exact ⟨cursor.lane[cursor.offset] :: more,by simp [grown],by simp⟩
      · exact ih selected

variable {limit : Int} {cursors : List (Cursor α)} {limits : List Int}

theorem pass_grows {selected : List α}
    (added : (pass limit cursors selected).2.2 = true) :
    selected.length < (pass limit cursors selected).2.1.length := by
  obtain ⟨more,grown,some⟩ := pass_extends limit cursors selected
  have positive := List.length_pos_of_ne_nil (some added)
  rw [grown,List.length_append]
  omega

-- The `while`: every round that adds nothing is the last one.
def rounds (limit : Int) (cursors : List (Cursor α)) (selected : List α) : List (Cursor α) × List α :=
  if short : (selected.length : Int) < limit then
    if added : (pass limit cursors selected).2.2 = true then
      rounds limit (pass limit cursors selected).1 (pass limit cursors selected).2.1
    else ((pass limit cursors selected).1,(pass limit cursors selected).2.1)
  else (cursors,selected)
termination_by limit.toNat - selected.length
decreasing_by
  have grown := pass_grows added
  omega

def roundRobinCandidates (lanes : List (List α)) (limit : Int) : List α :=
  (rounds limit (lanes.map Cursor.start) []).2

-- `_pending_process_candidates`: a lane whose query failed counts as empty.
def pendingProcessCandidates {ε : Type u} (selectors : List (Int → Except ε (List α))) (limit : Int) :
    Option (List α × List ε) :=
  (laneLimits limit selectors.length).map fun limits =>
    let found := List.zipWith (fun select quota => (select quota).map (List.take quota.toNat)) selectors limits
    (roundRobinCandidates (found.map fun rows => rows.toOption.getD []) limit,
      found.filterMap fun rows => match rows with | .error failure => some failure | .ok _ => none)

namespace Cursor
-- Every lane was visited `round` times, and perhaps once more.
def Level (round : Nat) (cursor : Cursor α) : Prop := cursor.offset = min round cursor.lane.length

def Visited (round : Nat) (cursor : Cursor α) : Prop := Level round cursor ∨ Level (round + 1) cursor

theorem Visited.bounds {round : Nat} {cursor : Cursor α} (visited : Visited round cursor) :
    min round cursor.lane.length ≤ cursor.offset ∧ cursor.offset ≤ min (round + 1) cursor.lane.length := by
  unfold Visited Level at visited
  omega
end Cursor

theorem pass_lanes (limit : Int) (cursors : List (Cursor α)) (selected : List α) :
    (pass limit cursors selected).1.map Cursor.lane = cursors.map Cursor.lane := by
  induction cursors generalizing selected with
  | nil => rfl
  | cons cursor rest ih => unfold pass; split <;> [rfl; (split <;> simp [ih])]

theorem pass_within {selected : List α}
    (within : (selected.length : Int) ≤ limit) : ((pass limit cursors selected).2.1.length : Int) ≤ limit := by
  induction cursors generalizing selected with
  | nil => exact within
  | cons cursor rest ih =>
    unfold pass
    split
    · exact within
    · split
      · exact ih (by simp only [List.length_append,List.length_singleton]; omega)
      · exact ih within

theorem pass_interleaves {front : List (List α)} {selected : List α}
    (interleaves : Interleaves (front ++ cursors.map Cursor.taken) selected) :
    Interleaves (front ++ (pass limit cursors selected).1.map Cursor.taken) (pass limit cursors selected).2.1 := by
  induction cursors generalizing front selected with
  | nil => exact interleaves
  | cons cursor rest ih =>
    unfold pass
    split
    · exact interleaves
    · split
      · rename_i available
        have drawn := interleaves.draw cursor.lane[cursor.offset]
        have grown : cursor.taken ++ [cursor.lane[cursor.offset]] = cursor.lane.take (cursor.offset + 1) :=
          List.take_append_getElem available
        rw [grown,List.append_cons] at drawn
        simpa [Cursor.taken] using ih drawn
      · rw [List.map_cons,List.append_cons] at interleaves
        simpa using ih interleaves

-- A round that is not cut short takes every lane from `round` to `round + 1`.
theorem pass_level {selected : List α} (round : Nat)
    (level : ∀ cursor ∈ cursors, cursor.Level round) :
    (∀ cursor ∈ (pass limit cursors selected).1, cursor.Visited round) ∧
      ((pass limit cursors selected).2.1.length < limit →
        ∀ cursor ∈ (pass limit cursors selected).1, cursor.Level (round + 1)) := by
  induction cursors generalizing selected with
  | nil => simp [pass]
  | cons cursor rest ih =>
    obtain ⟨here,later⟩ := List.forall_mem_cons.mp level
    unfold pass
    split
    · rename_i full
      exact ⟨fun other member => Or.inl (level other member),fun short => absurd short (by dsimp only; omega)⟩
    · split
      · rename_i available
        obtain ⟨visited,finished⟩ := @ih (selected ++ [cursor.lane[cursor.offset]]) later
        have moved : (⟨cursor.lane,cursor.offset + 1,available⟩ : Cursor α).Level (round + 1) := by
          unfold Cursor.Level at here ⊢
          dsimp only
          omega
        exact ⟨List.forall_mem_cons.mpr ⟨Or.inr moved,visited⟩,
          fun short => List.forall_mem_cons.mpr ⟨moved,finished short⟩⟩
      · rename_i exhausted
        obtain ⟨visited,finished⟩ := @ih selected later
        have stays : cursor.Level (round + 1) := by
          unfold Cursor.Level at here ⊢
          omega
        exact ⟨List.forall_mem_cons.mpr ⟨Or.inl here,visited⟩,
          fun short => List.forall_mem_cons.mpr ⟨stays,finished short⟩⟩

theorem pass_idle {selected : List α}
    (short : (selected.length : Int) < limit) (idle : (pass limit cursors selected).2.2 = false) :
    pass limit cursors selected = (cursors,selected,false) ∧ ∀ cursor ∈ cursors, ¬cursor.Open := by
  induction cursors with
  | nil => simp [pass]
  | cons cursor rest ih =>
    unfold pass at idle ⊢
    rw [if_neg (by omega)] at idle ⊢
    by_cases available : cursor.offset < cursor.lane.length
    · simp [available] at idle
    · rw [dif_neg available] at idle ⊢
      obtain ⟨same,exhausted⟩ := ih idle
      rw [same]
      exact ⟨rfl,List.forall_mem_cons.mpr ⟨available,exhausted⟩⟩

-- What `while len(selected) < limit` leaves, from cursors that are level.
structure Dealt (limit : Int) (lanes : List (List α)) (result : List (Cursor α) × List α) : Prop where
  same : result.1.map Cursor.lane = lanes
  interleaves : Interleaves (result.1.map Cursor.taken) result.2
  visited : ∃ round, ∀ cursor ∈ result.1, cursor.Visited round
  within : result.2.length ≤ limit.toNat
  complete : (result.2.length : Int) < limit → ∀ cursor ∈ result.1, ¬cursor.Open

theorem rounds_dealt {selected : List α}
    (visited : ∃ round, ∀ cursor ∈ cursors, cursor.Visited round)
    (level : (selected.length : Int) < limit → ∃ round, ∀ cursor ∈ cursors, cursor.Level round)
    (interleaves : Interleaves (cursors.map Cursor.taken) selected) (within : selected.length ≤ limit.toNat) :
    Dealt limit (cursors.map Cursor.lane) (rounds limit cursors selected) := by
  induction cursors, selected using rounds.induct limit with
  | case1 cursors selected short added ih =>
    rw [rounds,dif_pos short,dif_pos added,←pass_lanes limit cursors selected]
    obtain ⟨round,start⟩ := level short
    obtain ⟨reached,finished⟩ := @pass_level _ limit _ selected round start
    have bounded := @pass_within _ limit cursors _ short.le
    exact ih ⟨round,reached⟩ (fun still => ⟨round + 1,finished still⟩)
      (@pass_interleaves _ _ _ [] _ interleaves) (by omega)
  | case2 cursors selected short idle =>
    rw [rounds,dif_pos short,dif_neg idle]
    obtain ⟨same,exhausted⟩ := pass_idle short (by simpa using idle)
    rw [same]
    exact ⟨rfl,interleaves,visited,within,fun _ => exhausted⟩
  | case3 cursors selected full =>
    rw [rounds,dif_neg full]
    exact ⟨rfl,interleaves,visited,within,fun short => absurd short full⟩

theorem candidates_dealt (lanes : List (List α)) (limit : Int) :
    Dealt limit lanes (rounds limit (lanes.map Cursor.start) []) := by
  have level : ∀ cursor ∈ lanes.map (Cursor.start : List α → Cursor α), cursor.Level 0 := by
    simp [Cursor.Level,Cursor.start]
  have interleaves : Interleaves ((lanes.map Cursor.start).map Cursor.taken) ([] : List α) := by
    have empty : (lanes.map Cursor.start).map Cursor.taken = List.replicate lanes.length [] :=
      List.eq_replicate_iff.mpr ⟨by simp,by simp [Cursor.start,Cursor.taken]⟩
    rw [empty]
    exact .nothing _
  have dealt := @rounds_dealt _ limit _ _ ⟨0,fun cursor member => Or.inl (level cursor member)⟩
    (fun _ => ⟨0,level⟩) interleaves (Nat.zero_le _)
  have same : (lanes.map Cursor.start).map Cursor.lane = lanes := by simp [Function.comp_def,Cursor.start]
  rwa [same] at dealt

namespace Dealt
variable {limit : Int} {lanes : List (List α)} {result : List (Cursor α) × List α}

theorem length (dealt : Dealt limit lanes result) :
    result.2.length = min limit.toNat (lanes.map List.length).sum := by
  have drawn := dealt.interleaves.length
  have total : (lanes.map List.length).sum = (result.1.map fun cursor => cursor.lane.length).sum := by
    rw [←dealt.same,List.map_map]
    rfl
  rw [List.map_map] at drawn
  by_cases short : (result.2.length : Int) < limit
  · have exhausted : result.1.map (List.length ∘ Cursor.taken) = result.1.map fun cursor => cursor.lane.length := by
      refine List.map_congr_left fun cursor member => ?_
      have closed := dealt.complete short cursor member
      simp only [Function.comp,Cursor.taken,List.length_take,Cursor.Open] at closed ⊢
      omega
    rw [exhausted,←total] at drawn
    omega
  · have bounded : (result.1.map (List.length ∘ Cursor.taken)).sum ≤
        (result.1.map fun cursor => cursor.lane.length).sum := by
      refine List.sum_le_sum fun cursor _ => ?_
      simp only [Function.comp,Cursor.taken,List.length_take]
      omega
    have within := dealt.within
    omega

-- A lane that can still give was visited as often as any other, up to one visit.
theorem fair (dealt : Dealt limit lanes result) : ∀ cursor ∈ result.1, cursor.Open →
    ∀ other ∈ result.1, other.offset ≤ cursor.offset + 1 := by
  obtain ⟨round,visited⟩ := dealt.visited
  intro cursor member available other there
  have here := (visited cursor member).bounds
  have bounds := (visited other there).bounds
  unfold Cursor.Open at available
  omega

theorem all_taken (dealt : Dealt limit lanes result) (room : (lanes.map List.length).sum ≤ limit.toNat) :
    result.2.Perm lanes.flatten := by
  have drawn := dealt.interleaves.perm
  have part : ∀ cursors : List (Cursor α),
      ((cursors.map Cursor.taken).flatten).Sublist ((cursors.map Cursor.lane).flatten) := by
    intro cursors
    induction cursors with
    | nil => exact .slnil
    | cons cursor rest ih => exact (List.take_sublist _ _).append ih
  have taken := part result.1
  rw [dealt.same] at taken
  have count : (result.1.map Cursor.taken).flatten.length = lanes.flatten.length := by
    rw [←drawn.length_eq,dealt.length,List.length_flatten]
    omega
  rwa [taken.eq_of_length count] at drawn
end Dealt

theorem share_bounds {share : Int} {laneCount : Nat}
    (computed : laneLimits limit laneCount = some limits) (member : share ∈ limits) :
    share = limit / laneCount ∨ share = limit / laneCount + 1 := by
  unfold laneLimits at computed
  split at computed
  · cases computed
  · cases Option.some.inj computed
    obtain ⟨index,_,rfl⟩ := List.mem_map.mp member
    split <;> simp

theorem extras_sum (remainder laneCount : Nat) :
    ((List.range laneCount).map fun (index : Nat) => if (index : Int) < remainder then (1 : Int) else 0).sum =
      min remainder laneCount := by
  induction laneCount with
  | zero => simp
  | succ laneCount ih =>
    rw [List.range_succ,List.map_append,List.sum_append,ih]
    simp only [List.map_cons,List.map_nil,List.sum_cons,List.sum_nil]
    split <;> omega

theorem shares_sum {laneCount : Nat}
    (computed : laneLimits limit laneCount = some limits) : limits.length = laneCount ∧ limits.sum = limit := by
  unfold laneLimits at computed
  split at computed
  · cases computed
  · rename_i positive
    cases Option.some.inj computed
    have count : (0 : Int) < laneCount := by omega
    obtain ⟨remainder,same⟩ := Int.eq_ofNat_of_zero_le (Int.emod_nonneg limit count.ne')
    have below := Int.emod_lt_of_pos limit count
    refine ⟨by simp,?_⟩
    rw [same] at below ⊢
    rw [List.sum_map_add,extras_sum]
    have division := Int.mul_ediv_add_emod limit laneCount
    simp only [List.map_const',List.length_range,List.sum_replicate,nsmul_eq_mul]
    omega

theorem batching_fair (limit : Int) :
    (∀ laneCount, (laneLimits limit laneCount).isSome ↔ laneCount ≠ 0) ∧
      (∀ laneCount limits, laneLimits limit laneCount = some limits →
        limits.length = laneCount ∧ limits.sum = limit ∧ ∀ share ∈ limits, ∀ other ∈ limits, share ≤ other + 1) ∧
      ∀ lanes : List (List α), ∃ cursors : List (Cursor α), cursors.map Cursor.lane = lanes ∧
        (roundRobinCandidates lanes limit).length = min limit.toNat (lanes.map List.length).sum ∧
        Interleaves (cursors.map Cursor.taken) (roundRobinCandidates lanes limit) ∧
        (∀ cursor ∈ cursors, cursor.Open → ∀ other ∈ cursors, other.offset ≤ cursor.offset + 1) ∧
        ∃ round, ∀ cursor ∈ cursors, cursor.Visited round := by
  refine ⟨fun laneCount => ?_,fun laneCount limits computed => ?_,fun lanes => ?_⟩
  · unfold laneLimits
    split <;> simp_all
  · obtain ⟨count,sum⟩ := shares_sum computed
    refine ⟨count,sum,fun share member other there => ?_⟩
    have left := share_bounds computed member
    have right := share_bounds computed there
    omega
  · have dealt := candidates_dealt lanes limit
    exact ⟨_,dealt.same,dealt.length,dealt.interleaves,dealt.fair,dealt.visited⟩

example : laneLimits 12 5 = some [3,3,2,2,2] := by decide
example : roundRobinCandidates [[1,2,3],[],[4],[5,6]] 5 = [1,4,5,2,6] := by
  simp [roundRobinCandidates,rounds,pass,Cursor.start]

theorem quota_room {σ : Type u} (rows : σ → Int → List α) (quota : ∀ select share, (rows select share).length ≤ share.toNat)
    (positive : ∀ share ∈ limits, 0 ≤ share) (selectors : List σ) :
    (((List.zipWith rows selectors limits).map List.length).sum : Int) ≤ limits.sum := by
  induction limits generalizing selectors with
  | nil => simp
  | cons share rest ih =>
    obtain ⟨here,later⟩ := List.forall_mem_cons.mp positive
    have others := ih later
    cases selectors with
    | nil =>
      have nonnegative := others []
      simp only [List.zipWith_nil_left,List.map_nil,List.sum_nil,List.sum_cons] at nonnegative ⊢
      omega
    | cons select selectors =>
      have bound := quota select share
      have remaining := others selectors
      simp only [List.zipWith_cons_cons,List.map_cons,List.sum_cons]
      omega

-- The quotas already bound the lanes, so the merge drops none of their rows.
theorem pending_complete {ε : Type u} {selectors : List (Int → Except ε (List α))} {limit : Int}
    {candidates : List α} {failures : List ε} (positive : 0 ≤ limit)
    (pending : pendingProcessCandidates selectors limit = some (candidates,failures)) :
    ∃ limits, laneLimits limit selectors.length = some limits ∧
      candidates.Perm (List.zipWith (fun select quota =>
        ((select quota).map (List.take quota.toNat)).toOption.getD []) selectors limits).flatten := by
  obtain ⟨limits,computed,found⟩ := Option.map_eq_some_iff.mp pending
  cases found
  obtain ⟨count,sum⟩ := shares_sum computed
  refine ⟨limits,computed,?_⟩
  have shares : ∀ share ∈ limits, 0 ≤ share := by
    intro share member
    have least := Int.ediv_nonneg positive (Int.natCast_nonneg selectors.length)
    have bounds := share_bounds computed member
    omega
  have room := quota_room (fun (select : Int → Except ε (List α)) quota =>
    ((select quota).map (List.take quota.toNat)).toOption.getD [])
    (fun select share => by cases select share <;> simp [Except.map,Except.toOption]) shares selectors
  rw [sum] at room
  have taken := (candidates_dealt (List.zipWith (fun (select : Int → Except ε (List α)) quota =>
    ((select quota).map (List.take quota.toNat)).toOption.getD []) selectors limits) limit).all_taken (by omega)
  rwa [List.map_zipWith]

def sampleSelectors : List (Int → Except String (List Nat)) :=
  [fun _ => .ok [1,2,3],fun _ => .error "unavailable",fun _ => .ok [4]]

theorem pending_complete_sample : ∃ candidates,
    pendingProcessCandidates sampleSelectors 5 = some (candidates,["unavailable"]) ∧ candidates.Perm [1,2,4] := by
  have pending : pendingProcessCandidates sampleSelectors 5 =
      some (roundRobinCandidates [[1,2],[],[4]] 5,["unavailable"]) := by rfl
  obtain ⟨limits,computed,taken⟩ := pending_complete (by decide) pending
  cases computed
  exact ⟨_,pending,taken⟩
end SourceControl
