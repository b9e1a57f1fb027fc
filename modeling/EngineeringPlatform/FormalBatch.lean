import EngineeringPlatform.FormalStore
import Mathlib.Data.List.Sort
import Mathlib.Data.List.Dedup
-- One run of the formal reconciliation: due effects are claimed and reconciled,
-- pending callbacks are replayed, and what room is left goes to each once more.
namespace EngineeringPlatform.FormalDelivery
open KeyedRows EngineeringPlatform.SourceControl

structure EffectRows where
  rows : List FormalEffect
  unique : KeyedRows.Unique FormalEffect.id rows

def EffectRows.has (s : EffectRows) (id : Uuid) : Prop := ∃ row ∈ s.rows, row.id = id

inductive Lane where
  | effect
  | callback
  deriving DecidableEq

inductive Reconciled where
  | returned (effect : Option FormalEffect)
  | raised

-- What the steps of a run do, and what other workers do before each of its queries. No
-- one deletes an effect, and a step answers with the effect it was given.
structure Behaviour where
  reconcile : FormalEffect → EffectRows → EffectRows × Reconciled
  replay : FormalEffect → EffectRows → EffectRows × Option FormalEffect
  meanwhile : Nat → EffectRows → EffectRows
  clock : Nat → Time
  locked : Nat → Uuid → Bool
  reconcileKeeps : ∀ row s id, s.has id → (reconcile row s).1.has id
  meanwhileKeeps : ∀ query s id, s.has id → (meanwhile query s).has id
  reconcileAnswers : ∀ row s effect, (reconcile row s).2 = .returned effect → ∃ found, effect = some found ∧ found.id = row.id
  replayAnswers : ∀ row s effect, (replay row s).2 = some effect → effect.id = row.id

def dueForReconciliation (now : Time) (row : FormalEffect) : Bool :=
  (row.state = .unknown ∨ row.state = .inFlight ∨ row.state = .reconciliation) ∧ row.nextReconcileAt.any (· ≤ now) = true

-- ORDER BY next_reconcile_at, id
def dueBefore (one two : FormalEffect) : Prop :=
  one.nextReconcileAt.getD 0 < two.nextReconcileAt.getD 0 ∨
    one.nextReconcileAt.getD 0 = two.nextReconcileAt.getD 0 ∧ one.id ≤ two.id

instance : DecidableRel dueBefore := fun _ _ => inferInstanceAs (Decidable (_ ∨ _))

def FormalEffect.claim (now : Time) (row : FormalEffect) : FormalEffect :=
  {row with
    state := .reconciliation, attempts := row.attempts + 1, nextReconcileAt := some (now + Integration.claimLease)
    updatedAt := now}

-- The candidates of a claim; a row that another worker has locked is skipped.
def claimable (now : Time) (locked : Uuid → Bool) (limit : Nat) (s : EffectRows) : List FormalEffect :=
  ((s.rows.filter fun row => dueForReconciliation now row && !locked row.id).insertionSort dueBefore).take limit

def EffectRows.claimAll (s : EffectRows) (now : Time) (ids : List Uuid) : EffectRows where
  rows := s.rows.map fun row => if row.id ∈ ids then row.claim now else row
  unique := by
    have same : (s.rows.map fun row => if row.id ∈ ids then row.claim now else row).map FormalEffect.id =
        s.rows.map FormalEffect.id := by
      rw [List.map_map]
      refine List.map_congr_left fun row _ => ?_
      dsimp only [Function.comp]
      split
      · rfl
      · rfl
    unfold KeyedRows.Unique
    rw [same]
    exact s.unique

def pendingCallback (row : FormalEffect) : Bool :=
  (row.state = .succeeded ∨ row.state = .blocked ∨ row.state = .unknown) ∧ row.callbackState ≠ .acked

-- ORDER BY CASE WHEN state='UNKNOWN' THEN 1 ELSE 0 END, updated_at, id
def replayRank (row : FormalEffect) : Nat := if row.state = .unknown then 1 else 0

def replayBefore (one two : FormalEffect) : Prop :=
  replayRank one < replayRank two ∨ replayRank one = replayRank two ∧
    (one.updatedAt < two.updatedAt ∨ one.updatedAt = two.updatedAt ∧ one.id ≤ two.id)

instance : DecidableRel replayBefore := fun _ _ => inferInstanceAs (Decidable (_ ∨ _))

def pendingCallbackEffects (limit : Nat) (s : EffectRows) : List FormalEffect :=
  ((s.rows.filter pendingCallback).insertionSort replayBefore).take limit

-- What a run has come to: what it returns, what it attempted, whether or not it raises, and
-- the tables that its queries found.
structure Progress where
  store : EffectRows
  effects : List FormalEffect
  attempts : List (Lane × Uuid)
  raised : Bool
  found : Nat → Option EffectRows

def Progress.start (s : EffectRows) : Progress := ⟨s,[],[],false,fun _ => none⟩

def Progress.finds (p : Progress) (query : Nat) (table : EffectRows) : Progress :=
  {p with store := table, found := Function.update p.found query (some table)}

def Progress.attempted (p : Progress) : List Uuid := p.attempts.map Prod.snd

def Progress.attempt (p : Progress) (lane : Lane) (id : Uuid) (store : EffectRows) : Progress :=
  {p with store := store, attempts := p.attempts ++ [(lane,id)]}

def Progress.return (p : Progress) (effect : FormalEffect) : Progress := {p with effects := p.effects ++ [effect]}

def reconcileRows (b : Behaviour) : List FormalEffect → Progress → Progress
  | [],p => p
  | row :: rest,p =>
    let (store,outcome) := b.reconcile row p.store
    let p := p.attempt .effect row.id store
    match outcome with
    | .returned (some effect) => reconcileRows b rest (p.return effect)
    | .returned none => {p with raised := true}
    | .raised =>
      match find FormalEffect.id store.rows row.id with
      | some current => reconcileRows b rest (p.return current)
      | none => {p with raised := true}

-- `reconcile_effect_lane`
def reconcileLane (b : Behaviour) (query pass limit : Nat) (p : Progress) : Progress :=
  if limit < 1 then p
  else
    let s := b.meanwhile query p.store
    let claimed := claimable (b.clock pass) (b.locked pass) limit s
    reconcileRows b (claimed.map (·.claim (b.clock pass)))
      {p.finds query s with store := s.claimAll (b.clock pass) (claimed.map FormalEffect.id)}

def replayRows (b : Behaviour) (excluded : List Uuid) : Nat → List FormalEffect → Progress → Progress
  | _,[],p => p
  | left,row :: rest,p =>
    if row.id ∈ excluded then replayRows b excluded left rest p
    else
      let (store,outcome) := b.replay row p.store
      let p := p.attempt .callback row.id store
      match outcome with
      | none => {p with raised := true}
      | some effect => if left ≤ 1 then p.return effect else replayRows b excluded (left - 1) rest (p.return effect)

-- `replay_pending_formal_callbacks` of what the run has not returned yet
def replayLane (b : Behaviour) (query limit : Nat) (p : Progress) : Progress :=
  let s := b.meanwhile query p.store
  let excluded := p.effects.map FormalEffect.id
  replayRows b excluded limit (pendingCallbackEffects (limit + excluded.dedup.length) s) (p.finds query s)

def callbackQuota (limit : Nat) : Nat := max 1 (limit / 2)

def firstPass (b : Behaviour) (limit : Nat) (s : EffectRows) : Progress :=
  reconcileLane b 0 0 (limit - callbackQuota limit) (.start s)

def firstReplay (b : Behaviour) (limit : Nat) (s : EffectRows) : Progress :=
  let p := firstPass b limit s
  if p.raised then p else replayLane b 1 (callbackQuota limit) p

-- The room that is left, when the run has not raised.
def Progress.room (p : Progress) (limit : Nat) : Nat := if p.raised then 0 else limit - p.effects.length

def secondPass (b : Behaviour) (limit : Nat) (s : EffectRows) : Progress :=
  let p := firstReplay b limit s
  if 0 < p.room limit then reconcileLane b 2 1 (p.room limit) p else p

-- `reconcile_due_formal_effects`
def reconcileDueFormalEffects (b : Behaviour) (limit : Nat) (s : EffectRows) : Progress :=
  if limit < 1 then {Progress.start s with raised := true}
  else
    let p := secondPass b limit s
    if 0 < p.room limit then replayLane b 3 (p.room limit) p else p

-- What a pass over claimed effects adds: an attempt and an answer for each.
structure Reconciles (ids : List Uuid) (p q : Progress) : Prop where
  raised : q.raised = p.raised
  attempts : q.attempts = p.attempts ++ ids.map fun id => (Lane.effect,id)
  effects : q.effects.map FormalEffect.id = p.effects.map FormalEffect.id ++ ids

theorem has_found {s : EffectRows} {id : Uuid} (there : s.has id) :
    ∃ row, find FormalEffect.id s.rows id = some row ∧ row.id = id := by
  obtain ⟨row,member,rfl⟩ := there
  exact ⟨row,find_of_mem s.unique member,rfl⟩

-- One attempt, answered or looked up after it raised, and the others after it.
theorem Reconciles.cons {p q : Progress} {store : EffectRows} {row effect : FormalEffect} (same : effect.id = row.id)
    (rest : Reconciles ids ((p.attempt .effect row.id store).return effect) q) : Reconciles (row.id :: ids) p q := by
  refine ⟨rest.raised,?_,?_⟩
  · rw [rest.attempts]
    simp [Progress.attempt,Progress.return]
  · rw [rest.effects]
    simp [Progress.attempt,Progress.return,same]

theorem reconcileRows_reconciles (b : Behaviour) {rows : List FormalEffect} {p : Progress}
    (there : ∀ row ∈ rows, p.store.has row.id) : Reconciles (rows.map FormalEffect.id) p (reconcileRows b rows p) := by
  induction rows generalizing p with
  | nil => exact ⟨rfl,by simp [reconcileRows],by simp [reconcileRows]⟩
  | cons row rest ih =>
    rcases answered : b.reconcile row p.store with ⟨store,outcome⟩
    have kept : ∀ id, p.store.has id → store.has id := by
      have kept := b.reconcileKeeps row p.store
      rwa [answered] at kept
    have others : ∀ other ∈ rest, store.has other.id :=
      fun other member => kept _ (there other (List.mem_cons_of_mem _ member))
    rw [reconcileRows,answered]
    cases outcome with
    | returned answer =>
      obtain ⟨effect,rfl,same⟩ := b.reconcileAnswers row p.store answer (congrArg Prod.snd answered)
      exact .cons same (ih others)
    | raised =>
      obtain ⟨current,found,same⟩ := has_found (kept _ (there row List.mem_cons_self))
      dsimp only
      rw [found]
      exact .cons same (ih others)

def claimedIds (b : Behaviour) (query pass limit : Nat) (p : Progress) : List Uuid :=
  (claimable (b.clock pass) (b.locked pass) limit (b.meanwhile query p.store)).map FormalEffect.id

theorem claimable_sublist (now : Time) (locked : Uuid → Bool) (limit : Nat) (s : EffectRows) :
    ∃ rows : List FormalEffect, rows.Perm (s.rows.filter fun row => dueForReconciliation now row && !locked row.id) ∧
      (claimable now locked limit s).Sublist rows :=
  ⟨_,List.perm_insertionSort _ _,List.take_sublist _ _⟩

theorem claimable_mem {s : EffectRows} (member : row ∈ claimable now locked limit s) : row ∈ s.rows := by
  obtain ⟨rows,perm,part⟩ := claimable_sublist now locked limit s
  exact List.mem_of_mem_filter (perm.subset (part.subset member))

theorem claimedIds_nodup (b : Behaviour) (query pass limit : Nat) (p : Progress) :
    (claimedIds b query pass limit p).Nodup := by
  obtain ⟨rows,perm,part⟩ := claimable_sublist (b.clock pass) (b.locked pass) limit (b.meanwhile query p.store)
  refine (part.map FormalEffect.id).nodup ((perm.map FormalEffect.id).nodup_iff.mpr ?_)
  exact (List.filter_sublist.map FormalEffect.id).nodup (b.meanwhile query p.store).unique

theorem claimedIds_length (b : Behaviour) (query pass limit : Nat) (p : Progress) :
    (claimedIds b query pass limit p).length ≤ limit := by
  unfold claimedIds claimable
  rw [List.length_map]
  exact List.length_take_le _ _

theorem reconcileLane_reconciles (b : Behaviour) (query pass limit : Nat) (p : Progress) :
    Reconciles (claimedIds b query pass limit p) p (reconcileLane b query pass limit p) := by
  unfold reconcileLane
  split
  · rename_i none
    have empty : claimedIds b query pass limit p = [] := List.eq_nil_of_length_eq_zero
      (Nat.le_zero.mp (Nat.le_trans (claimedIds_length ..) (by omega)))
    rw [empty]
    exact ⟨rfl,by simp,by simp⟩
  · have claimed := @reconcileRows_reconciles b
      ((claimable (b.clock pass) (b.locked pass) limit (b.meanwhile query p.store)).map (·.claim (b.clock pass)))
      {p.finds query (b.meanwhile query p.store) with
        store := (b.meanwhile query p.store).claimAll (b.clock pass) (claimedIds b query pass limit p)} ?_
    · rw [List.map_map] at claimed
      exact ⟨claimed.raised,claimed.attempts,claimed.effects⟩
    · intro row member
      obtain ⟨old,there,rfl⟩ := List.mem_map.mp member
      refine ⟨_,List.mem_map_of_mem (claimable_mem there),?_⟩
      split
      · rfl
      · rfl

-- What a replay adds: an attempt for each effect it takes, none of which is excluded.
structure Replays (excluded : List Uuid) (left : Nat) (taken : List Uuid) (p q : Progress) : Prop where
  fresh : ∀ id ∈ taken, id ∉ excluded
  length : taken.length ≤ left
  attempts : q.attempts = p.attempts ++ taken.map fun id => (Lane.callback,id)
  effects : q.raised = false → q.effects.map FormalEffect.id = p.effects.map FormalEffect.id ++ taken

theorem Replays.one {p q : Progress} {row : FormalEffect} (fresh : row.id ∉ excluded) (some : 1 ≤ left)
    (attempts : q.attempts = p.attempts ++ [(Lane.callback,row.id)])
    (effects : q.raised = false → q.effects.map FormalEffect.id = p.effects.map FormalEffect.id ++ [row.id]) :
    Replays excluded left [row.id] p q :=
  ⟨fun _ member => List.mem_singleton.mp member ▸ fresh,some,attempts,effects⟩

theorem Replays.cons {p q : Progress} {store : EffectRows} {row effect : FormalEffect} (fresh : row.id ∉ excluded)
    (same : effect.id = row.id) (some : 1 ≤ left)
    (rest : Replays excluded (left - 1) taken ((p.attempt .callback row.id store).return effect) q) :
    Replays excluded left (row.id :: taken) p q := by
  refine ⟨fun _ member => ?_,?_,?_,fun quiet => ?_⟩
  · rcases List.mem_cons.mp member with rfl | later
    · exact fresh
    · exact rest.fresh _ later
  · have shorter := rest.length
    rw [List.length_cons]
    omega
  · rw [rest.attempts]
    simp [Progress.attempt,Progress.return]
  · rw [rest.effects quiet]
    simp [Progress.attempt,Progress.return,same]

-- The effects a replay that nothing stops takes: the first that are not excluded.
def fresh (excluded : List Uuid) (rows : List FormalEffect) : List Uuid :=
  (rows.map FormalEffect.id).filter (· ∉ excluded)

theorem fresh_skip {row : FormalEffect} (skipped : row.id ∈ excluded) (rest : List FormalEffect) :
    fresh excluded (row :: rest) = fresh excluded rest := by simp [fresh,skipped]

theorem fresh_take {row : FormalEffect} (fresh : row.id ∉ excluded) (rest : List FormalEffect) :
    FormalDelivery.fresh excluded (row :: rest) = row.id :: FormalDelivery.fresh excluded rest := by
  simp [FormalDelivery.fresh,fresh]

theorem replayRows_replays (b : Behaviour) (excluded : List Uuid) {rows : List FormalEffect} {left : Nat} {p : Progress}
    (room : 1 ≤ left) : ∃ taken, taken <+: (fresh excluded rows).take left ∧
      Replays excluded left taken p (replayRows b excluded left rows p) ∧
      ((replayRows b excluded left rows p).raised = false → taken = (fresh excluded rows).take left) ∧
      (fresh excluded rows ≠ [] → taken ≠ []) := by
  induction rows generalizing left p with
  | nil =>
    refine ⟨[],List.nil_prefix,⟨(fun _ absent => by cases absent),Nat.zero_le _,by simp [replayRows],by simp [replayRows]⟩,?_,?_⟩
    · exact fun _ => by simp [fresh]
    · exact fun some => absurd rfl some
  | cons row rest ih =>
    rw [replayRows]
    split
    · rename_i skipped
      rw [fresh_skip skipped]
      exact ih room
    · rename_i fresh
      obtain ⟨left,rfl⟩ : ∃ rest, left = rest + 1 := ⟨left - 1,by omega⟩
      rw [fresh_take fresh,List.take_succ_cons]
      rcases answered : b.replay row p.store with ⟨store,outcome⟩
      cases outcome with
      | none =>
        refine ⟨[row.id],⟨_,rfl⟩,.one fresh room rfl ?_,?_,fun _ => List.cons_ne_nil _ _⟩
        · intro quiet
          cases quiet
        · intro quiet
          cases quiet
      | some effect =>
        have same := b.replayAnswers row p.store effect (congrArg Prod.snd answered)
        dsimp only
        split
        · rename_i last
          obtain rfl : left = 0 := by omega
          refine ⟨[row.id],⟨[],by simp⟩,.one fresh room rfl fun _ => ?_,fun _ => by simp,fun _ => List.cons_ne_nil _ _⟩
          simp [Progress.attempt,Progress.return,same]
        · obtain ⟨taken,⟨others,whole⟩,replays,all,_⟩ :=
            @ih (left + 1 - 1) ((p.attempt .callback row.id store).return effect) (by omega)
          refine ⟨row.id :: taken,⟨others,?_⟩,.cons fresh same room replays,fun quiet => ?_,fun _ => List.cons_ne_nil _ _⟩
          · rw [List.cons_append,whole,Nat.add_sub_cancel]
          · rw [all quiet,Nat.add_sub_cancel]

-- More rows than are excluded hold one that is not.
theorem exists_fresh {rows : List FormalEffect} {excluded : List Uuid} (distinct : (rows.map FormalEffect.id).Nodup)
    (more : excluded.length < rows.length) : ∃ row ∈ rows, row.id ∉ excluded := by
  by_contra none
  push Not at none
  have within : rows.map FormalEffect.id ⊆ excluded := by
    intro id member
    obtain ⟨row,there,rfl⟩ := List.mem_map.mp member
    exact none row there
  have bound := (List.subperm_of_subset distinct within).length_le
  rw [List.length_map] at bound
  omega

theorem pending_nodup (limit : Nat) (s : EffectRows) : ((pendingCallbackEffects limit s).map FormalEffect.id).Nodup := by
  refine ((List.take_sublist _ _).map FormalEffect.id).nodup ?_
  refine ((List.perm_insertionSort replayBefore _).map FormalEffect.id).nodup_iff.mpr ?_
  exact (List.filter_sublist.map FormalEffect.id).nodup s.unique

-- A pending callback that is not excluded leaves one among the candidates, which are as
-- many more as are excluded.
theorem pending_fresh {s : EffectRows} {excluded : List Uuid} (room : 1 ≤ limit)
    (some : ∃ row ∈ s.rows, pendingCallback row = true ∧ row.id ∉ excluded) :
    fresh excluded (pendingCallbackEffects (limit + excluded.dedup.length) s) ≠ [] := by
  obtain ⟨row,member,pending,free⟩ := some
  have candidate : ∃ row ∈ pendingCallbackEffects (limit + excluded.dedup.length) s, row.id ∉ excluded := by
    by_cases few : ((s.rows.filter pendingCallback).insertionSort replayBefore).length ≤ limit + excluded.dedup.length
    · refine ⟨row,?_,free⟩
      unfold pendingCallbackEffects
      rw [List.take_of_length_le few]
      exact (List.perm_insertionSort replayBefore _).symm.subset (List.mem_filter.mpr ⟨member,pending⟩)
    · have more : excluded.dedup.length < (pendingCallbackEffects (limit + excluded.dedup.length) s).length := by
        unfold pendingCallbackEffects
        rw [List.length_take]
        omega
      obtain ⟨other,there,absent⟩ := exists_fresh (pending_nodup _ s) more
      exact ⟨other,there,fun excluded => absent (List.mem_dedup.mpr excluded)⟩
  obtain ⟨other,there,absent⟩ := candidate
  exact List.ne_nil_of_mem (List.mem_filter.mpr ⟨List.mem_map_of_mem there,by simpa using absent⟩ : other.id ∈ fresh _ _)

-- What the callback query leaves a replay to take.
def callbackPicks (limit : Nat) (excluded : List Uuid) (table : Option EffectRows) : List Uuid :=
  table.elim [] fun s => (fresh excluded (pendingCallbackEffects (limit + excluded.dedup.length) s)).take limit

theorem replayLane_replays (b : Behaviour) (query : Nat) {limit : Nat} (p : Progress) (room : 1 ≤ limit) :
    ∃ taken, taken.Nodup ∧ Replays (p.effects.map FormalEffect.id) limit taken p (replayLane b query limit p) ∧
      ((replayLane b query limit p).raised = false →
        taken = callbackPicks limit (p.effects.map FormalEffect.id) (some (b.meanwhile query p.store))) ∧
      ((∃ row ∈ (b.meanwhile query p.store).rows, pendingCallback row = true ∧ row.id ∉ p.effects.map FormalEffect.id) →
        taken ≠ []) := by
  obtain ⟨taken,part,replays,all,fills⟩ := @replayRows_replays b (p.effects.map FormalEffect.id)
    (pendingCallbackEffects (limit + (p.effects.map FormalEffect.id).dedup.length) (b.meanwhile query p.store)) limit
    (p.finds query (b.meanwhile query p.store)) room
  refine ⟨taken,?_,⟨replays.fresh,replays.length,replays.attempts,replays.effects⟩,all,fun some => fills (pending_fresh room some)⟩
  exact (part.sublist.trans ((List.take_sublist _ _).trans List.filter_sublist)).nodup (pending_nodup _ _)

-- What a claim takes of the table it finds.
def duePicks (now : Time) (locked : Uuid → Bool) (limit : Nat) (table : Option EffectRows) : List Uuid :=
  table.elim [] fun s => (claimable now locked limit s).map FormalEffect.id

-- Due effects that no one has locked are claimed.
theorem claimedIds_some {limit query pass : Nat} {b : Behaviour} {p : Progress} (room : 1 ≤ limit)
    (due : ∃ row ∈ (b.meanwhile query p.store).rows,
      dueForReconciliation (b.clock pass) row = true ∧ b.locked pass row.id = false) :
    claimedIds b query pass limit p ≠ [] := by
  obtain ⟨row,member,ready,free⟩ := due
  unfold claimedIds claimable
  intro none
  rw [List.map_eq_nil_iff,List.take_eq_nil_iff] at none
  rcases none with zero | empty
  · omega
  · have there := (List.perm_insertionSort dueBefore _).symm.subset
      (List.mem_filter.mpr ⟨member,by simp [ready,free]⟩ :
        row ∈ (b.meanwhile query p.store).rows.filter fun row => dueForReconciliation (b.clock pass) row && !b.locked pass row.id)
    rw [empty] at there
    cases there

-- None of the effects that the second claim finds among the first due in the room left was
-- among the first due at the first claim, nor among the first callbacks at their query.
def SecondPassFresh (clock : Nat → Time) (locked : Nat → Uuid → Bool) (limit : Nat) (found : Nat → Option EffectRows) : Prop :=
  let first := duePicks (clock 0) (locked 0) (limit - callbackQuota limit) (found 0)
  let replayed := callbackPicks (callbackQuota limit) first (found 1)
  ∀ id ∈ duePicks (clock 1) (locked 1) (limit - (first.length + replayed.length)) (found 2), id ∉ first ∧ id ∉ replayed

-- The run within its limit, with no effect attempted twice, and each lane served when it
-- has something to do: an effect that is due at one of the two passes there is room for,
-- or a pending callback of an effect not attempted yet.
structure BatchExact (b : Behaviour) (limit : Nat) (s : EffectRows) : Prop where
  bounded : (reconcileDueFormalEffects b limit s).attempts.length ≤ limit
  once : (reconcileDueFormalEffects b limit s).attempted.Nodup
  effects : 2 ≤ limit → (∃ row ∈ (b.meanwhile 0 s).rows,
      dueForReconciliation (b.clock 0) row = true ∧ b.locked 0 row.id = false) →
    ∃ id, (Lane.effect,id) ∈ (reconcileDueFormalEffects b limit s).attempts
  callbacks : 1 ≤ limit → (∃ row ∈ (b.meanwhile 1 (firstPass b limit s).store).rows,
      pendingCallback row = true ∧ row.id ∉ (firstPass b limit s).attempted) →
    ∃ id, (Lane.callback,id) ∈ (reconcileDueFormalEffects b limit s).attempts
  laterEffects : 1 ≤ (firstReplay b limit s).room limit → (∃ row ∈ (b.meanwhile 2 (firstReplay b limit s).store).rows,
      dueForReconciliation (b.clock 1) row = true ∧ b.locked 1 row.id = false) →
    ∃ id, (Lane.effect,id) ∈ (reconcileDueFormalEffects b limit s).attempts

-- The four parts of a run of a limit there is, and what each adds.
structure Parts (b : Behaviour) (limit : Nat) (s : EffectRows) (callbacks later : List Uuid) : Prop where
  first : Reconciles (claimedIds b 0 0 (limit - callbackQuota limit) (.start s)) (.start s) (firstPass b limit s)
  replay : Replays ((firstPass b limit s).effects.map FormalEffect.id) (callbackQuota limit) callbacks (firstPass b limit s)
    (firstReplay b limit s)
  second : Reconciles (claimedIds b 2 1 ((firstReplay b limit s).room limit) (firstReplay b limit s)) (firstReplay b limit s)
    (secondPass b limit s)
  last : Replays ((secondPass b limit s).effects.map FormalEffect.id) ((secondPass b limit s).room limit) later
    (secondPass b limit s) (reconcileDueFormalEffects b limit s)
  replayed : (firstReplay b limit s).raised = false → callbacks =
    callbackPicks (callbackQuota limit) ((firstPass b limit s).effects.map FormalEffect.id)
      (some (b.meanwhile 1 (firstPass b limit s).store))
  callbacksNodup : callbacks.Nodup
  laterNodup : later.Nodup
  fills : (∃ row ∈ (b.meanwhile 1 (firstPass b limit s).store).rows,
    pendingCallback row = true ∧ row.id ∉ (firstPass b limit s).effects.map FormalEffect.id) → callbacks ≠ []

theorem Replays.none {p : Progress} {excluded : List Uuid} : Replays excluded left [] p p :=
  ⟨(fun _ absent => by cases absent),Nat.zero_le _,by simp,by simp⟩

theorem parts (b : Behaviour) {limit : Nat} (s : EffectRows) (positive : 1 ≤ limit) :
    ∃ callbacks later, Parts b limit s callbacks later := by
  have first : Reconciles _ _ (firstPass b limit s) := reconcileLane_reconciles b 0 0 (limit - callbackQuota limit) (.start s)
  have quiet : (firstPass b limit s).raised = false := first.raised
  obtain ⟨callbacks,distinct,replay,all,fills⟩ := replayLane_replays b 1 (firstPass b limit s)
    (show 1 ≤ callbackQuota limit from Nat.le_max_left 1 _)
  have replayed : firstReplay b limit s = replayLane b 1 (callbackQuota limit) (firstPass b limit s) := by
    simp [firstReplay,quiet]
  rw [← replayed] at replay all
  have second : Reconciles (claimedIds b 2 1 ((firstReplay b limit s).room limit) (firstReplay b limit s)) (firstReplay b limit s)
      (secondPass b limit s) := by
    unfold secondPass
    dsimp only
    split
    · exact reconcileLane_reconciles b 2 1 _ _
    · rename_i full
      have reconciled := reconcileLane_reconciles b 2 1 ((firstReplay b limit s).room limit) (firstReplay b limit s)
      unfold reconcileLane at reconciled
      rwa [if_pos (by omega)] at reconciled
  obtain ⟨later,laterDistinct,last⟩ : ∃ later : List Uuid, later.Nodup ∧
      Replays ((secondPass b limit s).effects.map FormalEffect.id) ((secondPass b limit s).room limit) later
        (secondPass b limit s) (reconcileDueFormalEffects b limit s) := by
    unfold reconcileDueFormalEffects
    rw [if_neg (by omega)]
    dsimp only
    split
    · rename_i room
      obtain ⟨later,laterDistinct,last,_⟩ := replayLane_replays b 3 (secondPass b limit s) room
      exact ⟨later,laterDistinct,last⟩
    · exact ⟨[],List.nodup_nil,.none⟩
  exact ⟨callbacks,later,first,replay,second,last,all,distinct,laterDistinct,fills⟩

theorem Reconciles.attempted {p q : Progress} (reconciles : Reconciles ids p q) : q.attempted = p.attempted ++ ids := by
  unfold Progress.attempted
  rw [reconciles.attempts]
  simp

theorem Replays.attempted {p q : Progress} (replays : Replays excluded left ids p q) : q.attempted = p.attempted ++ ids := by
  unfold Progress.attempted
  rw [replays.attempts]
  simp

theorem attempted_length (p : Progress) : p.attempted.length = p.attempts.length := List.length_map _

-- A run that has not raised answers for each of its attempts.
structure Answers (p : Progress) : Prop where
  effects : p.raised = false → p.effects.map FormalEffect.id = p.attempted

theorem Reconciles.answers {p q : Progress} (reconciles : Reconciles ids p q) (answers : Answers p) : Answers q := by
  refine ⟨fun quiet => ?_⟩
  rw [reconciles.effects,reconciles.attempted,answers.effects (reconciles.raised ▸ quiet)]

theorem Replays.answers {p q : Progress} (replays : Replays excluded left ids p q) (before : p.effects.map FormalEffect.id = p.attempted) :
    Answers q := by
  refine ⟨fun quiet => ?_⟩
  rw [replays.effects quiet,replays.attempted,before]

variable {b : Behaviour} {s : EffectRows} {callbacks later : List Uuid}

theorem Parts.first_answers (parts : Parts b limit s callbacks later) :
    (firstPass b limit s).effects.map FormalEffect.id = (firstPass b limit s).attempted :=
  (parts.first.answers ⟨fun _ => rfl⟩).effects parts.first.raised

theorem Parts.replay_answers (parts : Parts b limit s callbacks later) : Answers (firstReplay b limit s) :=
  parts.replay.answers parts.first_answers

theorem Parts.second_answers (parts : Parts b limit s callbacks later) : Answers (secondPass b limit s) :=
  parts.second.answers parts.replay_answers

-- Room is left only of what has not been attempted.
theorem room_attempts {p : Progress} (answers : Answers p) (within : p.attempts.length ≤ limit) :
    p.attempts.length + p.room limit ≤ limit := by
  unfold Progress.room
  split
  · omega
  · rename_i quiet
    have length := congrArg List.length (answers.effects (Bool.eq_false_iff.mpr quiet))
    rw [List.length_map,attempted_length] at length
    omega

theorem Parts.replay_bounded (parts : Parts b limit s callbacks later) (positive : 1 ≤ limit) :
    (firstReplay b limit s).attempts.length ≤ limit := by
  have first := claimedIds_length b 0 0 (limit - callbackQuota limit) (.start s)
  have replay := parts.replay.length
  rw [parts.replay.attempts,parts.first.attempts]
  simp only [List.length_append,List.length_map]
  have empty : (Progress.start s).attempts.length = 0 := rfl
  unfold callbackQuota at *
  omega

theorem Parts.bounded (parts : Parts b limit s callbacks later) (positive : 1 ≤ limit) :
    (reconcileDueFormalEffects b limit s).attempts.length ≤ limit := by
  have replayed := room_attempts parts.replay_answers (parts.replay_bounded positive)
  have claimed := claimedIds_length b 2 1 ((firstReplay b limit s).room limit) (firstReplay b limit s)
  have second : (secondPass b limit s).attempts.length ≤ limit := by
    rw [parts.second.attempts]
    simp only [List.length_append,List.length_map]
    omega
  have room := room_attempts parts.second_answers second
  have last := parts.last.length
  rw [parts.last.attempts]
  simp only [List.length_append,List.length_map]
  omega

theorem Parts.attempted (parts : Parts b limit s callbacks later) :
    (reconcileDueFormalEffects b limit s).attempted = (firstReplay b limit s).attempted ++
      claimedIds b 2 1 ((firstReplay b limit s).room limit) (firstReplay b limit s) ++ later := by
  rw [parts.last.attempted,parts.second.attempted]

theorem Parts.replay_once (parts : Parts b limit s callbacks later) : (firstReplay b limit s).attempted.Nodup := by
  have first : (firstPass b limit s).attempted.Nodup := by
    rw [parts.first.attempted]
    exact claimedIds_nodup b 0 0 _ _
  rw [parts.replay.attempted]
  refine List.Nodup.append first parts.callbacksNodup fun id attempted replayed => ?_
  exact parts.replay.fresh id replayed (parts.first_answers ▸ attempted)

-- Nothing is attempted twice exactly when the second pass claims nothing that was.
theorem Parts.once (parts : Parts b limit s callbacks later) :
    (reconcileDueFormalEffects b limit s).attempted.Nodup ↔
      ∀ id ∈ claimedIds b 2 1 ((firstReplay b limit s).room limit) (firstReplay b limit s), id ∉ (firstReplay b limit s).attempted := by
  rw [parts.attempted]
  constructor
  · intro distinct id claimed attempted
    exact (List.disjoint_of_nodup_append distinct.of_append_left) attempted claimed
  · intro fresh
    have before : ((firstReplay b limit s).attempted ++
        claimedIds b 2 1 ((firstReplay b limit s).room limit) (firstReplay b limit s)).Nodup :=
      List.Nodup.append parts.replay_once (claimedIds_nodup b 2 1 _ _) fun id attempted claimed => fresh id claimed attempted
    refine List.Nodup.append before parts.laterNodup fun id attempted replayed => ?_
    rw [← parts.second.attempted] at attempted
    cases quiet : (secondPass b limit s).raised with
    | false => exact parts.last.fresh id replayed (parts.second_answers.effects quiet ▸ attempted)
    | true =>
      have none := parts.last.length
      simp only [Progress.room,quiet,if_true,Nat.le_zero,List.length_eq_zero_iff] at none
      rw [none] at replayed
      cases replayed

theorem Parts.attempts (parts : Parts b limit s callbacks later) :
    (reconcileDueFormalEffects b limit s).attempts =
      (claimedIds b 0 0 (limit - callbackQuota limit) (.start s)).map (fun id => (Lane.effect,id)) ++
        callbacks.map (fun id => (Lane.callback,id)) ++
        (claimedIds b 2 1 ((firstReplay b limit s).room limit) (firstReplay b limit s)).map (fun id => (Lane.effect,id)) ++
        later.map fun id => (Lane.callback,id) := by
  rw [parts.last.attempts,parts.second.attempts,parts.replay.attempts,parts.first.attempts]
  simp [Progress.start]

theorem reconcileRows_found (b : Behaviour) (rows : List FormalEffect) (p : Progress) :
    (reconcileRows b rows p).found = p.found := by
  induction rows generalizing p with
  | nil => rfl
  | cons row rest ih =>
    rw [reconcileRows]
    dsimp only
    split
    · exact ih _
    · rfl
    · split
      · exact ih _
      · rfl

theorem replayRows_found (b : Behaviour) (excluded : List Uuid) (left : Nat) (rows : List FormalEffect) (p : Progress) :
    (replayRows b excluded left rows p).found = p.found := by
  induction rows generalizing left p with
  | nil => rfl
  | cons row rest ih =>
    rw [replayRows]
    dsimp only
    split
    · exact ih _ _
    · split
      · rfl
      · split
        · rfl
        · exact ih _ _

theorem reconcileLane_found (b : Behaviour) (query pass limit : Nat) (p : Progress) :
    (reconcileLane b query pass limit p).found =
      if limit < 1 then p.found else Function.update p.found query (some (b.meanwhile query p.store)) := by
  unfold reconcileLane
  split
  · rfl
  · exact reconcileRows_found b _ _

theorem replayLane_found (b : Behaviour) (query limit : Nat) (p : Progress) :
    (replayLane b query limit p).found = Function.update p.found query (some (b.meanwhile query p.store)) :=
  replayRows_found b _ _ _ _

theorem firstPass_found (b : Behaviour) (limit : Nat) (s : EffectRows) : (firstPass b limit s).found =
    if limit - callbackQuota limit < 1 then fun _ => none else Function.update (fun _ => none) 0 (some (b.meanwhile 0 s)) :=
  reconcileLane_found b 0 0 (limit - callbackQuota limit) (.start s)

theorem Parts.replay_found (parts : Parts b limit s callbacks later) : (firstReplay b limit s).found =
    Function.update (firstPass b limit s).found 1 (some (b.meanwhile 1 (firstPass b limit s).store)) := by
  have quiet : (firstPass b limit s).raised = false := parts.first.raised
  simp only [firstReplay,quiet,Bool.false_eq_true,if_false]
  exact replayLane_found b 1 (callbackQuota limit) (firstPass b limit s)

theorem secondPass_found (b : Behaviour) (limit : Nat) (s : EffectRows) : (secondPass b limit s).found =
    if 0 < (firstReplay b limit s).room limit then
      Function.update (firstReplay b limit s).found 2 (some (b.meanwhile 2 (firstReplay b limit s).store))
    else (firstReplay b limit s).found := by
  unfold secondPass
  dsimp only
  split
  · rw [reconcileLane_found,if_neg (by omega)]
  · rfl

theorem earlier_found (b : Behaviour) {limit query : Nat} (s : EffectRows) (positive : 1 ≤ limit) (earlier : query < 3) :
    (reconcileDueFormalEffects b limit s).found query = (secondPass b limit s).found query := by
  unfold reconcileDueFormalEffects
  rw [if_neg (by omega)]
  dsimp only
  split
  · rw [replayLane_found,Function.update_of_ne (by omega)]
  · rfl

-- The tables the run's queries find, up to the second claim.
theorem Parts.found_second (parts : Parts b limit s callbacks later) (positive : 1 ≤ limit) :
    (reconcileDueFormalEffects b limit s).found 2 =
      if 0 < (firstReplay b limit s).room limit then some (b.meanwhile 2 (firstReplay b limit s).store) else none := by
  rw [earlier_found b s positive (by omega),secondPass_found]
  split
  · exact Function.update_self ..
  · rw [parts.replay_found,Function.update_of_ne (by omega),firstPass_found]
    split
    · rfl
    · exact Function.update_of_ne (by omega) _ _

theorem Parts.found_before (parts : Parts b limit s callbacks later) (positive : 1 ≤ limit) (earlier : query < 2) :
    (reconcileDueFormalEffects b limit s).found query =
      Function.update (firstPass b limit s).found 1 (some (b.meanwhile 1 (firstPass b limit s).store)) query := by
  rw [earlier_found b s positive (by omega),secondPass_found]
  split
  · rw [Function.update_of_ne (by omega),parts.replay_found]
  · rw [parts.replay_found]

theorem Parts.found_callbacks (parts : Parts b limit s callbacks later) (positive : 1 ≤ limit) :
    (reconcileDueFormalEffects b limit s).found 1 = some (b.meanwhile 1 (firstPass b limit s).store) := by
  rw [parts.found_before positive (by omega),Function.update_self]

theorem Parts.found_first (parts : Parts b limit s callbacks later) (positive : 1 ≤ limit) :
    duePicks (b.clock 0) (b.locked 0) (limit - callbackQuota limit) ((reconcileDueFormalEffects b limit s).found 0) =
      claimedIds b 0 0 (limit - callbackQuota limit) (.start s) := by
  rw [parts.found_before positive (by omega),Function.update_of_ne (by omega),firstPass_found]
  split
  · rename_i none
    have empty := claimedIds_length b 0 0 (limit - callbackQuota limit) (.start s)
    rw [List.eq_nil_of_length_eq_zero (show (claimedIds b 0 0 _ _).length = 0 by omega)]
    rfl
  · rw [Function.update_self]
    rfl

-- What the tables say the run picks is what it attempts.
theorem Parts.second_fresh (parts : Parts b limit s callbacks later) (positive : 1 ≤ limit) :
    SecondPassFresh b.clock b.locked limit (reconcileDueFormalEffects b limit s).found ↔
      ∀ id ∈ claimedIds b 2 1 ((firstReplay b limit s).room limit) (firstReplay b limit s), id ∉ (firstReplay b limit s).attempted := by
  have answered : (firstPass b limit s).effects.map FormalEffect.id = claimedIds b 0 0 (limit - callbackQuota limit) (.start s) := by
    rw [parts.first_answers,parts.first.attempted]
    rfl
  unfold SecondPassFresh
  dsimp only
  rw [parts.found_first positive,parts.found_callbacks positive,parts.found_second positive,parts.replay.attempted,
    parts.first.attempted]
  cases quiet : (firstReplay b limit s).raised with
  | true =>
    have room : (firstReplay b limit s).room limit = 0 := by simp [Progress.room,quiet]
    have none := claimedIds_length b 2 1 0 (firstReplay b limit s)
    rw [room,List.eq_nil_of_length_eq_zero (Nat.le_zero.mp none)]
    simp [duePicks]
  | false =>
    have replayed := parts.replayed quiet
    rw [answered] at replayed
    have room : (firstReplay b limit s).room limit =
        limit - ((claimedIds b 0 0 (limit - callbackQuota limit) (.start s)).length + callbacks.length) := by
      have returned := congrArg List.length (parts.replay.effects quiet)
      rw [answered,List.length_map,List.length_append] at returned
      simp [Progress.room,quiet,returned]
    have picks : duePicks (b.clock 1) (b.locked 1) ((firstReplay b limit s).room limit)
        (if 0 < (firstReplay b limit s).room limit then some (b.meanwhile 2 (firstReplay b limit s).store) else none) =
        claimedIds b 2 1 ((firstReplay b limit s).room limit) (firstReplay b limit s) := by
      split
      · rfl
      · have none := claimedIds_length b 2 1 ((firstReplay b limit s).room limit) (firstReplay b limit s)
        rw [List.eq_nil_of_length_eq_zero (show (claimedIds b 2 1 _ _).length = 0 by omega)]
        rfl
    rw [← replayed,← room,picks]
    simp [Progress.attempted,Progress.start]

theorem Parts.exact (parts : Parts b limit s callbacks later) (positive : 1 ≤ limit)
    (fresh : SecondPassFresh b.clock b.locked limit (reconcileDueFormalEffects b limit s).found) : BatchExact b limit s := by
  refine ⟨parts.bounded positive,parts.once.mpr ((parts.second_fresh positive).mp fresh),fun two due => ?_,fun _ pending => ?_,fun room due => ?_⟩
  · have quota : 1 ≤ limit - callbackQuota limit := by
      unfold callbackQuota
      omega
    obtain ⟨id,member⟩ := List.exists_mem_of_ne_nil _ (@claimedIds_some _ 0 0 b (.start s) quota due)
    exact ⟨id,by rw [parts.attempts]; simp [member]⟩
  · obtain ⟨id,member⟩ := List.exists_mem_of_ne_nil _ (parts.fills (parts.first_answers ▸ pending))
    exact ⟨id,by rw [parts.attempts]; simp [member]⟩
  · obtain ⟨id,member⟩ := List.exists_mem_of_ne_nil _ (claimedIds_some room due)
    exact ⟨id,by rw [parts.attempts]; simp [member]⟩

theorem room_none (p : Progress) : p.room 0 = 0 := by
  unfold Progress.room
  split
  · rfl
  · exact Nat.zero_sub _

-- A run keeps its limit and serves each lane, and it attempts nothing twice exactly when
-- what is first due at its second claim was not picked at the queries before.
theorem reconcile_due_exact (b : Behaviour) (limit : Nat) (s : EffectRows) :
    BatchExact b limit s ↔ SecondPassFresh b.clock b.locked limit (reconcileDueFormalEffects b limit s).found := by
  by_cases positive : 1 ≤ limit
  · obtain ⟨callbacks,later,parts⟩ := parts b s positive
    exact ⟨fun exact => (parts.second_fresh positive).mpr (parts.once.mp exact.once),parts.exact positive⟩
  · have zero : limit = 0 := by omega
    subst zero
    refine ⟨fun _ id member => ?_,fun _ => ⟨Nat.le_refl 0,List.nodup_nil,?_,?_,?_⟩⟩
    · cases member
    · exact fun two => absurd two (by omega)
    · exact fun one => absurd one (by omega)
    · exact fun room => absurd room (by rw [room_none]; omega)

-- Three effects of unknown outcome, due at once, with their callbacks pending. Every
-- reconciliation stays unknown, and every callback is acknowledged.
def sampleUnknown (id : Uuid) : FormalEffect :=
  {id, operation := .createFormalMr, attempts := 1, nextReconcileAt := some id, state := .unknown, callbackState := .pending,
   updatedAt := 0}

def EffectRows.put (s : EffectRows) (id : Uuid) (change : FormalEffect → FormalEffect) (keeps : ∀ row, (change row).id = row.id) :
    EffectRows := ⟨update FormalEffect.id s.rows id change,unique_update keeps s.unique⟩

theorem EffectRows.put_has {s : EffectRows} (changed : Uuid) (change : FormalEffect → FormalEffect)
    (keeps : ∀ row, (change row).id = row.id) {id : Uuid} (there : s.has id) : (s.put changed change keeps).has id := by
  obtain ⟨row,member,rfl⟩ := there
  refine ⟨_,List.mem_map_of_mem member,?_⟩
  split
  · exact keeps row
  · rfl

def FormalEffect.remain (row : FormalEffect) : FormalEffect := {row with state := .unknown, nextReconcileAt := some 130}

def FormalEffect.acknowledge (row : FormalEffect) : FormalEffect := {row with callbackState := .acked}

def sampleBehaviour : Behaviour where
  reconcile row s := (s.put row.id FormalEffect.remain fun _ => rfl,.raised)
  replay row s := (s.put row.id FormalEffect.acknowledge fun _ => rfl,some row.acknowledge)
  meanwhile _ s := s
  clock _ := 10
  locked _ _ := false
  reconcileKeeps row _ _ := EffectRows.put_has row.id FormalEffect.remain fun _ => rfl
  meanwhileKeeps _ _ _ there := there
  reconcileAnswers _ _ _ impossible := by cases impossible
  replayAnswers _ _ _ answered := by cases answered; rfl

def sampleRows : EffectRows := ⟨[sampleUnknown 1,sampleUnknown 2,sampleUnknown 3],by unfold KeyedRows.Unique; decide⟩

theorem reconcile_due_repeats :
    ¬ ∀ (b : Behaviour) (limit : Nat) (s : EffectRows), BatchExact b limit s := by
  intro claim
  have attempted : (reconcileDueFormalEffects sampleBehaviour 4 sampleRows).attempted = [1,2,3,3] := by decide
  have once := (claim sampleBehaviour 4 sampleRows).once
  rw [attempted] at once
  exact absurd once (by decide)

end EngineeringPlatform.FormalDelivery
