import EngineeringPlatform.AuthorizationConvergence
namespace EngineeringPlatform.Authorization
open Checked KeyedRows TransitionRuns
variable {s next : Ledger} {τ : Type}

theorem settleAll_grants {accounts : List String} (ran : settleAll workId bumpVersion now accounts s = .ok (next,settled)) :
    next.grants = s.grants := by
  induction accounts generalizing s settled with
  | nil =>
    cases pure_ok.mp ran
    rfl
  | cons account rest ih =>
    obtain ⟨⟨middle,updated⟩,first,ran⟩ := bind_ok.mp ran
    obtain ⟨⟨last,others⟩,later,ran⟩ := bind_ok.mp ran
    cases pure_ok.mp ran
    rw [ih later]
    unfold settlePendingPrincipal at first
    obtain ⟨_,first⟩ := require_bind_ok.mp first
    split at first
    · cases pure_ok.mp first
      rfl
    · cases pure_ok.mp first
      rfl

theorem markFences_grants (reason : String) (now : Time) (accounts : List String) (s : Ledger) :
    (markFences reason now accounts s).1.grants = s.grants := by
  induction accounts generalizing s with
  | nil => rfl
  | cons account rest ih => exact ih (markFence account reason now s)

theorem abandon_grants (ran : abandon work now s = .ok (next,cleared)) : next.grants = s.grants := by
  obtain ⟨⟨ledger,settled⟩,settling,ran⟩ := bind_ok.mp ran
  cases pure_ok.mp ran
  have kept := settleAll_grants settling
  exact kept

theorem converge_grants {recomputeMembership : Option (List String → τ → Except AuthorizationError τ)} {s next : Converging τ}
    (ran : converge recomputeMembership work effects now s = .ok (next,converged)) :
    next.ledger.grants = s.ledger.grants := by
  obtain ⟨membership,_,ran⟩ := bind_ok.mp ran
  obtain ⟨⟨ledger,settled⟩,settling,ran⟩ := bind_ok.mp ran
  cases pure_ok.mp ran
  have kept := settleAll_grants settling
  exact kept

theorem reconcileWork_grants {recomputeMembership : Option (List String → τ → Except AuthorizationError τ)}
    {s next : Converging τ} {id : Uuid}
    (ran : reconcileWork recomputeMembership id effects now s = .ok (next,converged)) :
    next.ledger.grants = s.ledger.grants := by
  unfold reconcileWork at ran
  split at ran
  · cases pure_ok.mp ran
    rfl
  · obtain ⟨ruling,_,ran⟩ := bind_ok.mp ran
    cases ruling with
    | wait =>
      cases pure_ok.mp ran
      rfl
    | abandon =>
      obtain ⟨⟨ledger,cleared⟩,abandoned,ran⟩ := bind_ok.mp ran
      cases pure_ok.mp ran
      exact abandon_grants abandoned
    | proceed => exact converge_grants ran

def Ledger.grantsOf (s : Ledger) (account : String) : List Grant := s.grants.filter (·.principalId = account)

-- What a step does to the grants: nothing, or it bumps the principal whose grant it
-- changes.
inductive GrantMove (s next : Ledger) : Prop where
  | kept (same : next.grants = s.grants)
  | bumped (account : String) (cause : BumpCause) (now : Time) (grants : List Grant)
    (moved : next = bumpPrincipalVersion account cause now {s with grants})
    (others : ∀ other, other ≠ account → ({s with grants} : Ledger).grantsOf other = s.grantsOf other)
    (unique : Unique Grant.id grants)

theorem grant_move {id : Uuid} (unique : Unique Grant.id s.grants) (ran : grant request id now s = .ok (next,row)) :
    GrantMove s next := by
  obtain ⟨_,ran⟩ := require_bind_ok.mp ran
  obtain ⟨_,ran⟩ := require_bind_ok.mp ran
  obtain ⟨fresh,ran⟩ := require_bind_ok.mp ran
  cases pure_ok.mp ran
  refine .bumped _ _ _ _ rfl (fun other differs => ?_) (unique_insert unique fresh)
  have apart : ¬(request.row id now).principalId = other := fun same => differs same.symm
  unfold Ledger.grantsOf
  rw [List.filter_append,List.filter_singleton]
  simp [apart]

theorem revoke_move {id : Uuid} (unique : Unique Grant.id s.grants)
    (ran : revoke id expectedVersion actor reason now s = .ok (next,updated)) : GrantMove s next := by
  obtain ⟨_,ran⟩ := require_bind_ok.mp ran
  obtain ⟨row,found,ran⟩ := orRaise_bind_ok.mp ran
  obtain ⟨_,ran⟩ := require_bind_ok.mp ran
  cases pure_ok.mp ran
  obtain ⟨member,here⟩ := find_some found
  have keyed : (row.revoked actor (strip reason) now).id = id := here
  refine .bumped _ _ _ _ rfl (fun other differs => ?_) (unique_replace keyed unique)
  have apart : ¬row.principalId = other := fun same => differs same.symm
  refine filter_update fun present there same => ?_
  rw [List.inj_on_of_nodup_map unique there member (same.trans here.symm)]
  simpa using ⟨apart,apart⟩

theorem step_grants {recomputeMembership : Option (List String → τ → Except AuthorizationError τ)} {s next : Converging τ}
    (unique : Unique Grant.id s.ledger.grants) (taken : ledgerStep recomputeMembership s label = some next) :
    GrantMove s.ledger next.ledger := by
  cases label with
  | begin change id now =>
    obtain ⟨ledger,work,ran,rfl⟩ := committed_map_some.mp taken
    unfold beginChange at ran
    obtain ⟨_,ran⟩ := require_bind_ok.mp ran
    split at ran
    · cases pure_ok.mp ran
      exact .kept rfl
    · obtain ⟨_,ran⟩ := require_bind_ok.mp ran
      have registered : (register change id now s.ledger).1 = ledger := congrArg Prod.fst (pure_ok.mp ran)
      rw [←registered]
      exact .kept (markFences_grants _ _ _ _)
  | reconcile id effects now =>
    obtain ⟨converged,ran⟩ := committed_some.mp taken
    exact .kept (reconcileWork_grants ran)
  | cancel id now =>
    obtain ⟨ledger,cleared,ran,rfl⟩ := committed_map_some.mp taken
    unfold cancel at ran
    split at ran
    · cases pure_ok.mp ran
      exact .kept rfl
    · exact .kept (abandon_grants ran)
  | grant request id now =>
    obtain ⟨ledger,row,ran,rfl⟩ := committed_map_some.mp taken
    exact grant_move unique ran
  | revoke id expectedVersion actor reason now =>
    obtain ⟨ledger,updated,ran,rfl⟩ := committed_map_some.mp taken
    exact revoke_move unique ran
  | start transaction =>
    obtain ⟨ledger,started,rfl⟩ := Option.map_eq_some_iff.mp taken
    obtain ⟨_,same⟩ := Option.ite_none_right_eq_some.mp started
    cases Option.some.inj same
    exact .kept rfl
  | resolve transaction status =>
    obtain ⟨ledger,resolved,rfl⟩ := Option.map_eq_some_iff.mp taken
    obtain ⟨_,same⟩ := Option.ite_none_right_eq_some.mp resolved
    cases Option.some.inj same
    exact .kept rfl
  | elsewhere change =>
    cases Option.some.inj taken
    exact .kept rfl

theorem GrantMove.unique (moved : GrantMove s next) (unique : Unique Grant.id s.grants) : Unique Grant.id next.grants := by
  cases moved with
  | kept same => exact same ▸ unique
  | bumped account cause now grants moved others fresh =>
    rw [moved]
    exact fresh

theorem GrantMove.grantsOf (moved : GrantMove s next) (before : s.principal account = some old)
    (after : next.principal account = some new) (still : new.version = old.version) :
    next.grantsOf account = s.grantsOf account := by
  cases moved with
  | kept same =>
    unfold Ledger.grantsOf
    rw [same]
  | bumped other cause now grants moved others fresh =>
    subst moved
    refine others account fun same => ?_
    subst same
    rw [bumped_principal,if_pos rfl] at after
    have found : ({s with grants} : Ledger).principal account = some old := before
    rw [found] at after
    cases Option.some.inj after
    have grown : old.version + 1 = old.version := still
    omega

theorem move_bumps (moved : LedgerMove s label next) : ∃ more, next.bumps = s.bumps ++ more := by
  have ended {middle : Ledger} {work final : ConvergenceWork} {bumpVersion : Bool}
      (ends : Ends s middle work final bumpVersion) : ∃ more, middle.bumps = s.bumps ++ more := by
    obtain ⟨_,settles⟩ := ends.settles
    exact ⟨_,settles.bumps⟩
  cases moved with
  | unchanged => exact ⟨[],(List.append_nil _).symm⟩
  | registered fresh =>
    rename_i change now id
    obtain ⟨accounts,marked,generations,_,fenced,shape⟩ := register_shape change id now s
    rw [shape]
    exact ⟨[],fenced.bumps.trans (List.append_nil _).symm⟩
  | completed _ _ _ ends =>
    have grown := ended ends
    exact grown
  | abandoned _ _ _ ends =>
    have grown := ended ends
    exact grown
  | cancelled _ _ ends =>
    have grown := ended ends
    exact grown
  | granted => exact ⟨_,rfl⟩
  | revoked => exact ⟨_,rfl⟩
  | started => exact ⟨[],(List.append_nil _).symm⟩
  | resolved => exact ⟨[],(List.append_nil _).symm⟩

-- A row that a step registers is of a fence that it raises.
theorem move_pending (moved : LedgerMove s label next) (member : row ∈ next.pending) :
    row ∈ s.pending ∨ ∃ new, next.principal row.accountId = some new ∧
      ∀ old, s.principal row.accountId = some old → old.fenceGeneration < new.fenceGeneration := by
  have ended {middle : Ledger} {work final : ConvergenceWork} {bumpVersion : Bool}
      (ends : Ends s middle work final bumpVersion) (member : row ∈ middle.pending) : row ∈ s.pending := by
    obtain ⟨_,settles⟩ := ends.settles
    rw [settles.pending] at member
    exact List.mem_of_mem_filter member
  cases moved with
  | unchanged => exact .inl member
  | registered fresh =>
    rename_i change now id
    obtain ⟨accounts,marked,generations,_,fenced,shape⟩ := register_shape change id now s
    rw [shape] at member ⊢
    rcases List.mem_append.mp member with known | planned
    · rw [fenced.pending] at known
      exact .inl known
    · obtain ⟨_,there⟩ := mem_pendingRows planned
      obtain ⟨new,found,fence,_⟩ := fenced.inside _ there
      refine .inr ⟨new,found,fun old before => ?_⟩
      have generation := fenced.generation _ there
      unfold nextGeneration at generation
      rw [before] at generation
      simp only [Option.elim] at generation
      omega
  | completed _ _ _ ends => exact .inl (ended ends member)
  | abandoned _ _ _ ends => exact .inl (ended ends member)
  | cancelled _ _ ends => exact .inl (ended ends member)
  | granted => exact .inl member
  | revoked => exact .inl member
  | started => exact .inl member
  | resolved => exact .inl member

theorem version_counted (valid : LedgerValid s) (found : s.principal account = some row) :
    row.version = 1 + s.bumps.countP (·.accountId = account) := by
  have version := (valid.accounts account).version
  rw [found] at version
  exact version

theorem move_version (valid : LedgerValid s) (moved : LedgerMove s label next) (before : s.principal account = some old)
    (after : next.principal account = some new) : old.version ≤ new.version := by
  obtain ⟨more,grown⟩ := move_bumps moved
  rw [version_counted valid before,version_counted (move_valid valid moved) after,grown,List.countP_append]
  omega

theorem move_clean (valid : LedgerValid s) (moved : LedgerMove s label next) (before : s.principal account = some old)
    (after : next.principal account = some new) (unfenced : new.fenceGeneration = old.fenceGeneration)
    (clean : old.dirtyGeneration = none) : new.dirtyGeneration = none := by
  have none := (valid.accounts account).dirty old before
  rw [clean] at none
  cases dirty : new.dirtyGeneration with
  | none => rfl
  | some generation =>
    have greatest := ((move_valid valid moved).accounts account).dirty new after
    rw [dirty] at greatest
    obtain ⟨⟨row,member,here,_⟩,_⟩ := greatest
    rcases move_pending moved member with known | ⟨raised,found,above⟩
    · exact absurd here (none row known)
    · rw [here] at found above
      cases Option.some.inj (found.symm.trans after)
      have higher := above old before
      omega

-- The row of a principal at a later moment.
structure PrincipalLater (s next : Ledger) (account : String) (old new : PrincipalVersion) : Prop where
  version : old.version ≤ new.version
  fence : old.fenceGeneration ≤ new.fenceGeneration
  grants : new.version = old.version → next.grantsOf account = s.grantsOf account
  clean : new.version = old.version → new.fenceGeneration = old.fenceGeneration → old.dirtyGeneration = none →
    new.dirtyGeneration = none

def Ledger.Later (s next : Ledger) : Prop :=
  ∀ account old, s.principal account = some old →
    ∃ new, next.principal account = some new ∧ PrincipalLater s next account old new

theorem Ledger.Later.refl (s : Ledger) : s.Later s :=
  fun _ old found => ⟨old,found,Nat.le_refl _,Nat.le_refl _,fun _ => rfl,fun _ _ clean => clean⟩

theorem Ledger.Later.trans {one two three : Ledger} (first : one.Later two) (second : two.Later three) : one.Later three := by
  intro account old found
  obtain ⟨middle,there,before⟩ := first account old found
  obtain ⟨new,last,after⟩ := second account middle there
  have versions := before.version
  have fences := before.fence
  refine ⟨new,last,Nat.le_trans versions after.version,Nat.le_trans fences after.fence,fun same => ?_,fun same unfenced clean => ?_⟩
  · have still := after.version
    rw [after.grants (by omega),before.grants (by omega)]
  · have still := after.version
    have steady := after.fence
    exact after.clean (by omega) (by omega) (before.clean (by omega) (by omega) clean)

theorem step_later {recomputeMembership : Option (List String → τ → Except AuthorizationError τ)} {s next : Converging τ}
    (valid : LedgerValid s.ledger) (unique : Unique Grant.id s.ledger.grants)
    (taken : ledgerStep recomputeMembership s label = some next) : s.ledger.Later next.ledger := by
  have moved := step_move valid.works taken
  intro account old before
  obtain ⟨new,after,fence⟩ := move_fence moved before
  exact ⟨new,after,move_version valid moved before after,fence,(step_grants unique taken).grantsOf before after,
    fun _ => move_clean valid moved before after⟩

end EngineeringPlatform.Authorization
