import EngineeringPlatform.AuthorizationLedger
namespace EngineeringPlatform.Authorization
open Checked KeyedRows TransitionRuns
variable {s next : Ledger}

-- The greatest generation an account's pending rows hold, none without rows.
def Greatest (pending : List PendingPrincipal) (account : String) : Option Nat → Prop
  | none => ∀ row ∈ pending, row.accountId ≠ account
  | some generation =>
    (∃ row ∈ pending, row.accountId = account ∧ row.generation = generation) ∧
      ∀ row ∈ pending, row.accountId = account → row.generation ≤ generation

structure AccountValid (s : Ledger) (account : String) : Prop where
  present : ∀ row ∈ s.pending, row.accountId = account → (s.principal account).isSome
  bounded : ∀ principal, s.principal account = some principal → ∀ row ∈ s.pending,
    row.accountId = account → row.generation ≤ principal.fenceGeneration
  dirty : ∀ principal, s.principal account = some principal →
    Greatest s.pending account principal.dirtyGeneration
  version : (s.principal account).elim 1 (·.version) = 1 + s.bumps.countP (·.accountId = account)

-- A legacy source names no transaction and counts as committed.
def SourceCommitted (s : Ledger) (source : SecurityChangeSource) : Prop :=
  (source.sourceTransactionId = none ∧ source.legacy) ∨
    ∃ transaction, source.sourceTransactionId = some transaction ∧ s.transactions transaction = some .committed

def SourceAborted (s : Ledger) (source : SecurityChangeSource) : Prop :=
  ∃ transaction, source.sourceTransactionId = some transaction ∧ s.transactions transaction = some .aborted

structure WorkValid (s : Ledger) (work : ConvergenceWork) : Prop where
  nodup : work.accounts.Nodup
  pending : work.status = .pending → ∀ entry ∈ work.generationMap,
    ∃ row ∈ s.pending, row.workId = work.id ∧ row.accountId = entry.1
  bumps : ∀ account ∈ work.accounts,
    s.bumps.count ⟨account,.work work.id⟩ = if work.status = .completed then 1 else 0
  source : work.status = .completed → SourceCommitted s work.source

structure LedgerValid (s : Ledger) : Prop where
  principals : Unique PrincipalVersion.accountId s.principals
  works : Unique ConvergenceWork.id s.works
  accounts : ∀ account, AccountValid s account
  work : ∀ work ∈ s.works, WorkValid s work
  pending : ∀ row ∈ s.pending, ∃ work ∈ s.works, work.id = row.workId ∧ row.accountId ∈ work.accounts
  bumps : ∀ bump ∈ s.bumps, ∀ id, bump.cause = .work id → ∃ work ∈ s.works, work.id = id

theorem empty_valid : LedgerValid .empty := by
  refine ⟨List.nodup_nil,List.nodup_nil,?_,?_,?_,?_⟩
  · intro account
    refine ⟨?_,?_,?_,rfl⟩
    · intro row member
      cases member
    · intro principal found
      cases found
    · intro principal found
      cases found
  · intro work member
    cases member
  · intro row member
    cases member
  · intro bump member
    cases member

theorem remaining_greatest (pending : List PendingPrincipal) (account : String) :
    Greatest pending account ((remainingPending pending account).map (·.generation)) := by
  unfold remainingPending
  cases found : (pending.filter (·.accountId = account)).argmax
      fun row => toLex (row.generation,OrderDual.toDual row.workId) with
  | none =>
    intro row member same
    have absent := List.argmax_eq_none.mp found
    have there : row ∈ pending.filter (·.accountId = account) := by simpa using ⟨member,same⟩
    rw [absent] at there
    cases there
  | some best =>
    have member := List.argmax_mem found
    have held : best ∈ pending ∧ best.accountId = account := by simpa using member
    refine ⟨⟨best,held.1,held.2,rfl⟩,?_⟩
    intro row there same
    have least := List.le_of_mem_argmax (f := fun row : PendingPrincipal =>
      toLex (row.generation,OrderDual.toDual row.workId)) (a := row) (by simpa using ⟨there,same⟩) found
    rcases Prod.Lex.toLex_le_toLex.mp least with less | ⟨equal,_⟩
    · exact Nat.le_of_lt less
    · exact Nat.le_of_eq equal

theorem bumped_principal (account : String) (cause : BumpCause) (now : Time) (s : Ledger) (other : String) :
    (bumpPrincipalVersion account cause now s).principal other =
      if other = account then some ((s.principal account).elim ⟨account,2,0,none,none,now⟩ (·.bumped now))
      else s.principal other := by
  refine find_upsert ?_ ?_ other
  · exact fun _ => rfl
  · rfl

theorem marked_principal (account reason : String) (now : Time) (s : Ledger) (other : String) :
    (markFence account reason now s).principal other =
      if other = account then
        some ((s.principal account).elim ⟨account,1,1,some 1,some reason,now⟩ (·.fenced reason now))
      else s.principal other := by
  refine find_upsert ?_ ?_ other
  · exact fun _ => rfl
  · rfl

theorem settled_principal (workId : Uuid) (account : String) (bumpVersion : Bool) (now : Time) (s : Ledger)
    (other : String) :
    (settle workId account bumpVersion now s).principal other =
      if other = account then (s.principal account).map
        (·.settled (if bumpVersion then 1 else 0) (remainingPending (settle workId account bumpVersion now s).pending
          account) now)
      else s.principal other := by
  have updated : (settle workId account bumpVersion now s).principal other =
      if other = account then (s.principal other).map
        (·.settled (if bumpVersion then 1 else 0) (remainingPending (settle workId account bumpVersion now s).pending
          account) now)
      else s.principal other := by
    refine find_update ?_ other
    exact fun _ => rfl
  rw [updated]
  by_cases same : other = account
  · subst same
    rfl
  · simp [same]

-- A bump touches the fence of nobody.
theorem bump_account (account : String) (cause : BumpCause) (now : Time) (other : String)
    (valid : AccountValid s other) : AccountValid (bumpPrincipalVersion account cause now s) other := by
  have count : (bumpPrincipalVersion account cause now s).bumps.countP (·.accountId = other) =
      s.bumps.countP (·.accountId = other) + if account = other then 1 else 0 := by
    change (s.bumps ++ [_]).countP _ = _
    rw [List.countP_append,List.countP_singleton]
    simp
  have found := bumped_principal account cause now s other
  by_cases same : other = account
  · subst same
    rw [if_pos rfl] at found
    have version := valid.version
    cases before : s.principal other with
    | none =>
      rw [before] at found version
      have fresh (row : PendingPrincipal) (member : row ∈ s.pending) : row.accountId ≠ other := by
        intro here
        have present := valid.present row member here
        rw [before] at present
        cases present
      refine ⟨?_,?_,?_,?_⟩
      · intro row member here
        rw [found]
        rfl
      · intro principal _ row member here
        exact absurd here (fresh row member)
      · intro principal same
        rw [found] at same
        cases Option.some.inj same
        exact fresh
      · rw [found,count]
        simp only [Option.elim] at version ⊢
        simp
        omega
    | some principal =>
      rw [before] at found version
      refine ⟨?_,?_,?_,?_⟩
      · intro row member here
        rw [found]
        rfl
      · intro after same row member here
        rw [found] at same
        cases Option.some.inj same
        exact valid.bounded principal before row member here
      · intro after same
        rw [found] at same
        cases Option.some.inj same
        exact valid.dirty principal before
      · rw [found,count]
        simp only [Option.elim,PrincipalVersion.bumped] at version ⊢
        simp
        omega
  · rw [if_neg same] at found
    refine ⟨?_,?_,?_,?_⟩
    · intro row member here
      rw [found]
      exact valid.present row member here
    · intro principal here
      rw [found] at here
      exact valid.bounded principal here
    · intro principal here
      rw [found] at here
      exact valid.dirty principal here
    · rw [found,count,if_neg fun back => same back.symm]
      exact valid.version

theorem settle_account (workId : Uuid) (account : String) (bumpVersion : Bool) (now : Time) (other : String)
    (present : (s.principal account).isSome) (valid : AccountValid s other) :
    AccountValid (settle workId account bumpVersion now s) other := by
  have kept (row : PendingPrincipal) (member : row ∈ (settle workId account bumpVersion now s).pending) :
      row ∈ s.pending :=
    (List.mem_filter.mp member).1
  have count : (settle workId account bumpVersion now s).bumps.countP (·.accountId = other) =
      s.bumps.countP (·.accountId = other) + if bumpVersion ∧ account = other then 1 else 0 := by
    cases bumpVersion with
    | false => simp [settle]
    | true =>
      change (s.bumps ++ [_]).countP _ = _
      rw [List.countP_append,List.countP_singleton]
      simp
  have found := settled_principal workId account bumpVersion now s other
  have version := valid.version
  by_cases same : other = account
  · subst same
    obtain ⟨principal,before⟩ := Option.isSome_iff_exists.mp present
    rw [if_pos rfl,before] at found
    rw [before] at version
    refine ⟨?_,?_,?_,?_⟩
    · intro row member here
      rw [found]
      rfl
    · intro after same row member here
      rw [found] at same
      cases Option.some.inj same
      exact valid.bounded principal before row (kept row member) here
    · intro after same
      rw [found] at same
      cases Option.some.inj same
      exact remaining_greatest _ _
    · rw [found,count]
      simp only [Option.map_some,Option.elim,PrincipalVersion.settled] at version ⊢
      cases bumpVersion <;> simp <;> omega
  · rw [if_neg same] at found
    have stays (row : PendingPrincipal) (member : row ∈ s.pending) (here : row.accountId = other) :
        row ∈ (settle workId account bumpVersion now s).pending := by
      refine List.mem_filter.mpr ⟨member,?_⟩
      have differs : ¬row.accountId = account := fun there => same (here.symm.trans there)
      simp [PendingPrincipal.isOf,differs]
    refine ⟨?_,?_,?_,?_⟩
    · intro row member here
      rw [found]
      exact valid.present row (kept row member) here
    · intro principal here row member
      rw [found] at here
      exact valid.bounded principal here row (kept row member)
    · intro principal here
      rw [found] at here
      have dirty := valid.dirty principal here
      cases generation : principal.dirtyGeneration with
      | none =>
        rw [generation] at dirty
        exact fun row member => dirty row (kept row member)
      | some generation' =>
        rw [generation] at dirty
        obtain ⟨⟨row,member,here,same⟩,least⟩ := dirty
        exact ⟨⟨row,stays row member here,here,same⟩,fun row member => least row (kept row member)⟩
    · rw [found,count,if_neg fun back => same back.2.symm]
      exact version

theorem settle_fence (workId : Uuid) (account : String) (bumpVersion : Bool) (now : Time) (other : String)
    (found : s.principal other = some principal) :
    ∃ principal', (settle workId account bumpVersion now s).principal other = some principal' ∧
      principal'.fenceGeneration = principal.fenceGeneration := by
  have after := settled_principal workId account bumpVersion now s other
  by_cases same : other = account
  · subst same
    rw [if_pos rfl,found] at after
    exact ⟨_,after,rfl⟩
  · rw [if_neg same,found] at after
    exact ⟨_,after,rfl⟩

-- Settling raises only where an account has no version row.
theorem settleAll_total (workId : Uuid) (bumpVersion : Bool) (now : Time) {accounts : List String}
    (present : ∀ account ∈ accounts, (s.principal account).isSome) :
    ∃ result, settleAll workId bumpVersion now accounts s = .ok result := by
  induction accounts generalizing s with
  | nil => exact ⟨_,rfl⟩
  | cons account rest ih =>
    obtain ⟨here,others⟩ := List.forall_mem_cons.mp present
    unfold settleAll settlePendingPrincipal
    by_cases taken : s.pending.any (·.isOf workId account) = true
    · have later (other : String) (member : other ∈ rest) :
          ((settle workId account bumpVersion now s).principal other).isSome := by
        obtain ⟨principal,found⟩ := Option.isSome_iff_exists.mp (others other member)
        obtain ⟨principal',after,_⟩ := settle_fence workId account bumpVersion now other found
        exact Option.isSome_iff_exists.mpr ⟨principal',after⟩
      obtain ⟨result,ran⟩ := ih later
      rw [if_pos taken]
      exact ⟨_,bind_ok.mpr ⟨_,require_bind_ok.mpr ⟨here,rfl⟩,bind_ok.mpr ⟨result,ran,rfl⟩⟩⟩
    · obtain ⟨result,ran⟩ := ih others
      rw [if_neg taken]
      exact ⟨_,bind_ok.mpr ⟨_,require_bind_ok.mpr ⟨here,rfl⟩,bind_ok.mpr ⟨result,ran,rfl⟩⟩⟩

def ofWork (workId : Uuid) (accounts : List String) (row : PendingPrincipal) : Bool :=
  row.workId = workId ∧ row.accountId ∈ accounts

def associated (s : Ledger) (workId : Uuid) (account : String) : Bool := s.pending.any (·.isOf workId account)

-- What settling a work's accounts does to the whole ledger.
structure Settles (s next : Ledger) (workId : Uuid) (bumpVersion : Bool) (accounts converged : List String) :
    Prop where
  works : next.works = s.works
  transactions : next.transactions = s.transactions
  pending : next.pending = s.pending.filter fun row => !ofWork workId accounts row
  chosen : converged = accounts.filter (associated s workId)
  bumps : next.bumps = s.bumps ++ if bumpVersion then converged.map (⟨·,.work workId⟩) else []
  keeps : ∀ other, AccountValid s other → AccountValid next other
  unique : Unique PrincipalVersion.accountId s.principals → Unique PrincipalVersion.accountId next.principals
  fences : ∀ other principal, s.principal other = some principal →
    ∃ principal', next.principal other = some principal' ∧
      principal'.fenceGeneration = principal.fenceGeneration

theorem settleAll_settles {workId now : Nat} {bumpVersion : Bool} {accounts converged : List String}
    (nodup : accounts.Nodup) (ran : settleAll workId bumpVersion now accounts s = .ok (next,converged)) :
    Settles s next workId bumpVersion accounts converged := by
  induction accounts generalizing s next converged with
  | nil =>
    cases pure_ok.mp ran
    refine ⟨rfl,rfl,?_,rfl,?_,fun _ => id,id,fun _ _ found => ⟨_,found,rfl⟩⟩
    · simp [ofWork]
    · simp
  | cons account rest ih =>
    obtain ⟨fresh,nodup⟩ := List.nodup_cons.mp nodup
    unfold settleAll settlePendingPrincipal at ran
    obtain ⟨⟨middle,updated⟩,first,ran⟩ := bind_ok.mp ran
    obtain ⟨⟨last,others⟩,tail,ran⟩ := bind_ok.mp ran
    cases pure_ok.mp ran
    obtain ⟨present,first⟩ := require_bind_ok.mp first
    by_cases here : associated s workId account = true
    · have taken : s.pending.any (·.isOf workId account) = true := here
      rw [if_pos taken] at first
      cases pure_ok.mp first
      have settled := ih nodup tail
      have elsewhere : rest.filter (associated (settle workId account bumpVersion now s) workId) =
          rest.filter (associated s workId) := by
        refine List.filter_congr fun other member => ?_
        have differs : ¬other = account := fun same => fresh (same ▸ member)
        unfold associated settle
        rw [Bool.eq_iff_iff,List.any_eq_true,List.any_eq_true]
        constructor
        · rintro ⟨row,there,same⟩
          exact ⟨row,(List.mem_filter.mp there).1,same⟩
        · rintro ⟨row,there,same⟩
          have held : row.workId = workId ∧ row.accountId = other := by simpa [PendingPrincipal.isOf] using same
          refine ⟨row,List.mem_filter.mpr ⟨there,?_⟩,same⟩
          simp [PendingPrincipal.isOf,held.2,differs]
      refine ⟨settled.works,settled.transactions,?_,?_,?_,?_,?_,?_⟩
      · rw [settled.pending]
        unfold settle
        rw [List.filter_filter]
        refine List.filter_congr fun row _ => ?_
        rw [Bool.eq_iff_iff]
        simp [ofWork,PendingPrincipal.isOf]
        tauto
      · rw [settled.chosen,elsewhere]
        simp [here]
      · rw [settled.bumps]
        cases bumpVersion <;> simp [settle]
      · exact fun other valid => settled.keeps other (settle_account _ _ _ _ _ present valid)
      · exact fun unique => settled.unique (unique_update (fun _ => rfl) unique)
      · intro other principal found
        obtain ⟨principal',after,same⟩ := settle_fence workId account bumpVersion now other found
        obtain ⟨principal'',last,same'⟩ := settled.fences other principal' after
        exact ⟨principal'',last,same'.trans same⟩
    · have missed : ¬s.pending.any (·.isOf workId account) = true := here
      rw [if_neg missed] at first
      cases pure_ok.mp first
      have settled := ih nodup tail
      refine ⟨settled.works,settled.transactions,?_,?_,settled.bumps,settled.keeps,settled.unique,
        settled.fences⟩
      · rw [settled.pending]
        refine List.filter_congr fun row member => ?_
        have other : row.isOf workId account = false := by
          simpa using fun taken => missed (List.any_eq_true.mpr ⟨row,member,taken⟩)
        rw [Bool.eq_iff_iff]
        simp only [PendingPrincipal.isOf,decide_eq_false_iff_not] at other
        simp [ofWork]
        tauto
      · rw [settled.chosen]
        simp [here]

-- What fencing a list of accounts does, one generation for each.
structure Fences (s marked : Ledger) (accounts : List String) (generations : List (String × Nat)) : Prop where
  names : generations.map (·.1) = accounts
  works : marked.works = s.works
  pending : marked.pending = s.pending
  bumps : marked.bumps = s.bumps
  transactions : marked.transactions = s.transactions
  unique : Unique PrincipalVersion.accountId s.principals → Unique PrincipalVersion.accountId marked.principals
  outside : ∀ other, other ∉ accounts → marked.principal other = s.principal other
  generation : ∀ entry ∈ generations, entry.2 = nextGeneration s entry.1
  inside : ∀ entry ∈ generations, ∃ principal, marked.principal entry.1 = some principal ∧
    principal.fenceGeneration = entry.2 ∧ principal.dirtyGeneration = some entry.2 ∧
    principal.version = (s.principal entry.1).elim 1 (·.version)

theorem marked_generation (account reason : String) (now : Time) (s : Ledger) :
    ∃ principal, (markFence account reason now s).principal account = some principal ∧
      principal.fenceGeneration = nextGeneration s account ∧
      principal.dirtyGeneration = some (nextGeneration s account) ∧
      principal.version = (s.principal account).elim 1 (·.version) := by
  have found := marked_principal account reason now s account
  rw [if_pos rfl] at found
  refine ⟨_,found,?_⟩
  unfold nextGeneration
  cases s.principal account with
  | none => exact ⟨rfl,rfl,rfl⟩
  | some principal => exact ⟨rfl,rfl,rfl⟩

theorem markFences_fences (reason : String) (now : Time) {accounts : List String} (nodup : accounts.Nodup)
    (ran : markFences reason now accounts s = (next,generations)) : Fences s next accounts generations := by
  induction accounts generalizing s next generations with
  | nil =>
    cases ran
    refine ⟨rfl,rfl,rfl,rfl,rfl,id,fun _ _ => rfl,?_,?_⟩
    · intro entry member
      cases member
    · intro entry member
      cases member
  | cons account rest ih =>
    obtain ⟨fresh,nodup⟩ := List.nodup_cons.mp nodup
    cases tail : markFences reason now rest (markFence account reason now s) with
    | mk marked others =>
      have shape : (marked,(account,nextGeneration s account) :: others) = (next,generations) := by
        rw [←ran,markFences,tail]
      cases shape
      have fenced := ih nodup tail
      have untouched (other : String) (differs : other ≠ account) :
          (markFence account reason now s).principal other = s.principal other := by
        rw [marked_principal,if_neg differs]
      have elsewhere (entry : String × Nat) (member : entry ∈ others) : entry.1 ≠ account := by
        intro same
        refine fresh ?_
        rw [←same,←fenced.names]
        exact List.mem_map_of_mem member
      refine ⟨?_,fenced.works,fenced.pending,fenced.bumps,fenced.transactions,?_,?_,?_,?_⟩
      · rw [List.map_cons,fenced.names]
      · exact fun unique => fenced.unique (unique_upsert (fun _ => rfl) unique rfl)
      · intro other outside
        have differs : other ≠ account := fun same => outside (same ▸ List.mem_cons_self)
        rw [fenced.outside other fun later => outside (List.mem_cons_of_mem _ later),untouched other differs]
      · intro entry member
        rcases List.mem_cons.mp member with rfl | later
        · rfl
        · rw [fenced.generation entry later]
          unfold nextGeneration
          rw [untouched entry.1 (elsewhere entry later)]
      · intro entry member
        rcases List.mem_cons.mp member with rfl | later
        · rw [fenced.outside account fresh]
          exact marked_generation account reason now s
        · have inside := fenced.inside entry later
          rw [untouched entry.1 (elsewhere entry later)] at inside
          exact inside

theorem register_shape (change : SecurityChange) (id : Uuid) (now : Time) (s : Ledger) :
    ∃ accounts marked generations, accounts.Nodup ∧ Fences s marked accounts generations ∧
      register change id now s =
        ({marked with
            works := marked.works ++ [plannedWork change id generations now],
            pending := marked.pending ++ generations.map (plannedWork change id generations now).pendingRow},
          plannedWork change id generations now) := by
  have nodup : ((change.accountIds.map strings).getD (principalIds s)).Nodup := by
    cases change.accountIds with
    | none => exact sorted_nodup _
    | some accounts => exact sorted_nodup _
  cases marked : markFences (strip change.reason) now ((change.accountIds.map strings).getD (principalIds s)) s with
  | mk next generations =>
    refine ⟨_,next,generations,nodup,markFences_fences _ _ nodup marked,?_⟩
    simp only [register,marked]

theorem mem_pendingRows {work : ConvergenceWork} {generations : List (String × Nat)} {row : PendingPrincipal}
    (member : row ∈ generations.map work.pendingRow) :
    row.workId = work.id ∧ (row.accountId,row.generation) ∈ generations := by
  obtain ⟨entry,there,rfl⟩ := List.mem_map.mp member
  exact ⟨rfl,there⟩

-- A new change becomes the greatest generation of every account it fences.
theorem fenced_account {marked : Ledger} {accounts : List String} {generations : List (String × Nat)}
    {work : ConvergenceWork} (works : List ConvergenceWork) (fenced : Fences s marked accounts generations)
    (valid : AccountValid s account) :
    AccountValid {marked with works, pending := marked.pending ++ generations.map work.pendingRow} account := by
  have version : s.bumps = marked.bumps := fenced.bumps.symm
  by_cases here : account ∈ accounts
  · obtain ⟨entry,member,rfl⟩ : ∃ entry ∈ generations, entry.1 = account := by
      rw [←fenced.names] at here
      exact List.mem_map.mp here
    obtain ⟨principal,found,fence,dirty,same⟩ := fenced.inside entry member
    have generation := fenced.generation entry member
    have below (row : PendingPrincipal) (there : row ∈ marked.pending ++ generations.map work.pendingRow)
        (own : row.accountId = entry.1) : row.generation ≤ entry.2 := by
      rcases List.mem_append.mp there with old | new
      · rw [fenced.pending] at old
        obtain ⟨before,stored⟩ := Option.isSome_iff_exists.mp (valid.present row old own)
        have bounded := valid.bounded before stored row old own
        rw [generation,nextGeneration,stored]
        exact Nat.le_succ_of_le bounded
      · have listed := fenced.generation _ (mem_pendingRows new).2
        rw [generation,←own]
        exact Nat.le_of_eq listed
    refine ⟨?_,?_,?_,?_⟩
    · intro row _ _
      exact Option.isSome_iff_exists.mpr ⟨principal,found⟩
    · intro after stored row there own
      cases found.symm.trans stored
      rw [fence]
      exact below row there own
    · intro after stored
      cases found.symm.trans stored
      rw [dirty]
      refine ⟨⟨work.pendingRow entry,?_,rfl,rfl⟩,below⟩
      exact List.mem_append_right _ (List.mem_map_of_mem member)
    · have held := valid.version
      rw [version] at held
      rw [←held,←same]
      change (marked.principal entry.1).elim 1 (·.version) = _
      rw [found]
      rfl
  · have same := fenced.outside account here
    have old (row : PendingPrincipal) (there : row ∈ marked.pending ++ generations.map work.pendingRow)
        (own : row.accountId = account) : row ∈ s.pending := by
      rcases List.mem_append.mp there with old | new
      · exact fenced.pending ▸ old
      · refine absurd ?_ here
        rw [←fenced.names,←own]
        exact List.mem_map_of_mem (mem_pendingRows new).2
    have new (row : PendingPrincipal) (there : row ∈ s.pending) :
        row ∈ marked.pending ++ generations.map work.pendingRow :=
      List.mem_append_left _ (fenced.pending ▸ there)
    refine ⟨?_,?_,?_,?_⟩
    · intro row there own
      exact (congrArg Option.isSome same).trans (valid.present row (old row there own) own)
    · intro principal found row there own
      exact valid.bounded principal (same.symm.trans found) row (old row there own) own
    · intro principal found
      have dirty := valid.dirty principal (same.symm.trans found)
      cases generation : principal.dirtyGeneration with
      | none =>
        rw [generation] at dirty
        exact fun row there own => dirty row (old row there own) own
      | some generation' =>
        rw [generation] at dirty
        obtain ⟨⟨row,there,own,equal⟩,least⟩ := dirty
        exact ⟨⟨row,new row there,own,equal⟩,fun row there own => least row (old row there own) own⟩
    · have held := valid.version
      rw [version] at held
      rw [←held]
      exact congrArg (·.elim 1 (·.version)) same

theorem register_valid {id : Uuid} (valid : LedgerValid s) (change : SecurityChange) (now : Time)
    (fresh : s.work id = none) : LedgerValid (register change id now s).1 := by
  obtain ⟨accounts,marked,generations,nodup,fenced,shape⟩ := register_shape change id now s
  rw [shape]
  have absent (work : ConvergenceWork) (member : work ∈ s.works) : work.id ≠ id := find_none fresh work member
  refine ⟨fenced.unique valid.principals,?_,fun account => fenced_account _ fenced (valid.accounts account),?_,?_,?_⟩
  · exact unique_insert (fenced.works.symm ▸ valid.works) (fenced.works.symm ▸ fresh)
  · intro work member
    rcases List.mem_append.mp member with old | new
    · have old : work ∈ s.works := fenced.works ▸ old
      have kept := valid.work work old
      refine ⟨kept.nodup,?_,?_,?_⟩
      · intro pending entry there
        obtain ⟨row,stored,same⟩ := kept.pending pending entry there
        exact ⟨row,List.mem_append_left _ (fenced.pending ▸ stored),same⟩
      · intro account listed
        change marked.bumps.count _ = _
        rw [fenced.bumps]
        exact kept.bumps account listed
      · intro completed
        change _ ∨ ∃ transaction, _ ∧ marked.transactions transaction = _
        rw [fenced.transactions]
        exact kept.source completed
    · cases List.mem_singleton.mp new
      refine ⟨?_,?_,?_,?_⟩
      · change (generations.map (·.1)).Nodup
        rw [fenced.names]
        exact nodup
      · intro _ entry there
        exact ⟨_,List.mem_append_right _ (List.mem_map_of_mem there),rfl,rfl⟩
      · intro account _
        change marked.bumps.count ⟨account,.work id⟩ = 0
        rw [fenced.bumps]
        refine List.count_eq_zero.mpr fun there => ?_
        obtain ⟨work,member,same⟩ := valid.bumps _ there id rfl
        exact absent work member same
      · intro completed
        cases completed
  · intro row member
    rcases List.mem_append.mp member with old | new
    · obtain ⟨work,there,same⟩ := valid.pending row (fenced.pending ▸ old)
      exact ⟨work,List.mem_append_left _ (fenced.works ▸ there),same⟩
    · obtain ⟨own,listed⟩ := mem_pendingRows new
      exact ⟨_,List.mem_append_right _ (List.mem_singleton.mpr rfl),own.symm,
        List.mem_map.mpr ⟨_,listed,rfl⟩⟩
  · intro bump member id same
    obtain ⟨work,there,equal⟩ := valid.bumps bump (fenced.bumps ▸ member) id same
    exact ⟨work,List.mem_append_left _ (fenced.works ▸ there),equal⟩

theorem bump_valid (valid : LedgerValid s) (account : String) (grant : Uuid) (now : Time) :
    LedgerValid (bumpPrincipalVersion account (.grant grant) now s) := by
  refine ⟨unique_upsert (fun _ => rfl) valid.principals rfl,valid.works,
    fun other => bump_account _ _ _ other (valid.accounts other),?_,valid.pending,?_⟩
  · intro work member
    have kept := valid.work work member
    refine ⟨kept.nodup,kept.pending,?_,kept.source⟩
    intro account listed
    change (s.bumps ++ [_]).count _ = _
    rw [List.count_append,kept.bumps account listed]
    simp
  · intro bump member id same
    rcases List.mem_append.mp member with old | new
    · exact valid.bumps bump old id same
    · cases List.mem_singleton.mp new
      cases same

-- The end of a work item: all of its accounts settled, its status final.
structure Ends (s next : Ledger) (work final : ConvergenceWork) (bumpVersion : Bool) : Prop where
  settles : ∃ converged, Settles s next work.id bumpVersion (sorted work.accounts) converged
  same : final.id = work.id ∧ final.source = work.source ∧ final.generationMap = work.generationMap
  status : final.status = if bumpVersion then .completed else .cancelled

theorem ends_valid {id : Uuid} (valid : LedgerValid s) (found : s.work id = some work) (waits : work.status = .pending)
    {final : ConvergenceWork} (ends : Ends s next work final bumpVersion)
    (source : bumpVersion = true → SourceCommitted s work.source) :
    LedgerValid (next.updateWork id fun _ => final) := by
  obtain ⟨member,rfl⟩ := find_some found
  obtain ⟨converged,settled⟩ := ends.settles
  obtain ⟨sameId,sameSource,sameMap⟩ := ends.same
  have mine := valid.work work member
  have all : converged = sorted work.accounts := by
    rw [settled.chosen]
    refine List.filter_eq_self.mpr fun account listed => ?_
    obtain ⟨entry,there,rfl⟩ := List.mem_map.mp (mem_sorted.mp listed)
    obtain ⟨row,stored,own,same⟩ := mine.pending waits entry there
    exact List.any_eq_true.mpr ⟨row,stored,by simp [PendingPrincipal.isOf,own,same]⟩
  have works : (next.updateWork work.id fun _ => final).works =
      update ConvergenceWork.id s.works work.id fun _ => final := by
    rw [←settled.works]
    rfl
  have inside (other : ConvergenceWork) (there : other ∈ (next.updateWork work.id fun _ => final).works) :
      (other ∈ s.works ∧ other.id ≠ work.id) ∨ other = final := by
    rw [works] at there
    exact mem_update valid.works found there
  have sameAccounts : final.accounts = work.accounts := by
    unfold ConvergenceWork.accounts
    rw [sameMap]
  have kept (other : ConvergenceWork) (there : other ∈ s.works) :
      ∃ other' ∈ (next.updateWork work.id fun _ => final).works,
        other'.id = other.id ∧ other'.accounts = other.accounts := by
    rw [works]
    refine ⟨_,List.mem_map_of_mem there,?_⟩
    split
    · rename_i here
      cases found.symm.trans (here ▸ find_of_mem valid.works there)
      exact ⟨sameId,sameAccounts⟩
    · exact ⟨rfl,rfl⟩
  refine ⟨settled.unique valid.principals,?_,fun account => ?_,?_,?_,?_⟩
  · rw [works]
    exact unique_replace sameId valid.works
  · have carried := settled.keeps account (valid.accounts account)
    exact ⟨carried.present,carried.bounded,carried.dirty,carried.version⟩
  · intro other there
    rcases inside other there with ⟨old,differs⟩ | rfl
    · have held := valid.work other old
      refine ⟨held.nodup,?_,?_,?_⟩
      · intro pending entry listed
        obtain ⟨row,stored,own,same⟩ := held.pending pending entry listed
        refine ⟨row,?_,own,same⟩
        change row ∈ next.pending
        rw [settled.pending]
        refine List.mem_filter.mpr ⟨stored,?_⟩
        have apart : ¬row.workId = work.id := fun back => differs (own.symm.trans back)
        simp [ofWork,apart]
      · intro account listed
        change next.bumps.count _ = _
        rw [settled.bumps,List.count_append,held.bumps account listed]
        have none : (if bumpVersion then converged.map (⟨·,.work work.id⟩) else []).count
            (⟨account,.work other.id⟩ : Bump) = 0 := by
          refine List.count_eq_zero.mpr fun there => ?_
          split at there
          · obtain ⟨_,_,same⟩ := List.mem_map.mp there
            exact differs (BumpCause.work.inj (congrArg Bump.cause same)).symm
          · cases there
        omega
      · intro completed
        change _ ∨ ∃ transaction, _ ∧ next.transactions transaction = _
        rw [settled.transactions]
        exact held.source completed
    · have accounts := sameAccounts
      refine ⟨accounts ▸ mine.nodup,?_,?_,?_⟩
      · intro pending
        rw [ends.status] at pending
        cases bumpVersion <;> cases pending
      · intro account listed
        change next.bumps.count _ = _
        have before : s.bumps.count (⟨account,.work work.id⟩ : Bump) = 0 := by
          rw [mine.bumps account (accounts ▸ listed),waits]
          rfl
        rw [settled.bumps,sameId,List.count_append,before,ends.status,all]
        cases bumpVersion with
        | false => rfl
        | true =>
          have once : ((sorted work.accounts).map fun account => (⟨account,.work work.id⟩ : Bump)).count
              ⟨account,.work work.id⟩ = 1 := by
            refine List.count_eq_one_of_mem ?_ ?_
            · refine (sorted_nodup _).map fun one two same => ?_
              cases same
              rfl
            · exact List.mem_map_of_mem (mem_sorted.mpr (accounts ▸ listed))
          simpa using once
      · intro completed
        rw [ends.status] at completed
        cases bumpVersion with
        | false => cases completed
        | true =>
          rw [sameSource]
          change _ ∨ ∃ transaction, _ ∧ next.transactions transaction = _
          rw [settled.transactions]
          exact source rfl
  · intro row there
    have old : row ∈ s.pending := by
      change row ∈ next.pending at there
      rw [settled.pending] at there
      exact (List.mem_filter.mp there).1
    obtain ⟨other,present,same,listed⟩ := valid.pending row old
    obtain ⟨other',after,same',accounts⟩ := kept other present
    exact ⟨other',after,same'.trans same,accounts ▸ listed⟩
  · intro bump there id same
    change bump ∈ next.bumps at there
    rw [settled.bumps] at there
    rcases List.mem_append.mp there with old | new
    · obtain ⟨other,present,equal⟩ := valid.bumps bump old id same
      obtain ⟨other',after,same',_⟩ := kept other present
      exact ⟨other',after,same'.trans equal⟩
    · split at new
      · obtain ⟨account,_,rfl⟩ := List.mem_map.mp new
        cases same
        obtain ⟨other',after,same',_⟩ := kept work member
        exact ⟨other',after,same'⟩
      · cases new

-- Every way a step can change the ledger.
inductive LedgerMove (s : Ledger) : LedgerLabel τ → Ledger → Prop where
  | unchanged (label : LedgerLabel τ) : LedgerMove s label s
  | registered {id : Uuid} : s.work id = none → LedgerMove s (.begin change id now) (register change id now s).1
  | completed {id : Uuid} : s.work id = some work → work.status = .pending → verdict s work.source = .ok .proceed →
      Ends s middle work final true →
      LedgerMove s (.reconcile id effects now) (middle.updateWork id fun _ => final)
  | abandoned {id : Uuid} : s.work id = some work → work.status = .pending → verdict s work.source = .ok .abandon →
      Ends s middle work final false →
      LedgerMove s (.reconcile id effects now) (middle.updateWork id fun _ => final)
  | cancelled {id : Uuid} : s.work id = some work → work.status = .pending → Ends s middle work final false →
      LedgerMove s (.cancel id now) (middle.updateWork id fun _ => final)
  | granted {id : Uuid} : LedgerMove s (.grant request id now) (bumpPrincipalVersion account (.grant id) now {s with grants})
  | revoked {id : Uuid} : LedgerMove s (.revoke id expectedVersion actor reason now)
      (bumpPrincipalVersion account (.grant id) now {s with grants})
  | started : s.transactions transaction = none →
      LedgerMove s (.start transaction) {s with transactions := s.transactions.put transaction .inProgress}
  | resolved : s.transactions transaction = some .inProgress →
      LedgerMove s (.resolve transaction status) {s with transactions := s.transactions.put transaction status}

theorem pendingWork_some {id : Uuid} (found : pendingWork s id = some work) :
    s.work id = some work ∧ work.status = .pending := by
  obtain ⟨stored,waits⟩ := Option.filter_eq_some_iff.mp found
  exact ⟨stored,by simpa using waits⟩

theorem abandon_ends (unique : Unique ConvergenceWork.id s.works) (found : s.work work.id = some work)
    (waits : work.status = .pending) (ran : abandon work now s = .ok (next,cleared)) :
    ∃ middle final, Ends s middle work final false ∧ next = middle.updateWork work.id fun _ => final := by
  unfold abandon at ran
  obtain ⟨⟨middle,cleared'⟩,settled,ran⟩ := bind_ok.mp ran
  cases pure_ok.mp ran
  have settles := settleAll_settles (sorted_nodup _) settled
  refine ⟨middle,{work with status := .cancelled, phase := .cancelled, cancelledAt := some now, updatedAt := now},
    ⟨⟨_,settles⟩,⟨rfl,rfl,rfl⟩,rfl⟩,?_⟩
  unfold cancelConvergenceWork Ledger.updateWork
  rw [settles.works,update_found unique found]
  simp [waits]

theorem withEffects_same (work : ConvergenceWork) (effects : ConvergenceEffects) (now : Time) :
    (work.withEffects effects now).id = work.id ∧ (work.withEffects effects now).source = work.source ∧
      (work.withEffects effects now).generationMap = work.generationMap ∧
      (work.withEffects effects now).status = work.status := by
  unfold ConvergenceWork.withEffects
  split <;> exact ⟨rfl,rfl,rfl,rfl⟩

theorem converge_ends {recomputeMembership : Option (List String → τ → Except AuthorizationError τ)}
    {s next : Converging τ} (waits : work.status = .pending)
    (ran : converge recomputeMembership work effects now s = .ok (next,converged)) :
    ∃ middle final, Ends s.ledger middle work final true ∧
      next.ledger = middle.updateWork work.id fun _ => final := by
  unfold converge at ran
  obtain ⟨membership,_,ran⟩ := bind_ok.mp ran
  obtain ⟨⟨middle,converged'⟩,settled,ran⟩ := bind_ok.mp ran
  cases pure_ok.mp ran
  have settles := settleAll_settles (sorted_nodup _) settled
  obtain ⟨sameId,sameSource,sameMap,sameStatus⟩ := withEffects_same work effects now
  have still : (work.withEffects effects now).status = .pending := sameStatus.trans waits
  refine ⟨{middle with works := s.ledger.works},{work.withEffects effects now with
      status := .completed, phase := .done, completedAt := some now, updatedAt := now},⟨⟨converged,?_⟩,?_,rfl⟩,?_⟩
  · exact ⟨rfl,settles.transactions,settles.pending,settles.chosen,settles.bumps,
      fun other valid => by
        have kept := settles.keeps other ⟨valid.present,valid.bounded,valid.dirty,valid.version⟩
        exact ⟨kept.present,kept.bounded,kept.dirty,kept.version⟩,settles.unique,settles.fences⟩
  · exact ⟨sameId,sameSource,sameMap⟩
  · unfold completeConvergenceWork Ledger.updateWork
    rw [settles.works]
    unfold updateConvergencePhase Ledger.updateWork
    rw [update_update fun _ _ => sameId,update_update]
    · simp [still]
    · intro row _
      simp [still,sameId]

-- A pending item converges exactly when its membership recomputation goes
-- through.
theorem converge_total {recomputeMembership : Option (List String → τ → Except AuthorizationError τ)}
    {s : Converging τ} (valid : LedgerValid s.ledger) (found : s.ledger.work work.id = some work)
    (waits : work.status = .pending) (effects : ConvergenceEffects) (now : Time) :
    (∃ result, converge recomputeMembership work effects now s = .ok result) ↔
      ∃ membership, recompute recomputeMembership (work.withEffects effects now).recomputeMembership
        (work.withEffects effects now).affectedAccountIds s.membership = .ok membership := by
  have present (account : String) (listed : account ∈ sorted work.accounts) :
      (s.ledger.principal account).isSome := by
    obtain ⟨entry,there,rfl⟩ := List.mem_map.mp (mem_sorted.mp listed)
    obtain ⟨row,stored,_,same⟩ := (valid.work work (find_some found).1).pending waits entry there
    exact (valid.accounts entry.1).present row stored same
  unfold converge
  constructor
  · rintro ⟨result,ran⟩
    obtain ⟨membership,recomputed,_⟩ := bind_ok.mp ran
    exact ⟨membership,recomputed⟩
  · rintro ⟨membership,recomputed⟩
    obtain ⟨result,settled⟩ := settleAll_total work.id true now (s := updateConvergencePhase work.id .versionPending
      now (s.ledger.updateWork work.id fun _ => work.withEffects effects now)) present
    exact ⟨_,bind_ok.mpr ⟨membership,recomputed,bind_ok.mpr ⟨result,settled,rfl⟩⟩⟩

theorem step_move {recomputeMembership : Option (List String → τ → Except AuthorizationError τ)}
    {s next : Converging τ} (unique : Unique ConvergenceWork.id s.ledger.works)
    (taken : ledgerStep recomputeMembership s label = some next) : LedgerMove s.ledger label next.ledger := by
  cases label with
  | begin change id now =>
    obtain ⟨ledger,work,ran,rfl⟩ := committed_map_some.mp taken
    unfold beginChange at ran
    obtain ⟨_,ran⟩ := require_bind_ok.mp ran
    split at ran
    · cases pure_ok.mp ran
      exact .unchanged _
    · obtain ⟨fresh,ran⟩ := require_bind_ok.mp ran
      have shape := pure_ok.mp ran
      have moved : (register change id now s.ledger).1 = ledger := congrArg Prod.fst shape
      exact moved ▸ .registered fresh
  | reconcile id effects now =>
    obtain ⟨converged,ran⟩ := committed_some.mp taken
    unfold reconcileWork at ran
    split at ran
    · cases pure_ok.mp ran
      exact .unchanged _
    · rename_i work found
      obtain ⟨stored,waits⟩ := pendingWork_some found
      obtain ⟨_,rfl⟩ := find_some stored
      obtain ⟨ruling,judged,ran⟩ := bind_ok.mp ran
      cases ruling with
      | wait =>
        cases pure_ok.mp ran
        exact .unchanged _
      | abandon =>
        obtain ⟨⟨ledger,cleared⟩,abandoned,ran⟩ := bind_ok.mp ran
        cases pure_ok.mp ran
        obtain ⟨middle,final,ends,rfl⟩ := abandon_ends unique stored waits abandoned
        exact .abandoned stored waits judged ends
      | proceed =>
        obtain ⟨middle,final,ends,same⟩ := converge_ends waits ran
        rw [same]
        exact .completed stored waits judged ends
  | cancel id now =>
    obtain ⟨ledger,cleared,ran,rfl⟩ := committed_map_some.mp taken
    unfold cancel at ran
    split at ran
    · cases pure_ok.mp ran
      exact .unchanged _
    · rename_i work found
      obtain ⟨stored,waits⟩ := pendingWork_some found
      obtain ⟨_,rfl⟩ := find_some stored
      obtain ⟨middle,final,ends,rfl⟩ := abandon_ends unique stored waits ran
      exact .cancelled stored waits ends
  | grant request id now =>
    obtain ⟨ledger,row,ran,rfl⟩ := committed_map_some.mp taken
    unfold grant at ran
    obtain ⟨_,ran⟩ := require_bind_ok.mp ran
    obtain ⟨_,ran⟩ := require_bind_ok.mp ran
    obtain ⟨_,ran⟩ := require_bind_ok.mp ran
    cases pure_ok.mp ran
    exact .granted
  | revoke id expectedVersion actor reason now =>
    obtain ⟨ledger,row,ran,rfl⟩ := committed_map_some.mp taken
    unfold revoke at ran
    obtain ⟨_,ran⟩ := require_bind_ok.mp ran
    obtain ⟨old,_,ran⟩ := orRaise_bind_ok.mp ran
    obtain ⟨_,ran⟩ := require_bind_ok.mp ran
    cases pure_ok.mp ran
    exact .revoked
  | start transaction =>
    obtain ⟨ledger,started,rfl⟩ := Option.map_eq_some_iff.mp taken
    obtain ⟨fresh,same⟩ := Option.ite_none_right_eq_some.mp started
    cases Option.some.inj same
    exact .started fresh
  | resolve transaction status =>
    obtain ⟨ledger,resolved,rfl⟩ := Option.map_eq_some_iff.mp taken
    obtain ⟨open_,same⟩ := Option.ite_none_right_eq_some.mp resolved
    cases Option.some.inj same
    exact .resolved open_
  | elsewhere change =>
    cases Option.some.inj taken
    exact .unchanged _

theorem verdict_proceed {source : SecurityChangeSource} (judged : verdict s source = .ok .proceed) :
    SourceCommitted s source := by
  unfold verdict at judged
  split at judged
  · rename_i absent
    by_cases legacy : source.legacy = true
    · exact .inl ⟨absent,legacy⟩
    · simp [legacy,pure,Except.pure] at judged
  · rename_i transaction named
    split at judged
    · cases judged
    · cases judged
    · rename_i settled
      exact .inr ⟨transaction,named,settled⟩
    · cases judged

theorem proceed_verdict {source : SecurityChangeSource} (settled : SourceCommitted s source) :
    verdict s source = .ok .proceed := by
  unfold verdict
  rcases settled with ⟨absent,legacy⟩ | ⟨transaction,named,committed⟩
  · rw [absent,legacy]
    rfl
  · rw [named]
    dsimp only
    rw [committed]
    rfl

theorem verdict_abandon {source : SecurityChangeSource} (judged : verdict s source = .ok .abandon) :
    SourceAborted s source := by
  unfold verdict at judged
  split at judged
  · by_cases legacy : source.legacy = true
    · simp [legacy,pure,Except.pure] at judged
    · simp [legacy,pure,Except.pure] at judged
  · rename_i transaction named
    split at judged
    · cases judged
    · rename_i settled
      exact ⟨transaction,named,settled⟩
    · cases judged
    · cases judged

theorem regrant_valid (valid : LedgerValid s) (grants : List Grant) : LedgerValid {s with grants} :=
  ⟨valid.principals,valid.works,
    fun account => ⟨(valid.accounts account).present,(valid.accounts account).bounded,
      (valid.accounts account).dirty,(valid.accounts account).version⟩,
    fun work member => ⟨(valid.work work member).nodup,(valid.work work member).pending,
      (valid.work work member).bumps,(valid.work work member).source⟩,
    valid.pending,valid.bumps⟩

-- A source that committed stays committed.
theorem transaction_valid (valid : LedgerValid s) {transaction : String} (status : TransactionStatus)
    (undecided : s.transactions transaction ≠ some .committed) :
    LedgerValid {s with transactions := s.transactions.put transaction status} := by
  refine ⟨valid.principals,valid.works,?_,?_,valid.pending,valid.bumps⟩
  · intro account
    have kept := valid.accounts account
    exact ⟨kept.present,kept.bounded,kept.dirty,kept.version⟩
  · intro work member
    have kept := valid.work work member
    refine ⟨kept.nodup,kept.pending,kept.bumps,fun completed => ?_⟩
    rcases kept.source completed with legacy | ⟨other,named,committed⟩
    · exact .inl legacy
    · refine .inr ⟨other,named,?_⟩
      have differs : other ≠ transaction := fun same => undecided (same ▸ committed)
      exact (Table.put_other _ _ differs).trans committed

theorem move_valid (valid : LedgerValid s) (moved : LedgerMove s label next) : LedgerValid next := by
  cases moved with
  | unchanged => exact valid
  | registered fresh => exact register_valid valid _ _ fresh
  | completed found waits judged ends => exact ends_valid valid found waits ends fun _ => verdict_proceed judged
  | abandoned found waits judged ends =>
    refine ends_valid valid found waits ends fun bumped => ?_
    cases bumped
  | cancelled found waits ends =>
    refine ends_valid valid found waits ends fun bumped => ?_
    cases bumped
  | granted => exact bump_valid (regrant_valid valid _) _ _ _
  | revoked => exact bump_valid (regrant_valid valid _) _ _ _
  | started fresh =>
    refine transaction_valid valid _ fun committed => ?_
    rw [fresh] at committed
    cases committed
  | resolved undecided =>
    refine transaction_valid valid _ fun committed => ?_
    rw [undecided] at committed
    cases committed

theorem bump_fence (account : String) (cause : BumpCause) (now : Time) (found : s.principal other = some principal) :
    ∃ principal', (bumpPrincipalVersion account cause now s).principal other = some principal' ∧
      principal.fenceGeneration ≤ principal'.fenceGeneration := by
  have after := bumped_principal account cause now s other
  by_cases same : other = account
  · subst same
    rw [if_pos rfl,found] at after
    exact ⟨_,after,Nat.le_refl _⟩
  · rw [if_neg same,found] at after
    exact ⟨_,after,Nat.le_refl _⟩

theorem register_fence {id : Uuid} (change : SecurityChange) (now : Time) (found : s.principal other = some principal) :
    ∃ principal', (register change id now s).1.principal other = some principal' ∧
      principal.fenceGeneration ≤ principal'.fenceGeneration := by
  obtain ⟨accounts,marked,generations,_,fenced,shape⟩ := register_shape change id now s
  rw [shape]
  change ∃ principal', marked.principal other = some principal' ∧ _
  by_cases here : other ∈ accounts
  · obtain ⟨entry,member,rfl⟩ : ∃ entry ∈ generations, entry.1 = other := by
      rw [←fenced.names] at here
      exact List.mem_map.mp here
    obtain ⟨principal',after,fence,_⟩ := fenced.inside entry member
    refine ⟨principal',after,?_⟩
    rw [fence,fenced.generation entry member,nextGeneration,found]
    exact Nat.le_succ _
  · exact ⟨principal,(fenced.outside other here).trans found,Nat.le_refl _⟩

theorem ends_fence {id : Uuid} (ends : Ends s next work final bumpVersion) (found : s.principal other = some principal) :
    ∃ principal', (next.updateWork id fun _ => final).principal other = some principal' ∧
      principal.fenceGeneration ≤ principal'.fenceGeneration := by
  obtain ⟨_,settled⟩ := ends.settles
  obtain ⟨principal',after,same⟩ := settled.fences other principal found
  exact ⟨principal',after,Nat.le_of_eq same.symm⟩

theorem move_fence (moved : LedgerMove s label next) (found : s.principal other = some principal) :
    ∃ principal', next.principal other = some principal' ∧
      principal.fenceGeneration ≤ principal'.fenceGeneration := by
  cases moved with
  | unchanged => exact ⟨principal,found,Nat.le_refl _⟩
  | registered => exact register_fence _ _ found
  | completed _ _ _ ends => exact ends_fence ends found
  | abandoned _ _ _ ends => exact ends_fence ends found
  | cancelled _ _ ends => exact ends_fence ends found
  | granted => exact bump_fence _ _ _ found
  | revoked => exact bump_fence _ _ _ found
  | started => exact ⟨principal,found,Nat.le_refl _⟩
  | resolved => exact ⟨principal,found,Nat.le_refl _⟩

-- What one step may do to a work item: end it, once, or leave it alone.
def WorkMoves (s : Ledger) (label : LedgerLabel τ) (work work' : ConvergenceWork) : Prop :=
  work' = work ∨ work.status = .pending ∧
    (work'.status = .completed ∧ SourceCommitted s work.source ∧
        (∃ effects now, label = .reconcile work.id effects now) ∨
      work'.status = .cancelled ∧ SourceAborted s work.source ∧
        (∃ effects now, label = .reconcile work.id effects now) ∨
      work'.status = .cancelled ∧ ∃ now, label = .cancel work.id now)

theorem ends_found (ends : Ends s next work final bumpVersion) (id : Uuid) :
    (next.updateWork work.id fun _ => final).work id =
      if id = work.id then (s.work id).map fun _ => final else s.work id := by
  obtain ⟨_,settled⟩ := ends.settles
  unfold Ledger.work
  rw [←settled.works]
  exact find_replace ends.same.1 id

theorem ends_work {id : Uuid} (ends : Ends s next work final bumpVersion) (stored : s.work work.id = some work)
    (found : s.work id = some old) :
    (id = work.id ∧ old = work ∧ (next.updateWork work.id fun _ => final).work id = some final) ∨
      (next.updateWork work.id fun _ => final).work id = some old := by
  have after := ends_found ends id
  by_cases here : id = work.id
  · subst here
    cases stored.symm.trans found
    refine .inl ⟨rfl,rfl,?_⟩
    rw [after,if_pos rfl,found]
    rfl
  · refine .inr ?_
    rw [after,if_neg here]
    exact found

theorem move_work {id : Uuid} (moved : LedgerMove s label next) (found : s.work id = some old) :
    ∃ new, next.work id = some new ∧ WorkMoves s label old new := by
  cases moved with
  | unchanged => exact ⟨old,found,.inl rfl⟩
  | registered fresh =>
    rename_i change now id'
    obtain ⟨accounts,marked,generations,_,fenced,shape⟩ := register_shape change id' now s
    refine ⟨old,?_,.inl rfl⟩
    rw [shape]
    change find _ (marked.works ++ [_]) id = _
    rw [fenced.works,find_insert id (by exact fresh)]
    have differs : ¬id = id' := by
      rintro rfl
      rw [fresh] at found
      cases found
    exact (if_neg differs).trans found
  | completed stored waits judged ends =>
    obtain ⟨_,rfl⟩ := find_some stored
    rcases ends_work ends stored found with ⟨rfl,rfl,after⟩ | after
    · exact ⟨_,after,.inr ⟨waits,.inl ⟨ends.status,verdict_proceed judged,_,_,rfl⟩⟩⟩
    · exact ⟨old,after,.inl rfl⟩
  | abandoned stored waits judged ends =>
    obtain ⟨_,rfl⟩ := find_some stored
    rcases ends_work ends stored found with ⟨rfl,rfl,after⟩ | after
    · exact ⟨_,after,.inr ⟨waits,.inr (.inl ⟨ends.status,verdict_abandon judged,_,_,rfl⟩)⟩⟩
    · exact ⟨old,after,.inl rfl⟩
  | cancelled stored waits ends =>
    obtain ⟨_,rfl⟩ := find_some stored
    rcases ends_work ends stored found with ⟨rfl,rfl,after⟩ | after
    · exact ⟨_,after,.inr ⟨waits,.inr (.inr ⟨ends.status,_,rfl⟩)⟩⟩
    · exact ⟨old,after,.inl rfl⟩
  | granted => exact ⟨old,found,.inl rfl⟩
  | revoked => exact ⟨old,found,.inl rfl⟩
  | started => exact ⟨old,found,.inl rfl⟩
  | resolved => exact ⟨old,found,.inl rfl⟩

-- An ended item holds nothing of anybody's fence any more.
theorem ends_cleared (valid : LedgerValid s) (found : s.work work.id = some work)
    (ends : Ends s next work final bumpVersion) : ∀ row ∈ next.pending, row.workId ≠ work.id := by
  obtain ⟨_,settled⟩ := ends.settles
  intro row member same
  rw [settled.pending] at member
  obtain ⟨stored,other⟩ := List.mem_filter.mp member
  obtain ⟨other,present,own,listed⟩ := valid.pending row stored
  have holds : s.work other.id = some other := find_of_mem valid.works present
  rw [own,same] at holds
  cases found.symm.trans holds
  have covered : ofWork work.id (sorted work.accounts) row = true := by
    simpa [ofWork,same] using mem_sorted.mpr listed
  rw [covered] at other
  cases other

theorem ends_absent {id : Uuid} (ends : Ends s next work final bumpVersion) (absent : s.work id = none) :
    (next.updateWork work.id fun _ => final).work id = none := by
  rw [ends_found ends id,absent]
  simp

theorem move_new {id : Uuid} (moved : LedgerMove s label next) (absent : s.work id = none)
    (found : next.work id = some new) : new.status = .pending := by
  cases moved with
  | registered fresh =>
    rename_i change now id'
    obtain ⟨accounts,marked,generations,_,fenced,shape⟩ := register_shape change id' now s
    rw [shape] at found
    have after : find ConvergenceWork.id (marked.works ++ [plannedWork change id' generations now]) id = some new := found
    rw [fenced.works,find_insert id (by exact fresh)] at after
    split at after
    · cases Option.some.inj after
      rfl
    · cases absent.symm.trans after
  | completed stored _ _ ends =>
    obtain ⟨_,rfl⟩ := find_some stored
    cases (ends_absent ends absent).symm.trans found
  | abandoned stored _ _ ends =>
    obtain ⟨_,rfl⟩ := find_some stored
    cases (ends_absent ends absent).symm.trans found
  | cancelled stored _ ends =>
    obtain ⟨_,rfl⟩ := find_some stored
    cases (ends_absent ends absent).symm.trans found
  | unchanged | granted | revoked | started | resolved => cases absent.symm.trans found

def convergenceInitial (membership : τ) : Converging τ := ⟨.empty,membership⟩

def ConvergingValid (s : Converging τ) : Prop := LedgerValid s.ledger

theorem converging_preserved {recomputeMembership : Option (List String → τ → Except AuthorizationError τ)} :
    Preserves (Enabled (ledgerStep recomputeMembership)) ConvergingValid :=
  fun _ _ _ valid taken => move_valid valid (step_move valid.works taken)

theorem converging_valid {recomputeMembership : Option (List String → τ → Except AuthorizationError τ)}
    {membership : τ} {s : Converging τ}
    (path : Runs (Enabled (ledgerStep recomputeMembership)) (convergenceInitial membership) labels s) :
    LedgerValid s.ledger := by
  have valid : ConvergingValid s := path.invariant converging_preserved empty_valid
  exact valid

-- A fence is exactly what the pending rows hold of it, a work item ends once, and
-- an account's version counts its grants and the completed items that name it.
theorem convergence_ledger {recomputeMembership : Option (List String → τ → Except AuthorizationError τ)}
    {membership : τ} {s : Converging τ}
    (path : Runs (Enabled (ledgerStep recomputeMembership)) (convergenceInitial membership) labels s) :
    (∀ account, match s.ledger.principal account with
      | some principal => Greatest s.ledger.pending account principal.dirtyGeneration ∧
          principal.version = 1 + s.ledger.bumps.countP (·.accountId = account)
      | none => Greatest s.ledger.pending account none) ∧
    (∀ work ∈ s.ledger.works, (work.status = .completed → SourceCommitted s.ledger work.source) ∧
      ∀ account ∈ work.accounts,
        s.ledger.bumps.count ⟨account,.work work.id⟩ = if work.status = .completed then 1 else 0) ∧
    ∀ label next, ledgerStep recomputeMembership s label = some next →
      (∀ account principal, s.ledger.principal account = some principal →
        ∃ principal', next.ledger.principal account = some principal' ∧
          principal.fenceGeneration ≤ principal'.fenceGeneration) ∧
      (∀ id work, s.ledger.work id = some work →
        ∃ work', next.ledger.work id = some work' ∧ WorkMoves s.ledger label work work') ∧
      ∀ id work, s.ledger.work id = none → next.ledger.work id = some work → work.status = .pending := by
  have valid := converging_valid path
  refine ⟨?_,?_,?_⟩
  · intro account
    have held := valid.accounts account
    cases found : s.ledger.principal account with
    | none =>
      intro row member here
      have present := held.present row member here
      rw [found] at present
      cases present
    | some principal =>
      have version := held.version
      rw [found] at version
      exact ⟨held.dirty principal found,version⟩
  · intro work member
    have held := valid.work work member
    exact ⟨held.source,held.bumps⟩
  · intro label next taken
    have moved := step_move valid.works taken
    exact ⟨fun _ _ => move_fence moved,fun _ _ => move_work moved,fun _ _ => move_new moved⟩

def sampleSource (first : Bool) : SecurityChangeSource :=
  ⟨"identity","admin","status","key",some (if first then "7" else "8"),some "fingerprint",
    some (if first then 7 else 8),by decide,rfl,by decide +revert⟩

def sampleChange (first : Bool) : SecurityChange := ⟨sampleSource first,"reason",some ["alice"],[],[],false⟩

-- Two changes of one account overlap: the later one commits and converges first,
-- then the earlier one aborts.
def sampleOverlap : List (LedgerLabel Unit) :=
  [.start "7",.start "8",.begin (sampleChange true) 1 10,.begin (sampleChange false) 2 11,
    .resolve "8" .committed,.reconcile 2 {} 12]

def sampleOverlapped : Converging Unit :=
  (execute (ledgerStep none) (convergenceInitial ()) sampleOverlap).get (by decide)

theorem convergence_ledger_overlap :
    sampleOverlapped.ledger.principal "alice" = some ⟨"alice",2,2,some 1,some "reason",12⟩ ∧
      Greatest sampleOverlapped.ledger.pending "alice" (some 1) := by
  have reached : Runs (Enabled (ledgerStep none)) (convergenceInitial ()) sampleOverlap sampleOverlapped :=
    execute_get (by decide)
  have found : sampleOverlapped.ledger.principal "alice" = some ⟨"alice",2,2,some 1,some "reason",12⟩ := by decide
  have ledger := (convergence_ledger reached).1 "alice"
  rw [found] at ledger
  exact ⟨found,ledger.1⟩

def BumpedOnceWhenCommitted (s : Ledger) : Prop :=
  ∀ work ∈ s.works, work.status ≠ .pending → ∀ account ∈ work.accounts,
    s.bumps.count ⟨account,.work work.id⟩ = 1 ↔ SourceCommitted s work.source

-- The caller cancels while its source transaction is still open, and then that
-- transaction commits.
def sampleCancel : List (LedgerLabel Unit) :=
  [.start "7",.begin (sampleChange true) 1 10,.cancel 1 11,.resolve "7" .committed]

theorem cancelled_source_commits :
    ¬∀ labels s, Runs (Enabled (ledgerStep none)) (convergenceInitial ()) labels s →
      BumpedOnceWhenCommitted s.ledger := by
  intro bumped
  have reached : Runs (Enabled (ledgerStep none)) (convergenceInitial ()) sampleCancel _ :=
    execute_get (by decide)
  have once := bumped _ _ reached _ (List.mem_singleton.mpr rfl) (by decide) "alice" (by decide)
  have committed := once.mpr (.inr ⟨"7",rfl,by decide⟩)
  exact absurd committed (by decide)

end EngineeringPlatform.Authorization
