import EngineeringPlatform.AuthorizationDecisions
namespace EngineeringPlatform.Authorization
open Checked KeyedRows TransitionRuns InterleavedCalls Identity Organization Workspace

-- An identity change of the account has committed and has not converged.
def Owing (s : Ledger) (account : String) (work : ConvergenceWork) : Prop :=
  work.status = .pending ∧ work.source.sourceModule = "identity" ∧
    (∃ transaction, work.source.sourceTransactionId = some transaction ∧ s.transactions transaction = some .committed) ∧
    ∃ row ∈ s.pending, row.isOf work.id account = true

def Ledger.Owes (s : Ledger) (account : String) : Prop := ∃ work ∈ s.works, Owing s account work

theorem isOf_iff {row : PendingPrincipal} : row.isOf workId account = true ↔ row.workId = workId ∧ row.accountId = account := by
  simp [PendingPrincipal.isOf]

variable {s next : Ledger}

-- Whatever becomes of other work items, this one stays owed.
theorem ends_owes {id : Uuid} {bumped : Bool} (valid : LedgerValid s) (ends : Ends s next ended final bumped)
    (found : s.work id = some ended) (member : work ∈ s.works) (owing : Owing s account work) :
    work = ended ∨ (next.updateWork id fun _ => final).Owes account := by
  obtain ⟨present,here⟩ := find_some found
  refine or_iff_not_imp_left.mpr fun other => ?_
  have differs : work.id ≠ id := fun same =>
    other (List.inj_on_of_nodup_map valid.works member present (same.trans here.symm))
  obtain ⟨_,settles⟩ := ends.settles
  obtain ⟨pending,module_,⟨transaction,named,committed⟩,row,there,mine⟩ := owing
  obtain ⟨owned,_⟩ := isOf_iff.mp mine
  refine ⟨work,?_,pending,module_,⟨transaction,named,?_⟩,row,?_,mine⟩
  · have kept : (if work.id = id then final else work) = work := if_neg differs
    refine List.mem_map.mpr ⟨work,?_,kept⟩
    rw [settles.works]
    exact member
  · have same : next.transactions transaction = s.transactions transaction := congrFun settles.transactions transaction
    exact same.trans committed
  · have stays : ofWork ended.id (sorted ended.accounts) row = false := by
      simp [ofWork,owned,here,differs]
    have kept : row ∈ next.pending := by
      rw [settles.pending]
      exact List.mem_filter.mpr ⟨there,by simp [stays]⟩
    exact kept

-- Its own convergence bumps the version of the account.
theorem ends_bumps {id : Uuid} (valid : LedgerValid s) (ends : Ends s next work final true) (found : s.work id = some work)
    (owing : Owing s account work) (valid' : LedgerValid (next.updateWork id fun _ => final))
    (before : s.principal account = some old) (after : (next.updateWork id fun _ => final).principal account = some new) :
    old.version < new.version := by
  obtain ⟨member,here⟩ := find_some found
  obtain ⟨converged,settles⟩ := ends.settles
  obtain ⟨_,_,_,row,there,mine⟩ := owing
  obtain ⟨owned,accounted⟩ := isOf_iff.mp mine
  have listed : account ∈ converged := by
    rw [settles.chosen]
    obtain ⟨other,present,same,named⟩ := valid.pending row there
    have equal : other = work := List.inj_on_of_nodup_map valid.works present member (same.trans owned)
    refine List.mem_filter.mpr ⟨mem_sorted.mpr ?_,List.any_eq_true.mpr ⟨row,there,mine⟩⟩
    rw [←accounted,←equal]
    exact named
  have grown : (next.updateWork id fun _ => final).bumps = s.bumps ++ converged.map (⟨·,.work work.id⟩) := settles.bumps
  have counted : 0 < (converged.map fun other => (⟨other,.work work.id⟩ : Bump)).countP (·.accountId = account) :=
    List.countP_pos_iff.mpr ⟨_,List.mem_map.mpr ⟨account,listed,rfl⟩,by simp⟩
  rw [version_counted valid before,version_counted valid' after,grown,List.countP_append]
  omega

theorem move_owes {τ : Type} {label : LedgerLabel τ} (valid : LedgerValid s) (moved : LedgerMove s label next)
    (kept : ∀ id now, label = .cancel id now → ∀ work, s.work id = some work → work.source.sourceModule ≠ "identity")
    (before : s.principal account = some old) (after : next.principal account = some new)
    (still : new.version = old.version) (owes : s.Owes account) : next.Owes account := by
  obtain ⟨work,member,owing⟩ := owes
  have valid' := move_valid valid moved
  have found := find_of_mem valid.works member
  obtain ⟨pending,module_,⟨transaction,named,committed⟩,row,there,mine⟩ := id owing
  cases moved with
  | unchanged => exact ⟨work,member,owing⟩
  | registered fresh =>
    rename_i change now id
    obtain ⟨accounts,marked,generations,_,fenced,shape⟩ := register_shape change id now s
    rw [shape]
    refine ⟨work,List.mem_append_left _ (fenced.works ▸ member),pending,module_,⟨transaction,named,?_⟩,row,
      List.mem_append_left _ (fenced.pending ▸ there),mine⟩
    exact (congrFun fenced.transactions transaction).trans committed
  | completed stored waits judged ends =>
    rcases ends_owes valid ends stored member owing with rfl | stays
    · have bumped := ends_bumps valid ends stored owing valid' before after
      omega
    · exact stays
  | abandoned stored waits judged ends =>
    rcases ends_owes valid ends stored member owing with rfl | stays
    · obtain ⟨other,aborting,aborted⟩ := verdict_abandon judged
      cases Option.some.inj (named.symm.trans aborting)
      rw [committed] at aborted
      cases aborted
    · exact stays
  | cancelled stored waits ends =>
    rcases ends_owes valid ends stored member owing with rfl | stays
    · exact absurd module_ (kept _ _ rfl work stored)
    · exact stays
  | granted => exact ⟨work,member,owing⟩
  | revoked => exact ⟨work,member,owing⟩
  | started fresh =>
    rename_i other
    have differs : transaction ≠ other := fun same => by
      rw [same,fresh] at committed
      cases committed
    exact ⟨work,member,pending,module_,⟨transaction,named,(Table.put_other _ _ differs).trans committed⟩,row,there,mine⟩
  | resolved undecided =>
    rename_i other status
    have differs : transaction ≠ other := fun same => by
      rw [same,undecided] at committed
      cases committed
    exact ⟨work,member,pending,module_,⟨transaction,named,(Table.put_other _ _ differs).trans committed⟩,row,there,mine⟩

-- An account that owes a convergence is fenced.
theorem owes_dirty (valid : LedgerValid s) (owes : s.Owes account) (found : s.principal account = some row) :
    row.dirtyGeneration ≠ none := by
  obtain ⟨work,_,_,_,_,pending,there,mine⟩ := owes
  intro clean
  have greatest := (valid.accounts account).dirty row found
  rw [clean] at greatest
  exact greatest pending there (isOf_iff.mp mine).2

-- Work items keep what they are about, and a commit stands.
structure Ledger.Keeps (s next : Ledger) : Prop where
  works : ∀ work ∈ s.works, ∃ later ∈ next.works, later.source = work.source ∧ later.accounts = work.accounts
  committed : ∀ transaction, s.transactions transaction = some .committed → next.transactions transaction = some .committed

theorem Ledger.Keeps.refl (s : Ledger) : s.Keeps s := ⟨fun work member => ⟨work,member,rfl,rfl⟩,fun _ => id⟩

theorem Ledger.Keeps.trans {last : Ledger} (first : s.Keeps next) (second : next.Keeps last) : s.Keeps last := by
  refine ⟨fun work member => ?_,fun transaction done => second.committed _ (first.committed _ done)⟩
  obtain ⟨middle,there,source,accounts⟩ := first.works work member
  obtain ⟨later,here,sameSource,sameAccounts⟩ := second.works middle there
  exact ⟨later,here,sameSource.trans source,sameAccounts.trans accounts⟩

theorem ends_keeps {id : Uuid} {bumped : Bool} (valid : LedgerValid s) (ends : Ends s next ended final bumped)
    (found : s.work id = some ended) : s.Keeps (next.updateWork id fun _ => final) := by
  obtain ⟨present,here⟩ := find_some found
  obtain ⟨_,settles⟩ := ends.settles
  obtain ⟨_,source,generations⟩ := ends.same
  refine ⟨fun work member => ?_,fun transaction done => ?_⟩
  · refine ⟨if work.id = id then final else work,List.mem_map.mpr ⟨work,settles.works ▸ member,rfl⟩,?_⟩
    split
    · rename_i same
      obtain rfl := List.inj_on_of_nodup_map valid.works member present (same.trans here.symm)
      exact ⟨source,congrArg (List.map Prod.fst) generations⟩
    · exact ⟨rfl,rfl⟩
  · exact (congrFun settles.transactions transaction).trans done

theorem put_keeps {transaction : String} {status : TransactionStatus}
    (undecided : s.transactions transaction ≠ some .committed) :
    s.Keeps {s with transactions := s.transactions.put transaction status} := by
  refine ⟨fun work member => ⟨work,member,rfl,rfl⟩,fun other done => ?_⟩
  have differs : other ≠ transaction := fun same => undecided (same ▸ done)
  exact (Table.put_other _ _ differs).trans done

theorem move_keeps {τ : Type} {label : LedgerLabel τ} (valid : LedgerValid s) (moved : LedgerMove s label next) :
    s.Keeps next := by
  cases moved with
  | unchanged => exact .refl s
  | registered fresh =>
    rename_i change now id
    obtain ⟨accounts,marked,generations,_,fenced,shape⟩ := register_shape change id now s
    rw [shape]
    refine ⟨fun work member => ⟨work,List.mem_append_left _ (fenced.works ▸ member),rfl,rfl⟩,fun transaction done => ?_⟩
    exact (congrFun fenced.transactions transaction).trans done
  | completed stored _ _ ends => exact ends_keeps valid ends stored
  | abandoned stored _ _ ends => exact ends_keeps valid ends stored
  | cancelled stored _ ends => exact ends_keeps valid ends stored
  | granted => exact ⟨fun work member => ⟨work,member,rfl,rfl⟩,fun _ => id⟩
  | revoked => exact ⟨fun work member => ⟨work,member,rfl,rfl⟩,fun _ => id⟩
  | started fresh =>
    refine put_keeps fun done => ?_
    rw [fresh] at done
    cases done
  | resolved undecided =>
    refine put_keeps fun done => ?_
    rw [undecided] at done
    cases done

-- The facts of an account are the same, unless a change of it has committed since.
structure ChangesLater (one two : Estate) : Prop where
  kept : one.ledger.Keeps two.ledger
  facts : ∀ account facts, one.facts account = some facts →
    two.facts account = some facts ∨ changedSince one.ledger two.ledger account = true

theorem changedSince_iff {before now : Ledger} : changedSince before now account = true ↔
    ∃ work ∈ now.works, work.changes account = true ∧ now.hasCommitted work = true ∧ before.hasCommitted work = false := by
  simp [changedSince,and_assoc]

theorem hasCommitted_iff : s.hasCommitted work = true ↔
    ∃ transaction, work.source.sourceTransactionId = some transaction ∧ s.transactions transaction = some .committed := by
  unfold Ledger.hasCommitted
  cases work.source.sourceTransactionId <;> simp

theorem Ledger.Keeps.hasCommitted {work : ConvergenceWork} (kept : s.Keeps next) (done : s.hasCommitted work = true) :
    next.hasCommitted work = true := by
  obtain ⟨transaction,named,committed⟩ := hasCommitted_iff.mp done
  exact hasCommitted_iff.mpr ⟨transaction,named,kept.committed _ committed⟩

-- A change that had committed since stays one.
theorem Ledger.Keeps.changed {before : Ledger} (kept : s.Keeps next) (changed : changedSince before s account = true) :
    changedSince before next account = true := by
  obtain ⟨work,member,changes,done,fresh⟩ := changedSince_iff.mp changed
  obtain ⟨later,there,source,accounts⟩ := kept.works work member
  have here : next.hasCommitted later = true := by
    have done := kept.hasCommitted done
    unfold Ledger.hasCommitted at *
    rwa [source]
  refine changedSince_iff.mpr ⟨later,there,?_,here,?_⟩
  · unfold ConvergenceWork.changes at *
    rwa [source,accounts]
  · unfold Ledger.hasCommitted at *
    rwa [source]

theorem ChangesLater.refl (s : Estate) : ChangesLater s s := ⟨.refl _,fun _ _ known => .inl known⟩

theorem ChangesLater.trans {one two three : Estate} (first : ChangesLater one two) (second : ChangesLater two three) :
    ChangesLater one three := by
  refine ⟨first.kept.trans second.kept,fun account facts known => ?_⟩
  rcases first.facts account facts known with same | changed
  · rcases second.facts account facts same with still | changed
    · exact .inl still
    · obtain ⟨work,member,changes,done,fresh⟩ := changedSince_iff.mp changed
      refine .inr (changedSince_iff.mpr ⟨work,member,changes,done,Bool.eq_false_iff.mpr fun early => ?_⟩)
      rw [first.kept.hasCommitted early] at fresh
      cases fresh
  · exact .inr (second.kept.changed changed)

-- As long as the version stays, the facts do, unless a convergence is owed.
structure FactsLater (one two : Estate) : Prop where
  moved : one.Later two
  changes : ChangesLater one two
  facts : ∀ account old new facts, one.ledger.principal account = some old → two.ledger.principal account = some new →
    new.version = old.version → one.facts account = some facts → two.facts account = some facts ∨ two.ledger.Owes account
  owes : ∀ account old new, one.ledger.principal account = some old → two.ledger.principal account = some new →
    new.version = old.version → one.ledger.Owes account → two.ledger.Owes account

theorem FactsLater.refl (s : Estate) : FactsLater s s :=
  ⟨.refl s,.refl s,fun _ _ _ _ _ _ _ found => .inl found,fun _ _ _ _ _ _ owes => owes⟩

theorem FactsLater.trans {one two three : Estate} (first : FactsLater one two) (second : FactsLater two three) :
    FactsLater one three := by
  have steady {account : String} {old new : PrincipalVersion} (before : one.ledger.principal account = some old)
      (after : three.ledger.principal account = some new) (still : new.version = old.version) :
      ∃ middle, two.ledger.principal account = some middle ∧ middle.version = old.version ∧ new.version = middle.version := by
    obtain ⟨middle,found,up⟩ := first.moved.ledger account old before
    obtain ⟨last,there,on⟩ := second.moved.ledger account middle found
    cases Option.some.inj (after.symm.trans there)
    have low := up.version
    have high := on.version
    exact ⟨middle,found,by omega,by omega⟩
  refine ⟨first.moved.trans second.moved,first.changes.trans second.changes,
    fun account old new facts before after still known => ?_,
    fun account old new before after still owes => ?_⟩
  · obtain ⟨middle,found,same,again⟩ := steady before after still
    rcases first.facts account old middle facts before found same known with kept | owes
    · exact second.facts account middle new facts found after again kept
    · exact .inr (second.owes account middle new found after again owes)
  · obtain ⟨middle,found,same,again⟩ := steady before after still
    exact second.owes account middle new found after again (first.owes account old middle before found same owes)

theorem facts_same (s next : Estate) (accounts : next.governance.directory.accounts = s.governance.directory.accounts)
    (details : next.details = s.details) (account : String) : next.facts account = s.facts account := by
  unfold Estate.facts Estate.account
  rw [accounts,details]

-- Only the identity module changes account rows.
theorem governance_accounts {s : Estate} {converging : Converging Governance} (permitted : s.permits label = true)
    (taken : governanceStep s.converging label = some converging) :
    converging.membership.directory.accounts = s.converging.membership.directory.accounts := by
  cases label with
  | security label now => rw [security_directory taken]
  | account view => cases permitted
  | setSuperior account superior =>
    obtain ⟨directory,done,ran,rfl⟩ := committed_map_some.mp taken
    unfold setSuperior at ran
    obtain ⟨_,ran⟩ := require_bind_ok.mp ran
    obtain ⟨above,_,ran⟩ := bind_ok.mp ran
    obtain ⟨kind,_,ran⟩ := bind_ok.mp ran
    obtain ⟨checked,_,ran⟩ := bind_ok.mp ran
    cases pure_ok.mp ran
    rfl
  | create =>
    obtain ⟨g,workspace,ran,rfl⟩ := committed_map_some.mp taken
    rw [createWorkspace_ok ran]
  | invite =>
    obtain ⟨g,workspace,ran,rfl⟩ := committed_map_some.mp taken
    rw [(inviteLeader_ok ran).directory]
  | remove =>
    obtain ⟨g,workspace,ran,rfl⟩ := committed_map_some.mp taken
    rw [(removeLeader_ok ran).directory]
  | transfer =>
    obtain ⟨g,workspace,ran,rfl⟩ := committed_map_some.mp taken
    rw [(transferOwner_ok ran).directory]

theorem governance_keeps {s : Estate} {converging : Converging Governance} (valid : s.Valid)
    (taken : governanceStep s.converging label = some converging) : s.ledger.Keeps converging.ledger := by
  have governed {outcome : Except WorkspaceError (Governance × Workspace.Workspace)}
      (taken : governed s.converging outcome = some converging) : s.ledger.Keeps converging.ledger := by
    obtain ⟨g,workspace,_,rfl⟩ := committed_map_some.mp taken
    exact .refl _
  cases label with
  | security label now => exact move_keeps valid.ledger (step_move valid.ledger.works taken)
  | account view =>
    cases Option.some.inj taken
    exact .refl _
  | setSuperior account superior =>
    obtain ⟨directory,done,_,rfl⟩ := committed_map_some.mp taken
    exact .refl _
  | create => exact governed taken
  | invite => exact governed taken
  | remove => exact governed taken
  | transfer => exact governed taken

theorem governance_owes {s : Estate} {converging : Converging Governance} {account : String} {old new : PrincipalVersion}
    (valid : s.Valid) (permitted : s.permits label = true) (taken : governanceStep s.converging label = some converging)
    (before : s.ledger.principal account = some old) (after : converging.ledger.principal account = some new)
    (still : new.version = old.version) (owes : s.ledger.Owes account) : converging.ledger.Owes account := by
  have governed {outcome : Except WorkspaceError (Governance × Workspace.Workspace)}
      (taken : governed s.converging outcome = some converging) : converging.ledger.Owes account := by
    obtain ⟨g,workspace,_,rfl⟩ := committed_map_some.mp taken
    exact owes
  cases label with
  | security label now =>
    refine move_owes valid.ledger (step_move valid.ledger.works taken) (fun id later same work found => ?_) before after still
      owes
    cases label with
    | cancel id later =>
      cases same
      have foreign : (s.ledger.work id).all (fun work => work.source.sourceModule ≠ "identity") = true := permitted
      rw [found] at foreign
      simpa using foreign
    | begin | reconcile | grant | revoke | start | resolve | elsewhere => cases same
  | account view => cases permitted
  | setSuperior account superior =>
    obtain ⟨directory,done,_,rfl⟩ := committed_map_some.mp taken
    exact owes
  | create => exact governed taken
  | invite => exact governed taken
  | remove => exact governed taken
  | transfer => exact governed taken

theorem overwrite_account (s : Estate) (c : IdentityCommit) (account : String) (found : s.account account = some old) :
    ∃ new, (s.overwrite c).account account = some new ∧
      (new = old ∨ find AccountRow.id c.accounts account = some new) := by
  have shape : (s.overwrite c).account account =
      (((find AccountRow.id c.accounts account).map Prod.fst).or (s.governance.directory.accounts account)).bind fun view =>
        (((find AccountRow.id c.accounts account).map Prod.snd).or (s.details account)).map fun detail => (view,detail) := rfl
  rw [shape]
  cases find AccountRow.id c.accounts account with
  | none => exact ⟨old,found,.inl rfl⟩
  | some row => exact ⟨row,rfl,.inr rfl⟩

theorem identity_changes {s next : Estate} (valid : s.Valid) (taken : identityCommit c s = some next) : ChangesLater s next := by
  obtain ⟨⟨running,announced⟩,same⟩ := Option.ite_none_right_eq_some.mp taken
  cases Option.some.inj same
  have open_ : s.ledger.transactions c.transaction ≠ some .committed := fun done => by
    rw [running] at done
    cases done
  refine ⟨put_keeps open_,fun account facts known => ?_⟩
  obtain ⟨row,found,known⟩ := Option.map_eq_some_iff.mp known
  obtain ⟨row',there,changed⟩ := overwrite_account s c account found
  rcases changed with rfl | changed
  · exact .inl (Option.map_eq_some_iff.mpr ⟨row',there,known⟩)
  obtain ⟨member,here⟩ := find_some changed
  have notified := announced row' member
  unfold Estate.announced at notified
  rw [here,found] at notified
  rcases of_decide_eq_true notified with kept | fenced
  · exact .inl (Option.map_eq_some_iff.mpr ⟨row',there,kept ▸ known⟩)
  -- The fence names the account, and its transaction is the one that commits.
  · obtain ⟨work,listed,holds⟩ := List.any_eq_true.mp fenced
    simp only [decide_eq_true_eq,List.any_eq_true] at holds
    obtain ⟨_,module_,named,row,pending,mine⟩ := holds
    obtain ⟨owned,accounted⟩ := isOf_iff.mp mine
    obtain ⟨other,present,same,affects⟩ := valid.ledger.pending row pending
    obtain rfl := List.inj_on_of_nodup_map valid.ledger.works present listed (same.trans owned)
    refine .inr (changedSince_iff.mpr ⟨other,listed,?_,?_,Bool.eq_false_iff.mpr fun early => ?_⟩)
    · simp [ConvergenceWork.changes,module_,← accounted,affects]
    · exact hasCommitted_iff.mpr ⟨c.transaction,named,Table.put_same _ _ _⟩
    · obtain ⟨transaction,early,done⟩ := hasCommitted_iff.mp early
      rw [named] at early
      cases early
      exact open_ done

theorem identity_facts {s next : Estate} (valid : s.Valid) (taken : identityCommit c s = some next) : FactsLater s next := by
  have changes := identity_changes valid taken
  obtain ⟨⟨running,announced⟩,same⟩ := Option.ite_none_right_eq_some.mp taken
  cases Option.some.inj same
  have still {account : String} {work : ConvergenceWork} (owing : Owing s.ledger account work) (member : work ∈ s.ledger.works) :
      (s.overwrite c).ledger.Owes account := by
    obtain ⟨pending,module_,⟨transaction,named,committed⟩,row,there,mine⟩ := owing
    have differs : transaction ≠ c.transaction := fun same => by
      rw [same,running] at committed
      cases committed
    exact ⟨work,member,pending,module_,⟨transaction,named,(Table.put_other _ _ differs).trans committed⟩,row,there,mine⟩
  refine ⟨⟨Nat.le_refl _,transactions_later _ _,fun _ old found => ⟨old,found,.refl old⟩⟩,changes,
    fun account old new facts before after _ known => ?_,fun account old new _ _ _ owes => ?_⟩
  · obtain ⟨row,found,known⟩ := Option.map_eq_some_iff.mp known
    obtain ⟨row',there,changed⟩ := overwrite_account s c account found
    rcases changed with rfl | changed
    · exact .inl (Option.map_eq_some_iff.mpr ⟨row',there,known⟩)
    · obtain ⟨member,here⟩ := find_some changed
      have notified := announced row' member
      unfold Estate.announced at notified
      rw [here,found] at notified
      rcases of_decide_eq_true notified with kept | fenced
      · exact .inl (Option.map_eq_some_iff.mpr ⟨row',there,kept ▸ known⟩)
      · obtain ⟨work,listed,holds⟩ := List.any_eq_true.mp fenced
        simp only [decide_eq_true_eq,List.any_eq_true] at holds
        obtain ⟨pending,module_,named,pendingRow⟩ := holds
        exact .inr ⟨work,listed,pending,module_,⟨c.transaction,named,Table.put_same _ _ _⟩,pendingRow⟩
  · obtain ⟨work,member,owing⟩ := owes
    exact still owing member

theorem estate_facts {s next : Estate} (valid : s.Valid) (taken : estateStep s label = some next) : FactsLater s next := by
  obtain ⟨_,moved⟩ := estate_step valid taken
  cases label with
  | govern label =>
    obtain ⟨permitted,taken⟩ := Option.ite_none_right_eq_some.mp taken
    obtain ⟨converging,ran,rfl⟩ := Option.map_eq_some_iff.mp taken
    have accounts := governance_accounts permitted ran
    have same (account : String) (facts : SecurityFacts) (known : s.facts account = some facts) :
        Estate.facts {s with converging} account = some facts :=
      (facts_same s {s with converging} accounts rfl account).trans known
    exact ⟨moved,⟨governance_keeps valid ran,fun account facts known => .inl (same account facts known)⟩,
      fun account old new facts _ _ _ known => .inl (same account facts known),
      fun account old new before after still owes => governance_owes valid permitted ran before after still owes⟩
  | recompute affected now =>
    obtain ⟨governance,ran,rfl⟩ := Option.map_eq_some_iff.mp taken
    have kept := membershipChange_directory (toOption_some.mp ran)
    have accounts : governance.directory.accounts = s.governance.directory.accounts := congrArg Directory.accounts kept
    have same (account : String) (facts : SecurityFacts) (known : s.facts account = some facts) :
        Estate.facts {s with converging := ⟨s.ledger,governance⟩} account = some facts :=
      (facts_same s {s with converging := ⟨s.ledger,governance⟩} accounts rfl account).trans known
    exact ⟨moved,⟨.refl _,fun account facts known => .inl (same account facts known)⟩,
      fun account old new facts _ _ _ known => .inl (same account facts known),fun _ _ _ _ _ _ owes => owes⟩
  | identity commit => exact identity_facts valid taken
  | tick length =>
    cases Option.some.inj taken
    exact ⟨moved,⟨.refl _,fun _ _ known => .inl known⟩,fun _ _ _ _ _ _ _ known => .inl known,fun _ _ _ _ _ _ owes => owes⟩
  | publish sessionIdleTimeout =>
    cases Option.some.inj taken
    exact ⟨moved,⟨.refl _,fun _ _ known => .inl known⟩,fun _ _ _ _ _ _ _ known => .inl known,fun _ _ _ _ _ _ owes => owes⟩

def factsRules : Rules Estate where
  valid := Estate.Valid
  later := FactsLater
  refl := FactsLater.refl
  trans := fun _ _ _ => FactsLater.trans

theorem facts_follow : factsRules.Follows (Enabled estateStep) :=
  fun _ _ _ valid taken => ⟨(estate_step valid taken).1,estate_facts valid taken⟩

-- A version that is clean again, and still the same, has the facts it had.
theorem clean_facts {one two three : Estate} {account : String} {row last : PrincipalVersion} (first : FactsLater one two)
    (second : FactsLater two three) (valid : three.Valid) (before : one.ledger.principal account = some row)
    (known : one.facts account = some facts) (after : three.ledger.principal account = some last)
    (same : last.version = row.version) (clean : last.dirtyGeneration = none) : two.facts account = some facts := by
  obtain ⟨middle,found,up⟩ := first.moved.ledger account row before
  obtain ⟨new,there,on⟩ := second.moved.ledger account middle found
  cases Option.some.inj (after.symm.trans there)
  have low := up.version
  have high := on.version
  rcases first.facts account row middle facts before found (by omega) known with kept | owes
  · exact kept
  · exact absurd clean (owes_dirty valid.ledger (second.owes account middle last found after (by omega) owes) after)

end EngineeringPlatform.Authorization
