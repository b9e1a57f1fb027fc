import EngineeringPlatform.SandboxCapacity
namespace EngineeringPlatform.Sandbox
open Checked Idempotency TransitionRuns SharedWorkers
variable {κ : Type} {crypto : SandboxCryptography κ} {allowed : Allowed κ}

-- The deadline or the lease of a materialization has run out at `observedAt`.
def Due (observedAt : Time) (id : Uuid) (s : SandboxStore κ) : Prop :=
  ∃ row lease, s.materialization id = some row ∧ s.lease id = some lease ∧
    (row.deadlineAt ≤ observedAt ∨ lease.expiresAt ≤ observedAt)

def ReadyDue (observedAt : Time) (id : Uuid) (s : SandboxStore κ) : Prop :=
  ∀ row, s.materialization id = some row → row.state = .ready → Due observedAt id s

-- A materialization keeps its deadline; READY is entered by `readied` alone and
-- left by a permitted `begun` alone.
structure RowMoves (allowed : Allowed κ) (old new : Materialization κ) : Prop where
  id : new.id = old.id
  deadline : new.deadlineAt = old.deadlineAt
  entered : new.state = .ready → old.state = .ready ∨ allowed.readies old.id
  left : old.state = .ready → new.state = .ready ∨ allowed.begins old.id

theorem RowMoves.refl (row : Materialization κ) : RowMoves allowed row row := ⟨rfl,rfl,.inl,.inl⟩

theorem RowStep.moves {row row' : Materialization κ} (step : RowStep (allowed.begins row.id) row row') :
    RowMoves allowed row row' := by
  cases step with
  | bound => exact ⟨rfl,rfl,.inl,.inl⟩
  | touched => exact ⟨rfl,rfl,.inl,.inl⟩
  | @begun terminal transition _ _ permitted _ expected _ =>
    refine ⟨rfl,rfl,fun entered => ?_,fun _ => .inr permitted⟩
    cases (show transition = .ready from entered)
    cases terminal <;> cases expected
  | orphaned provisioning => exact ⟨rfl,rfl,(fun entered => by cases entered),(fun left => by cases provisioning.symm.trans left)⟩
  | evidencePersisted => exact ⟨rfl,rfl,.inl,.inl⟩
  | secretRevoked => exact ⟨rfl,rfl,.inl,.inl⟩
  | @completed terminal transition _ expected cleaning =>
    refine ⟨rfl,rfl,fun entered => ?_,fun left => ?_⟩
    · cases (show terminal = .ready from entered)
      cases expected
    · rw [left] at cleaning
      rcases cleaning with same | same <;> cases same
      cases terminal <;> cases expected
  | quarantined cleaning =>
    refine ⟨rfl,rfl,(fun entered => by cases entered),fun left => ?_⟩
    rw [left] at cleaning
    cases cleaning

structure RowsMove (allowed : Allowed κ) (s next : SandboxStore κ) : Prop where
  moves : Table.Advances (RowMoves allowed) s.materialization next.materialization
  inserted : ∀ id row, s.materialization id = none → next.materialization id = some row →
    row.state = .provisioning

variable {s next : SandboxStore κ}

theorem RowsMove.changed {change : Materialization κ → Materialization κ}
    (rows : next.materializations = (s.setMaterialization id' change).materializations)
    (keeps : ∀ row, (change row).id = row.id) (found : s.materialization id' = some row)
    (moved : RowMoves allowed row (change row)) : RowsMove allowed s next := by
  have view (id : Uuid) : next.materialization id =
      if id = id' then (s.materialization id).map change else s.materialization id := by
    unfold SandboxStore.materialization
    rw [rows]
    exact setMaterialization_view s change keeps id' id
  constructor
  · intro id old stored
    refine ⟨if id = id' then change old else old,?_,?_⟩
    · rw [view,stored]
      split <;> rfl
    · split
      · rename_i same
        subst same
        cases found.symm.trans stored
        exact moved
      · exact .refl old
  · intro id new absent stored
    rw [view,absent] at stored
    split at stored <;> cases stored

theorem Write.rows (step : Write allowed s next) : RowsMove allowed s next := by
  have kept : RowsMove allowed s s :=
    ⟨.refl .refl _,fun _ _ absent stored => by cases absent.symm.trans stored⟩
  cases step with
  | @reserved ledger binding policy ids tokenDigest now _ _ fresh =>
    have row_at (id : Uuid) : (s.addReservation binding policy ids tokenDigest
        (nextGeneration binding.executionId s) now).materialization id = _ :=
      addReservation_materialization fresh id
    constructor
    · intro id row found
      refine ⟨row,(row_at id).trans ?_,.refl row⟩
      split
      · rename_i same
        cases (same ▸ found).symm.trans fresh
      · exact found
    · intro id row absent stored
      have stored := (row_at id).symm.trans stored
      split at stored
      · cases Option.some.inj stored
        rfl
      · cases absent.symm.trans stored
  | row change keeps found step =>
    obtain ⟨_,rfl⟩ := KeyedRows.find_some found
    exact .changed rfl keeps found step.moves
  | readied permitted found _ _ provisioning =>
    obtain ⟨_,rfl⟩ := KeyedRows.find_some found
    exact .changed rfl (fun _ => rfl) found
      ⟨rfl,rfl,fun _ => .inr permitted,fun left => by cases provisioning.symm.trans left⟩
  | fenced found => exact .changed rfl (fun _ => rfl) found ⟨rfl,rfl,.inl,.inl⟩
  | released found => exact .changed rfl (fun _ => rfl) found ⟨rfl,rfl,.inl,.inl⟩
  | _ => exact ⟨kept.moves,kept.inserted⟩

theorem Write.due (step : Write allowed s next) (due : Due observedAt id' s) :
    Due observedAt id' next := by
  obtain ⟨row,lease,found,leased,late⟩ := due
  obtain ⟨row',stored,moved⟩ := step.rows.moves id' row found
  obtain ⟨lease',held,same⟩ := step.leases id' lease leased
  exact ⟨row',lease',stored,held,by rw [moved.deadline,same.2.1]; exact late⟩

theorem Writes.due (path : Writes allowed s next) (due : Due observedAt id' s) :
    Due observedAt id' next := by
  induction path with
  | refl => exact due
  | tail _ step ih => exact step.due ih

-- A READY materialization that is not due was readied on the way.
theorem Writes.ready_due (path : Writes allowed s next)
    (settled : allowed.readies id' → Due observedAt id' s) (due : ReadyDue observedAt id' s) :
    ReadyDue observedAt id' next := by
  induction path with
  | refl => exact due
  | @tail middle next first step ih =>
    intro row' stored ready
    cases found : middle.materialization id' with
    | none => cases (step.rows.inserted id' row' found stored).symm.trans ready
    | some row =>
      obtain ⟨other,at_next,moved⟩ := step.rows.moves id' row found
      cases at_next.symm.trans stored
      obtain ⟨_,rfl⟩ := KeyedRows.find_some found
      refine step.due ?_
      rcases moved.entered ready with before | readied
      · exact ih row found before
      · exact Writes.due first (settled readied)

theorem Writes.ready_left (path : Writes allowed s next)
    (found : s.materialization id' = some row) (ready : row.state = .ready) :
    allowed.begins id' ∨ ∃ row', next.materialization id' = some row' ∧ row'.state = .ready := by
  induction path with
  | refl => exact .inr ⟨row,found,ready⟩
  | tail _ step ih =>
    rcases ih with begun | ⟨middle,stored,still⟩
    · exact .inl begun
    · obtain ⟨row',kept,moved⟩ := step.rows.moves id' middle stored
      obtain ⟨_,rfl⟩ := KeyedRows.find_some stored
      exact (moved.left still).symm.imp id fun after => ⟨row',kept,after⟩

-- Where a receipt of the next state comes from; `ownerIds` is what is issued by then.
inductive Sourced (allowed : Allowed κ) (s : SandboxStore κ) (ownerIds : List Uuid) (new : CommandReceipt κ) : Prop where
  | kept (old : CommandReceipt κ) (stored : old ∈ s.receipts) (id : new.id = old.id)
      (fingerprint : new.requestFingerprint = old.requestFingerprint) (state : new.state = old.state)
      (owner : new.ownerId = old.ownerId) (progress : new.progress = old.progress)
  | completed (state : new.state = .completed) (owner : new.ownerId = none)
  | claimed (state : new.state = .inProgress) (owner : new.ownerId = some ownerId)
      (fresh : ownerId ∉ s.ownerIds) (issued : ownerId ∈ ownerIds) (progress : new.progress = none)
  | takenOver (old : CommandReceipt κ) (stored : old ∈ s.receipts) (running : old.state = .inProgress)
      (state : new.state = .inProgress) (fingerprint : new.requestFingerprint = old.requestFingerprint)
      (owner : new.ownerId = some ownerId) (fresh : ownerId ∉ s.ownerIds) (issued : ownerId ∈ ownerIds)
      (progress : new.progress = old.progress)
  | saved (old : CommandReceipt κ) (stored : old ∈ s.receipts) (running : old.state = .inProgress)
      (state : new.state = .inProgress) (id : new.id = old.id)
      (fingerprint : new.requestFingerprint = old.requestFingerprint) (held : old.ownerId = some ownerId)
      (owner : new.ownerId = some ownerId) (permitted : allowed.saves ownerId progress.candidates)
      (saved : new.progress = some progress)

theorem Write.receipts (step : Write allowed s next)
    (unique : KeyedRows.Unique CommandReceipt.id s.receipts) :
    KeyedRows.Unique CommandReceipt.id next.receipts ∧ (∀ owner ∈ s.ownerIds, owner ∈ next.ownerIds) ∧
      ∀ new ∈ next.receipts, Sourced allowed s next.ownerIds new := by
  have kept : KeyedRows.Unique CommandReceipt.id s.receipts ∧ (∀ owner ∈ s.ownerIds, owner ∈ s.ownerIds) ∧
      ∀ new ∈ s.receipts, Sourced allowed s s.ownerIds new :=
    ⟨unique,fun _ => id,fun new stored => .kept new stored rfl rfl rfl rfl rfl⟩
  cases step with
  | claimed unclaimed fresh owner =>
    refine ⟨KeyedRows.unique_insert unique fresh,fun _ => List.mem_cons_of_mem _,fun new member => ?_⟩
    rcases List.mem_append.mp member with old | single
    · exact .kept new old rfl rfl rfl rfl rfl
    · cases List.mem_singleton.mp single
      exact .claimed rfl rfl owner List.mem_cons_self rfl
  | takenOver found running expired owner =>
    obtain ⟨present,_⟩ := KeyedRows.find_some found
    refine ⟨KeyedRows.unique_update (fun _ => rfl) unique,fun _ => List.mem_cons_of_mem _,fun new member => ?_⟩
    rcases KeyedRows.mem_update unique (KeyedRows.find_of_mem unique present) member with ⟨old,_⟩ | rfl
    · exact .kept new old rfl rfl rfl rfl rfl
    · exact .takenOver _ present running running rfl rfl owner List.mem_cons_self rfl
  | receipt change keeps found owned step =>
    refine ⟨KeyedRows.unique_update (fun row => (keeps row).1) unique,fun _ => id,fun new member => ?_⟩
    rcases KeyedRows.mem_update unique found member with ⟨old,_⟩ | rfl
    · exact .kept new old rfl rfl rfl rfl rfl
    · have present := (KeyedRows.find_some found).1
      revert step
      generalize change _ = after
      intro step
      cases step with
      | advanced => exact .kept _ present rfl rfl rfl rfl rfl
      | bound => exact .kept _ present rfl rfl rfl rfl rfl
      | completed => exact .completed rfl rfl
  | saved permitted found owned =>
    refine ⟨KeyedRows.unique_update (fun _ => rfl) unique,fun _ => id,fun new member => ?_⟩
    rcases KeyedRows.mem_update unique found member with ⟨old,_⟩ | rfl
    · exact .kept new old rfl rfl rfl rfl rfl
    · exact .saved _ (KeyedRows.find_some found).1 owned.1 owned.1 rfl rfl owned.2 owned.2 permitted rfl
  | _ => exact kept

def CommandReceipt.candidates (receipt : CommandReceipt κ) : List Uuid :=
  (receipt.progress.map ReconcileProgress.candidates).getD []

theorem CommandReceipt.candidates_of (receipt : CommandReceipt κ) (progress : receipt.progress = saved) :
    receipt.candidates = (saved.map ReconcileProgress.candidates).getD [] :=
  congrArg (fun saved => (Option.map ReconcileProgress.candidates saved).getD []) progress

-- A running reconciliation saved `id` among its candidates; `Settled` says that its
-- body, the only one with its fingerprint, observes `id` as due.
def Settled (crypto : SandboxCryptography κ) (id : Uuid) (s : SandboxStore κ) : Prop :=
  ∀ receipt ∈ s.receipts, receipt.state = .inProgress → id ∈ receipt.candidates →
    ∀ body, crypto.reconcileFingerprint body = receipt.requestFingerprint → Due body.observedAt id s

structure Savable (crypto : SandboxCryptography κ) (ownerId : Uuid) (candidates : List Uuid)
    (s : SandboxStore κ) : Prop where
  issued : ownerId ∈ s.ownerIds
  due : ∀ receipt ∈ s.receipts, receipt.ownerId = some ownerId →
    ∀ body, crypto.reconcileFingerprint body = receipt.requestFingerprint →
      ∀ id ∈ candidates, ReadyDue body.observedAt id s

structure ReconcileValid (crypto : SandboxCryptography κ) (s : SandboxStore κ) : Prop where
  capacity : CapacityValid s
  receipts : KeyedRows.Unique CommandReceipt.id s.receipts
  running : ∀ receipt ∈ s.receipts, receipt.ownerId ≠ none → receipt.state = .inProgress
  issued : ∀ receipt ∈ s.receipts, ∀ owner, receipt.ownerId = some owner → owner ∈ s.ownerIds
  pending : ∀ receipt ∈ s.receipts, receipt.state = .inProgress →
    ∀ body, crypto.reconcileFingerprint body = receipt.requestFingerprint →
      ∀ id ∈ receipt.candidates, ReadyDue body.observedAt id s

-- What a transaction may ready or save; no transaction does both.
structure Permits (crypto : SandboxCryptography κ) (allowed : Allowed κ) (s : SandboxStore κ) : Prop where
  settled : ∀ id, allowed.readies id → Settled crypto id s
  savable : ∀ ownerId candidates, allowed.saves ownerId candidates → Savable crypto ownerId candidates s
  exclusive : ∀ ownerId candidates, allowed.saves ownerId candidates → ∀ id, ¬allowed.readies id

theorem Write.permits (step : Write allowed s next) (valid : ReconcileValid crypto s)
    (permits : Permits crypto allowed s) : Permits crypto allowed next := by
  obtain ⟨_,issued,sourced⟩ := step.receipts valid.receipts
  refine ⟨?_,?_,permits.exclusive⟩
  · intro id readied new member running listed body same
    have settled := permits.settled id readied
    cases sourced new member with
    | kept old stored _ fingerprint state _ progress =>
      rw [new.candidates_of progress] at listed
      exact step.due (settled old stored (state ▸ running) listed body (same.trans fingerprint))
    | completed state => cases state.symm.trans running
    | claimed _ _ _ _ progress =>
      rw [new.candidates_of progress] at listed
      cases listed
    | takenOver old stored before _ fingerprint _ _ _ progress =>
      rw [new.candidates_of progress] at listed
      exact step.due (settled old stored before listed body (same.trans fingerprint))
    | saved _ _ _ _ _ _ _ _ permitted => exact absurd readied (permits.exclusive _ _ permitted id)
  · intro ownerId candidates saves
    obtain ⟨held,due⟩ := permits.savable ownerId candidates saves
    refine ⟨issued _ held,fun new member owner body same id listed => ?_⟩
    have kept (now_due : ReadyDue body.observedAt id s) : ReadyDue body.observedAt id next :=
      step.writes.ready_due (fun readied => absurd readied (permits.exclusive _ _ saves id)) now_due
    cases sourced new member with
    | kept old stored _ fingerprint _ owned =>
      exact kept (due old stored (owned.symm.trans owner) body (same.trans fingerprint) id listed)
    | completed _ none => cases none.symm.trans owner
    | claimed _ owned fresh =>
      cases owned.symm.trans owner
      exact absurd held fresh
    | takenOver _ _ _ _ _ owned fresh =>
      cases owned.symm.trans owner
      exact absurd held fresh
    | saved old stored _ _ _ fingerprint before owned =>
      exact kept (due old stored (before.trans (owned.symm.trans owner)) body (same.trans fingerprint) id listed)

theorem Write.reconciled (step : Write allowed s next)
    (valid : ReconcileValid crypto s) (permits : Permits crypto allowed s) : ReconcileValid crypto next := by
  obtain ⟨unique,issued,sourced⟩ := step.receipts valid.receipts
  refine ⟨step.capacity valid.capacity,unique,?_,?_,?_⟩
  · intro new member owned
    cases sourced new member with
    | kept old stored _ _ state owner => exact state ▸ valid.running old stored (owner ▸ owned)
    | completed _ none => exact absurd none owned
    | claimed state => exact state
    | takenOver _ _ _ state => exact state
    | saved _ _ _ state => exact state
  · intro new member owner owned
    cases sourced new member with
    | kept old stored _ _ _ same => exact issued _ (valid.issued old stored owner (same ▸ owned))
    | completed _ none => cases none.symm.trans owned
    | claimed _ same _ fresh => cases same.symm.trans owned; exact fresh
    | takenOver _ _ _ _ _ same _ fresh => cases same.symm.trans owned; exact fresh
    | saved old stored _ _ _ _ held same =>
      cases same.symm.trans owned
      exact issued _ (valid.issued old stored _ held)
  · intro new member running body same id listed
    have kept (old : CommandReceipt κ) (stored : old ∈ s.receipts) (before : old.state = .inProgress)
        (fingerprint : new.requestFingerprint = old.requestFingerprint) (progress : new.progress = old.progress) :
        ReadyDue body.observedAt id next := by
      rw [new.candidates_of progress] at listed
      refine step.writes.ready_due (fun readied => ?_)
        (valid.pending old stored before body (same.trans fingerprint) id listed)
      exact permits.settled id readied old stored before listed body (same.trans fingerprint)
    cases sourced new member with
    | kept old stored _ fingerprint state _ progress => exact kept old stored (state ▸ running) fingerprint progress
    | completed state => cases state.symm.trans running
    | claimed _ _ _ _ progress =>
      rw [new.candidates_of progress] at listed
      cases listed
    | takenOver old stored before _ fingerprint _ _ _ progress => exact kept old stored before fingerprint progress
    | saved old stored _ _ _ fingerprint held _ permitted progress =>
      rw [new.candidates_of progress] at listed
      exact step.writes.ready_due (fun readied => absurd readied (permits.exclusive _ _ permitted id))
        ((permits.savable _ _ permitted).due old stored held body (same.trans fingerprint) id listed)

theorem Writes.reconciled (path : Writes allowed s next)
    (valid : ReconcileValid crypto s) (permits : Permits crypto allowed s) : ReconcileValid crypto next := by
  have both : ReconcileValid crypto next ∧ Permits crypto allowed next := by
    induction path with
    | refl => exact ⟨valid,permits⟩
    | tail _ step ih => exact ⟨step.reconciled ih.1 ih.2,step.permits ih.1 ih.2⟩
  exact both.1

-- The one receipt an owner holds, with the candidates it has saved so far.
structure Owns (s : SandboxStore κ) (work : OwnedCommand κ) (candidates : Option (List Uuid)) : Prop where
  issued : work.ownerId ∈ s.ownerIds
  receipt : ∀ receipt ∈ s.receipts, receipt.ownerId = some work.ownerId →
    receipt.id = work.commandId ∧ receipt.requestFingerprint = work.fingerprint ∧
      receipt.progress.map ReconcileProgress.candidates = candidates

theorem Write.owns (step : Write allowed s next)
    (unique : KeyedRows.Unique CommandReceipt.id s.receipts) (owns : Owns s work candidates)
    (same : ∀ others, allowed.saves work.ownerId others → some others = candidates) :
    Owns next work candidates := by
  obtain ⟨_,issued,sourced⟩ := step.receipts unique
  refine ⟨issued _ owns.issued,fun new member held => ?_⟩
  cases sourced new member with
  | kept old stored id fingerprint _ owner progress =>
    rw [id,fingerprint,progress]
    exact owns.receipt old stored (owner.symm.trans held)
  | completed _ none => cases none.symm.trans held
  | claimed _ owner fresh =>
    cases owner.symm.trans held
    exact absurd owns.issued fresh
  | takenOver _ _ _ _ _ owner fresh =>
    cases owner.symm.trans held
    exact absurd owns.issued fresh
  | saved old stored _ _ id fingerprint before owner permitted progress =>
    cases owner.symm.trans held
    obtain ⟨identity,fingerprints,_⟩ := owns.receipt old stored before
    exact ⟨id.trans identity,fingerprint.trans fingerprints,by rw [progress]; exact same _ permitted⟩

theorem Writes.owns (path : Writes allowed s next)
    (unique : KeyedRows.Unique CommandReceipt.id s.receipts) (owns : Owns s work candidates)
    (same : ∀ others, allowed.saves work.ownerId others → some others = candidates) :
    Owns next work candidates := by
  have both : KeyedRows.Unique CommandReceipt.id next.receipts ∧ Owns next work candidates := by
    induction path with
    | refl => exact ⟨unique,owns⟩
    | tail _ step ih => exact ⟨(step.receipts ih.1).1,step.owns ih.1 ih.2 same⟩
  exact both.2

theorem operationRow_ok {caller : Caller} (ran : caller.operationRow s = .ok row) :
    s.receiptByScope caller.scope = some row ∧ row.requestFingerprint = caller.fingerprint ∧
      row.ownerId = some caller.ownerId := by
  simp only [Caller.operationRow,operationRow,orRaise_bind_ok,require_bind_ok,pure_ok] at ran
  obtain ⟨_,found,owned,rfl⟩ := ran
  exact ⟨found,owned⟩

-- What a caller owns right after a claim.
structure Holding (next : SandboxStore κ) (scope : Scope) (fingerprint : String) (ownership : CommandOwnership)
    (ownerId : Uuid) (row : CommandReceipt κ) : Prop where
  found : next.receiptByScope scope = some row
  identity : row.id = ownership.commandId
  fingerprint : row.requestFingerprint = fingerprint
  issued : ownerId ∈ next.ownerIds
  only : ∀ receipt ∈ next.receipts, receipt.ownerId = some ownerId → receipt = row

theorem acquireCommand_ok (valid : ReconcileValid crypto s)
    (ran : acquireCommand commandId ownerId scope fingerprint expires now s = .ok (next,ownership)) :
    (next = s ∧ ∃ row, s.receiptByScope scope = some row ∧ row.state = .completed) ∨
    (ownerId ∉ s.ownerIds ∧ ∃ row, Holding next scope fingerprint ownership ownerId row) := by
  have foreign (fresh : ownerId ∉ s.ownerIds) (receipt : CommandReceipt κ) (stored : receipt ∈ s.receipts)
      (held : receipt.ownerId = some ownerId) : False :=
    fresh (valid.issued receipt stored ownerId held)
  unfold acquireCommand at ran
  split at ran
  · rename_i unclaimed
    simp only [require_bind_ok,pure_ok,Prod.mk.injEq] at ran
    obtain ⟨fresh,_,rfl,rfl⟩ := ran
    refine .inr ⟨fresh,claimedReceipt commandId ownerId scope fingerprint expires now,?_,rfl,rfl,
      List.mem_cons_self,fun receipt member held => ?_⟩
    · refine (KeyedRows.find_insert scope ?_).trans (if_pos rfl)
      exact unclaimed
    · rcases List.mem_append.mp member with old | single
      · exact absurd held (foreign fresh receipt old)
      · exact List.mem_singleton.mp single
  · rename_i row found
    obtain ⟨matched,ran⟩ := require_bind_ok.mp ran
    split at ran
    · rename_i completed
      cases pure_ok.mp ran
      exact .inl ⟨rfl,row,found,completed⟩
    · simp only [require_bind_ok,pure_ok,Prod.mk.injEq] at ran
      obtain ⟨fresh,_,rfl,rfl⟩ := ran
      refine .inr ⟨fresh,row.takeOver now ownerId expires,?_,rfl,matched,List.mem_cons_self,
        fun receipt member held => ?_⟩
      · have view : (s.setReceipt row.id fun row => row.takeOver now ownerId expires).receiptByScope scope =
            (s.receiptByScope scope).map fun other =>
              if other.id = row.id then other.takeOver now ownerId expires else other :=
          KeyedRows.find_update_other (by intro other; rfl) row.id scope
        refine view.trans ?_
        rw [found]
        exact congrArg some (if_pos rfl)
      · have present := KeyedRows.find_of_mem valid.receipts (KeyedRows.find_some found).1
        rcases KeyedRows.mem_update valid.receipts present member with ⟨old,_⟩ | same
        · exact absurd held (foreign fresh receipt old)
        · exact same

-- A claim that is not answered by a stored response owns its command.
theorem claimOperation_owns (valid : ReconcileValid crypto s)
    (ran : claimOperation crypto scope fingerprint env authorized s = .ok (next,work,none)) :
    work.fingerprint = fingerprint ∧ work.ownerId ∉ s.ownerIds ∧
      Owns next work (work.progress.map ReconcileProgress.candidates) := by
  obtain ⟨⟨acquired,ownership⟩,acquire,ran⟩ := bind_ok.mp ran
  obtain ⟨row,found,ran⟩ := orRaise_bind_ok.mp ran
  obtain ⟨_,_,ran⟩ := bind_ok.mp ran
  split at ran
  · obtain ⟨response,_,ran⟩ := bind_ok.mp ran
    cases pure_ok.mp ran
  · rename_i open'
    cases pure_ok.mp ran
    rcases acquireCommand_ok valid acquire with ⟨rfl,other,stored,completed⟩ | ⟨fresh,other,held⟩
    · cases found.symm.trans stored
      exact absurd completed open'
    · cases found.symm.trans held.found
      refine ⟨rfl,fresh,held.issued,fun receipt member owned => ?_⟩
      cases held.only receipt member owned
      exact ⟨held.identity,held.fingerprint,rfl⟩

end EngineeringPlatform.Sandbox
