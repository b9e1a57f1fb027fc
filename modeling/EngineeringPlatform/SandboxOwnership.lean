import EngineeringPlatform.SandboxReconcileSafety
namespace EngineeringPlatform.Sandbox
open Checked Idempotency TransitionRuns SharedWorkers
variable {κ : Type} {crypto : SandboxCryptography κ} {allowed : Allowed κ}

-- A receipt keeps its command, changes owner only to an identifier never issued
-- before, and is never touched again once it is completed.
structure ReceiptMoves (issued : List Uuid) (old new : CommandReceipt κ) : Prop where
  id : new.id = old.id
  scope : new.scope = old.scope
  fingerprint : new.requestFingerprint = old.requestFingerprint
  settled : old.state = .completed → new = old
  owner : ∀ ownerId, new.ownerId = some ownerId → old.ownerId = some ownerId ∨ ownerId ∉ issued

theorem ReceiptMoves.refl (issued : List Uuid) (row : CommandReceipt κ) : ReceiptMoves issued row row :=
  ⟨rfl,rfl,rfl,fun _ => rfl,fun _ => .inl⟩

structure ReceiptsMove (s next : SandboxStore κ) : Prop where
  issued : ∀ ownerId ∈ s.ownerIds, ownerId ∈ next.ownerIds
  moves : ∀ id row, s.receipt id = some row → ∃ row', next.receipt id = some row' ∧
    ReceiptMoves s.ownerIds row row'

theorem ReceiptsMove.refl (s : SandboxStore κ) : ReceiptsMove s s :=
  ⟨fun _ => id,fun _ row found => ⟨row,found,.refl _ row⟩⟩

theorem ReceiptsMove.trans {one two three : SandboxStore κ} (first : ReceiptsMove one two)
    (second : ReceiptsMove two three) : ReceiptsMove one three := by
  refine ⟨fun owner held => second.issued owner (first.issued owner held),?_⟩
  intro id row found
  obtain ⟨mid,stored,moved⟩ := first.moves id row found
  obtain ⟨last,kept,again⟩ := second.moves id mid stored
  refine ⟨last,kept,again.id.trans moved.id,again.scope.trans moved.scope,
    again.fingerprint.trans moved.fingerprint,?_,?_⟩
  · intro completed
    cases moved.settled completed
    exact again.settled completed
  · intro owner held
    rcases again.owner owner held with before | fresh
    · exact moved.owner owner before
    · exact .inr fun old => fresh (first.issued owner old)

structure OwnershipValid (crypto : SandboxCryptography κ) (s : SandboxStore κ) : Prop where
  ids : KeyedRows.Unique CommandReceipt.id s.receipts
  scopes : KeyedRows.Unique CommandReceipt.scope s.receipts
  issued : ∀ receipt ∈ s.receipts, ∀ owner, receipt.ownerId = some owner → owner ∈ s.ownerIds
  settled : ∀ receipt ∈ s.receipts, receipt.state = .completed →
    receipt.ownerId = none ∧ SealsAs crypto receipt receipt

theorem initial_ownership : OwnershipValid crypto (.initial : SandboxStore κ) := by
  refine ⟨List.nodup_nil,List.nodup_nil,?_,?_⟩ <;>
    · intro receipt member
      cases member

variable {s next : SandboxStore κ}

-- One receipt is updated in place; owner identifiers are only added.
theorem OwnershipValid.updated {change : CommandReceipt κ → CommandReceipt κ}
    (valid : OwnershipValid crypto s) (receipts : next.receipts = (s.setReceipt id' change).receipts)
    (issued : ∀ owner ∈ s.ownerIds, owner ∈ next.ownerIds)
    (keeps : ∀ row, (change row).id = row.id ∧ (change row).scope = row.scope)
    (found : s.receipt id' = some row) (moved : ReceiptMoves s.ownerIds row (change row))
    (owned : ∀ owner, (change row).ownerId = some owner → owner ∈ next.ownerIds)
    (settled : (change row).state = .completed →
      (change row).ownerId = none ∧ SealsAs crypto (change row) (change row)) :
    OwnershipValid crypto next ∧ ReceiptsMove s next := by
  refine ⟨⟨?_,?_,?_,?_⟩,issued,?_⟩
  · rw [receipts]
    exact KeyedRows.unique_update (fun row => (keeps row).1) valid.ids
  · rw [receipts]
    have same : (s.setReceipt id' change).receipts.map CommandReceipt.scope =
        s.receipts.map CommandReceipt.scope := by
      unfold SandboxStore.setReceipt KeyedRows.update
      rw [List.map_map]
      refine List.map_congr_left fun row _ => ?_
      dsimp only [Function.comp]
      split
      · exact (keeps row).2
      · rfl
    exact (congrArg List.Nodup same).mpr valid.scopes
  · intro receipt member owner held
    rw [receipts] at member
    rcases KeyedRows.mem_update valid.ids found member with ⟨old,_⟩ | rfl
    · exact issued owner (valid.issued receipt old owner held)
    · exact owned owner held
  · intro receipt member completed
    rw [receipts] at member
    rcases KeyedRows.mem_update valid.ids found member with ⟨old,_⟩ | rfl
    · exact valid.settled receipt old completed
    · exact settled completed
  · intro id old stored
    have view : next.receipt id = if id = id' then (s.receipt id).map change else s.receipt id := by
      unfold SandboxStore.receipt
      rw [receipts]
      exact KeyedRows.find_update (fun row => (keeps row).1) id
    rw [view]
    split
    · rename_i same
      subst same
      have here : old = row := Option.some.inj (stored.symm.trans found)
      rw [here]
      exact ⟨change row,by rw [found]; rfl,moved⟩
    · exact ⟨old,stored,.refl _ old⟩

theorem ReceiptStep.moves {row row' : CommandReceipt κ} (step : ReceiptStep row row')
    (running : row.state = .inProgress) : ReceiptMoves issued row row' := by
  have open' {p : Prop} (completed : row.state = .completed) : p := by cases running.symm.trans completed
  cases step with
  | advanced => exact ⟨rfl,rfl,rfl,open',fun _ => .inl⟩
  | bound => exact ⟨rfl,rfl,rfl,open',fun _ => .inl⟩
  | completed => exact ⟨rfl,rfl,rfl,open',fun _ held => by cases held⟩

theorem Write.ownership (step : Write allowed s next)
    (seals : ∀ read completed, allowed.seals read completed → SealsAs crypto read completed)
    (valid : OwnershipValid crypto s) : OwnershipValid crypto next ∧ ReceiptsMove s next := by
  cases step with
  | claimed unclaimed fresh owner =>
    refine ⟨⟨KeyedRows.unique_insert valid.ids fresh,KeyedRows.unique_insert valid.scopes unclaimed,?_,?_⟩,
      fun _ => List.mem_cons_of_mem _,?_⟩
    · intro receipt member held owned
      rcases List.mem_append.mp member with old | single
      · exact List.mem_cons_of_mem _ (valid.issued receipt old held owned)
      · cases List.mem_singleton.mp single
        cases owned
        exact List.mem_cons_self
    · intro receipt member completed
      rcases List.mem_append.mp member with old | single
      · exact valid.settled receipt old completed
      · cases List.mem_singleton.mp single
        cases completed
    · intro id row found
      refine ⟨row,?_,.refl _ row⟩
      refine (KeyedRows.find_insert id ?_).trans ?_
      · exact fresh
      · rw [if_neg]
        · exact found
        · rintro rfl
          cases fresh.symm.trans found
  | @takenOver scope row now ownerId expires found running expired owner =>
    have stored := KeyedRows.find_of_mem valid.ids (KeyedRows.find_some found).1
    refine valid.updated rfl (fun _ => List.mem_cons_of_mem _) (fun _ => ⟨rfl,rfl⟩) stored
      ⟨rfl,rfl,rfl,?_,?_⟩ ?_ ?_
    · intro completed
      cases running.symm.trans completed
    · intro held same
      cases same
      exact .inr owner
    · intro held same
      cases same
      exact List.mem_cons_self
    · intro completed
      cases running.symm.trans completed
  | receipt change keeps found owned step sealing =>
    have stored := (KeyedRows.find_some found).1
    have moved : ReceiptMoves s.ownerIds _ (change _) := step.moves owned.1
    refine valid.updated rfl (fun _ => id) keeps found moved ?_ ?_
    · intro owner held
      rcases moved.owner owner held with before | fresh
      · exact valid.issued _ stored owner before
      · revert step
        generalize change _ = after at held
        intro step
        cases step with
        | advanced => exact valid.issued _ stored owner held
        | bound => exact valid.issued _ stored owner held
        | completed => cases held
    · intro completed
      obtain ⟨read,present,same,sealed⟩ := sealing completed
      have there : read = _ :=
        Option.some.inj ((same ▸ KeyedRows.find_of_mem valid.ids present).symm.trans found)
      subst there
      refine ⟨?_,?_⟩
      · revert step completed
        generalize change _ = after
        intro step completed
        cases step with
        | advanced => cases owned.1.symm.trans completed
        | bound => cases owned.1.symm.trans completed
        | completed => rfl
      · obtain ⟨response,status,capsule⟩ := seals _ _ sealed
        exact ⟨response,status,by rw [moved.scope,moved.fingerprint]; exact capsule⟩
  | saved permitted found owned =>
    refine valid.updated rfl (fun _ => id) (fun _ => ⟨rfl,rfl⟩) found ⟨rfl,rfl,rfl,?_,fun _ => .inl⟩ ?_ ?_
    · intro completed
      cases owned.1.symm.trans completed
    · intro owner held
      exact valid.issued _ (KeyedRows.find_some found).1 owner held
    · intro completed
      cases owned.1.symm.trans completed
  | _ => exact ⟨⟨valid.ids,valid.scopes,valid.issued,valid.settled⟩,fun _ => id,
      fun _ row found => ⟨row,found,.refl _ row⟩⟩

theorem Writes.ownership (path : Writes allowed s next)
    (seals : ∀ read completed, allowed.seals read completed → SealsAs crypto read completed)
    (valid : OwnershipValid crypto s) : OwnershipValid crypto next ∧ ReceiptsMove s next := by
  induction path with
  | refl => exact ⟨valid,.refl s⟩
  | tail _ step ih =>
    obtain ⟨held,moved⟩ := step.ownership seals ih.1
    exact ⟨held,ih.2.trans moved⟩

def ownershipContract (crypto : SandboxCryptography κ) : Contract (sandboxProgram crypto) where
  valid s := CapacityValid s ∧ OwnershipValid crypto s
  holds _ _ := True
  apart _ _ := True
  rely := ReceiptsMove
  symmetric _ _ _ := trivial
  idle _ _ := trivial
  idle_apart _ := trivial
  transacted _ transaction _ valid step :=
    have path : Writes ⟨fun _ _ => False,transaction.readies,fun _ => True,SealsAs crypto⟩ _ _ :=
      commitSandbox_writes valid.1.rows (fun _ readied => readied) (fun _ => trivial) (fun _ _ => id) step
    have moved := path.ownership (fun _ _ => id) valid.2
    ⟨⟨(path.capacity valid.1).1,moved.1⟩,moved.2,fun _ _ => trivial⟩
  acted s memory event _ _ valid _ step :=
    have path : Writes ⟨memory.saves s event,fun _ => False,memory.begins event,SealsAs crypto⟩ _ _ :=
      reconcileStep_writes (fun _ _ saved => saved) (fun _ begun => begun) (fun _ _ => id) step
    have moved := path.ownership (fun _ _ => id) valid.2
    ⟨⟨(path.capacity valid.1).1,moved.1⟩,moved.2,trivial,fun _ _ _ => ⟨trivial,trivial⟩⟩

theorem reached_ownership {s : SandboxSystem κ}
    (path : Runs (Enabled (sandboxProgram crypto).advance) sandboxInitial labels s) :
    OwnershipValid crypto s.store :=
  ((ownershipContract crypto).runs_valid path
    ((ownershipContract crypto).initial_valid ⟨initial_capacity,initial_ownership⟩)).store.2

theorem continued_ownership {s t : SandboxSystem κ}
    (path : Runs (Enabled (sandboxProgram crypto).advance) sandboxInitial labels s)
    (rest : Runs (Enabled (sandboxProgram crypto).advance) s more t) : ReceiptsMove s.store t.store :=
  (ownershipContract crypto).runs_rely .refl (fun _ _ _ => .trans) rest
    ((ownershipContract crypto).runs_valid path
      ((ownershipContract crypto).initial_valid ⟨initial_capacity,initial_ownership⟩))

-- The caller's command exists and belongs to somebody else by now, or to nobody.
def Superseded (s : SandboxStore κ) (caller : Caller) : Prop :=
  caller.ownerId ∈ s.ownerIds ∧ ∃ row, s.receiptByScope caller.scope = some row ∧
    s.receipt caller.commandId = some row ∧ row.ownerId ≠ some caller.ownerId

theorem receipt_by_both (valid : OwnershipValid crypto s)
    (found : s.receipt id' = some row) : s.receiptByScope row.scope = some row :=
  KeyedRows.find_of_mem valid.scopes (KeyedRows.find_some found).1

theorem Superseded.stays (superseded : Superseded s caller)
    (valid : OwnershipValid crypto next) (moved : ReceiptsMove s next) : Superseded next caller := by
  obtain ⟨issued,row,byScope,found,other⟩ := superseded
  obtain ⟨row',kept,change⟩ := moved.moves _ row found
  refine ⟨moved.issued _ issued,row',?_,kept,?_⟩
  · have both := receipt_by_both valid kept
    rw [change.scope,(KeyedRows.find_some byScope).2] at both
    exact both
  · intro held
    rcases change.owner _ held with before | fresh
    · exact other before
    · exact fresh issued

theorem Superseded.operationRow (superseded : Superseded s caller)
    (ran : caller.operationRow s = .ok row) : False := by
  obtain ⟨_,current,byScope,_,other⟩ := superseded
  obtain ⟨found,_,owner⟩ := operationRow_ok ran
  cases byScope.symm.trans found
  exact other owner

theorem Superseded.receipt (superseded : Superseded s caller)
    (found : s.receipt caller.commandId = some row) (owner : row.ownerId = some caller.ownerId) : False := by
  obtain ⟨_,current,_,stored,other⟩ := superseded
  cases stored.symm.trans found
  exact other owner

theorem Superseded.advanceCommand {middle : SandboxStore κ} (superseded : Superseded s caller)
    (same : middle.receipts = s.receipts)
    (ran : advanceCommand caller.commandId caller.ownerId phase subjectId now middle = .ok next) : False := by
  obtain ⟨row,owned,_⟩ := bind_ok.mp ran
  obtain ⟨found,_,owner⟩ := ownedReceipt_ok owned
  unfold SandboxStore.receipt at found
  rw [same] at found
  exact superseded.receipt found owner

def SandboxTransaction.caller : SandboxTransaction → Option Caller
  | .claimProvision _ _ => none
  | .claimOperation _ _ _ _ => none
  | .completeReady caller _ _ _ => some caller
  | .failProvision caller _ _ _ => some caller
  | .completeFailed caller _ _ _ => some caller
  | .beginLifecycle caller _ _ _ _ => some caller
  | .cleanupStep caller _ _ _ => some caller
  | .completeLifecycle caller _ _ _ => some caller
  | .quarantineLifecycle caller _ => some caller
  | .completeLifecycleDenial caller _ _ => some caller
  | .beginCancel caller _ _ _ => some caller
  | .auditCancelDenial caller _ _ _ => some caller
  | .checkHandoff caller _ => some caller
  | .completeAlreadyTerminal caller _ => some caller
  | .beginPreview caller _ _ _ => some caller
  | .completePreview caller _ _ _ _ _ => some caller
  | .completePreviewDenial caller _ _ => some caller

-- The transactions of a running command that do not ask who owns it.
def SandboxTransaction.unfenced : SandboxTransaction → Bool
  | .auditCancelDenial _ _ _ _ => true
  | .checkHandoff _ _ => true
  | _ => false

theorem Superseded.commits (superseded : Superseded s caller)
    (mine : transaction.caller = some caller) (fenced : transaction.unfenced = false)
    (step : commitSandbox crypto s transaction = some next) : False := by
  cases transaction <;> cases mine <;> obtain ⟨result,ran⟩ := committed_some.mp step
  case completeReady =>
    obtain ⟨_,read,_⟩ := bind_ok.mp ran
    exact superseded.operationRow read
  case failProvision =>
    obtain ⟨_,read,_⟩ := bind_ok.mp ran
    exact superseded.operationRow read
  case completeFailed =>
    obtain ⟨_,read,_⟩ := bind_ok.mp ran
    exact superseded.operationRow read
  case beginLifecycle =>
    obtain ⟨_,read,_⟩ := bind_ok.mp ran
    exact superseded.operationRow read
  case cleanupStep =>
    obtain ⟨_,read,_⟩ := bind_ok.mp ran
    exact superseded.operationRow read
  case completeLifecycle =>
    obtain ⟨_,read,_⟩ := bind_ok.mp ran
    exact superseded.operationRow read
  case quarantineLifecycle =>
    obtain ⟨_,read,_⟩ := bind_ok.mp ran
    exact superseded.operationRow read
  case completeLifecycleDenial =>
    simp only [completeLifecycleDenial,orRaise_bind_ok] at ran
    obtain ⟨_,_,_,_,ran⟩ := ran
    obtain ⟨_,read,_⟩ := bind_ok.mp ran
    exact superseded.operationRow read
  case beginCancel =>
    obtain ⟨_,read,_⟩ := bind_ok.mp ran
    exact superseded.operationRow read
  case auditCancelDenial => cases fenced
  case checkHandoff => cases fenced
  case completeAlreadyTerminal =>
    obtain ⟨_,_,ran⟩ := orRaise_bind_ok.mp ran
    obtain ⟨_,read,_⟩ := bind_ok.mp ran
    exact superseded.operationRow read
  case beginPreview =>
    obtain ⟨_,ran⟩ := require_bind_ok.mp ran
    obtain ⟨current,_,ran⟩ := bind_ok.mp ran
    simp only [require_bind_ok] at ran
    obtain ⟨_,_,ran⟩ := ran
    obtain ⟨_,advanced,_⟩ := bind_ok.mp ran
    exact superseded.advanceCommand (by rfl) advanced
  case completePreview =>
    obtain ⟨_,published,_⟩ := bind_ok.mp ran
    simp only [completePreviewIntent,orRaise_bind_ok,require_bind_ok] at published
    obtain ⟨_,_,receipt,found,_,_,⟨owner,_⟩,_⟩ := published
    exact superseded.receipt found owner
  case completePreviewDenial =>
    simp only [completePreviewDenial,orRaise_bind_ok] at ran
    obtain ⟨_,_,_,_,ran⟩ := ran
    obtain ⟨_,read,_⟩ := bind_ok.mp ran
    exact superseded.operationRow read

-- The two exceptions change no command and no row of the sandbox.
theorem unfenced_audits (unfenced : transaction.unfenced = true)
    (step : commitSandbox crypto s transaction = some next) :
    ∃ entries, next = {s with audit := s.audit ++ entries} := by
  cases transaction <;> cases unfenced <;> obtain ⟨result,ran⟩ := committed_some.mp step
  case auditCancelDenial =>
    simp only [auditCancelDenial,orRaise_bind_ok,pure_ok,Prod.mk.injEq] at ran
    obtain ⟨denial,_,rfl,_⟩ := ran
    exact ⟨_,rfl⟩
  case checkHandoff =>
    cases checkHandoff_ok ran
    exact ⟨[],by rw [List.append_nil]⟩

def ReconcileWorker.work : ReconcileWorker κ → Option (OwnedCommand κ)
  | .idle => none
  | .claimed _ work => some work
  | .scanning frame => some frame.work
  | .guarded frame _ _ => some frame.work
  | .begun frame _ => some frame.work
  | .entering frame _ => some frame.work
  | .cleaning frame _ _ _ => some frame.work
  | .cleaned frame _ _ => some frame.work
  | .failing frame _ => some frame.work

-- A reconciliation whose command was taken over can still read, nothing more.
theorem Superseded.reconcileStep (superseded : Superseded s (work.caller now))
    (mine : memory.work = some work) (step : reconcileStep crypto s memory event = some (next,memory')) :
    next = s := by
  have stopped (now' : Time) {row : CommandReceipt κ} (read : (work.caller now').operationRow s = .ok row) :
      next = s := by
    have same : Superseded s (work.caller now') := superseded
    exact (same.operationRow read).elim
  unfold Sandbox.reconcileStep at step
  split at step
  case h_1 => cases mine
  case h_2 =>
    cases mine
    obtain ⟨_,ran,_⟩ := toOption_map_some.mp step
    obtain ⟨_,read,_⟩ := bind_ok.mp ran
    exact stopped _ read
  case h_3 =>
    obtain ⟨_,_,same⟩ := Option.map_eq_some_iff.mp step
    cases same
    rfl
  case h_4 =>
    cases mine
    split at step
    · obtain ⟨_,_,ran,_⟩ := committed_map_some.mp step
      obtain ⟨_,read,_⟩ := bind_ok.mp ran
      split at read <;> exact stopped _ read
    · cases step
  case h_5 =>
    cases mine
    unfold beginCandidate at step
    split at step
    · obtain ⟨_,_,ran,_⟩ := committed_map_some.mp step
      obtain ⟨_,read,_⟩ := bind_ok.mp ran
      exact stopped _ read
    · obtain ⟨_,_,ran,_⟩ := committed_map_some.mp step
      obtain ⟨_,read,_⟩ := bind_ok.mp ran
      exact stopped _ read
    · cases step
      rfl
  case h_6 =>
    obtain ⟨_,_,same⟩ := toOption_map_some.mp step
    cases same
    rfl
  case h_7 =>
    split at step
    · obtain ⟨_,_,same⟩ := Option.map_eq_some_iff.mp step
      cases same
      rfl
    · cases step
  case h_8 =>
    obtain ⟨_,_,same⟩ := Option.map_eq_some_iff.mp step
    cases same
    rfl
  case h_9 =>
    cases mine
    obtain ⟨_,_,step⟩ := Option.bind_eq_some_iff.mp step
    obtain ⟨_,_,ran,_⟩ := committed_map_some.mp step
    obtain ⟨_,read,_⟩ := bind_ok.mp ran
    exact stopped _ read
  case h_10 =>
    cases step
    rfl
  case h_11 =>
    split at step
    · cases step
      rfl
    · cases step
  case h_12 =>
    cases mine
    obtain ⟨_,ran,_⟩ := toOption_map_some.mp step
    obtain ⟨_,read,_⟩ := bind_ok.mp ran
    exact stopped _ read
  case h_13 =>
    cases mine
    obtain ⟨_,ran,_⟩ := toOption_map_some.mp step
    obtain ⟨_,read,_⟩ := bind_ok.mp ran
    exact stopped _ read
  case h_14 => cases step

-- Another claim of a command that exists already either finds it completed or
-- takes it over.
theorem acquireCommand_supersedes {caller : Caller} (valid : OwnershipValid crypto s)
    (found : s.receiptByScope caller.scope = some row) (same : row.id = caller.commandId)
    (issued : caller.ownerId ∈ s.ownerIds)
    (ran : acquireCommand commandId ownerId caller.scope fingerprint expires now s = .ok (next,ownership)) :
    Superseded next caller ∧ ownership.created = false := by
  have byId : s.receipt caller.commandId = some row :=
    same ▸ KeyedRows.find_of_mem valid.ids (KeyedRows.find_some found).1
  unfold acquireCommand at ran
  rw [found] at ran
  obtain ⟨_,ran⟩ := require_bind_ok.mp ran
  split at ran
  · rename_i completed
    cases pure_ok.mp ran
    refine ⟨⟨issued,row,found,byId,fun held => ?_⟩,rfl⟩
    rw [(valid.settled row (KeyedRows.find_some found).1 completed).1] at held
    cases held
  · simp only [require_bind_ok,pure_ok,Prod.mk.injEq] at ran
    obtain ⟨fresh,_,rfl,rfl⟩ := ran
    refine ⟨⟨List.mem_cons_of_mem _ issued,row.takeOver now ownerId expires,?_,?_,?_⟩,rfl⟩
    · refine (KeyedRows.find_update_other (by intro other; rfl) row.id caller.scope).trans ?_
      exact (congrArg (Option.map _) found).trans (congrArg some (if_pos rfl))
    · refine (KeyedRows.find_update (by intro other; rfl) caller.commandId).trans ?_
      rw [if_pos same.symm]
      exact congrArg (Option.map _) byId
    · intro held
      cases held
      exact fresh issued

def claims (scope : Scope) : SandboxLabel → Prop
  | .transact (.claimProvision _ command) => command.scope = scope
  | .transact (.claimOperation claimed _ _ _) => claimed = scope
  | .act _ (.claim command _) => command.scope = scope
  | _ => False

theorem claimOperation_acquires (ran : claimOperation crypto scope fingerprint env authorized s = .ok (next,work)) :
    ∃ ownership, acquireCommand env.commandId env.ownerId scope fingerprint (env.now + commandOwnerTtl)
      env.now s = .ok (next,ownership) := by
  obtain ⟨⟨acquired,ownership⟩,acquire,ran⟩ := bind_ok.mp ran
  obtain ⟨row,_,ran⟩ := orRaise_bind_ok.mp ran
  obtain ⟨_,_,ran⟩ := bind_ok.mp ran
  split at ran
  · obtain ⟨_,_,ran⟩ := bind_ok.mp ran
    cases pure_ok.mp ran
    exact ⟨ownership,acquire⟩
  · cases pure_ok.mp ran
    exact ⟨ownership,acquire⟩

theorem claimProvision_supersedes {caller : Caller} (valid : OwnershipValid crypto s)
    (found : s.receiptByScope caller.scope = some row) (same : row.id = caller.commandId)
    (issued : caller.ownerId ∈ s.ownerIds) (claimed : command.scope = caller.scope)
    (ran : claimProvision crypto env command s = .ok (next,claim)) : Superseded next caller := by
  obtain ⟨⟨acquired,ownership⟩,acquire,ran⟩ := bind_ok.mp ran
  rw [claimed] at acquire
  obtain ⟨superseded,created⟩ := acquireCommand_supersedes valid found same issued acquire
  obtain ⟨current,_,ran⟩ := orRaise_bind_ok.mp ran
  split at ran
  · obtain ⟨_,_,ran⟩ := bind_ok.mp ran
    cases pure_ok.mp ran
    exact superseded
  · simp only [orRaise_bind_ok,require_bind_ok] at ran
    obtain ⟨_,_,_,ran⟩ := ran
    obtain ⟨_,_,ran⟩ := bind_ok.mp ran
    obtain ⟨_,_,ran⟩ := bind_ok.mp ran
    cases pure_ok.mp ran
    exact superseded

theorem claim_idle (acted : reconcileStep crypto s memory (.claim command env) = some result) : memory = .idle := by
  cases memory with
  | idle => rfl
  | cleaning frame candidate terminal current => cases current <;> cases acted
  | _ => cases acted

theorem claim_supersedes {s t : SandboxSystem κ} {caller : Caller} (valid : OwnershipValid crypto s.store)
    (found : s.store.receiptByScope caller.scope = some row) (same : row.id = caller.commandId)
    (issued : caller.ownerId ∈ s.store.ownerIds) (claimed : claims caller.scope label)
    (step : (sandboxProgram crypto).advance s label = some t) : Superseded t.store caller := by
  cases label with
  | transact transaction =>
    obtain ⟨store,committed',rfl⟩ := Option.map_eq_some_iff.mp step
    cases transaction <;> try exact claimed.elim
    case claimProvision =>
      obtain ⟨_,ran⟩ := committed_some.mp committed'
      exact claimProvision_supersedes valid found same issued claimed ran
    case claimOperation =>
      obtain ⟨_,ran⟩ := committed_some.mp committed'
      cases claimed
      obtain ⟨_,acquired⟩ := claimOperation_acquires ran
      exact (acquireCommand_supersedes valid found same issued acquired).1
  | act worker event =>
    cases event <;> try exact claimed.elim
    obtain ⟨⟨store,memory⟩,acted,rfl⟩ := Option.map_eq_some_iff.mp step
    rw [claim_idle acted] at acted
    change (if _ then _ else none) = some (store,memory) at acted
    split at acted
    · obtain ⟨_,ran,rest⟩ := toOption_map_some.mp acted
      cases rest
      obtain ⟨_,acquired⟩ := claimOperation_acquires ran
      have scope : ReconcileLeaseCommand.scope _ = caller.scope := claimed
      rw [scope] at acquired
      exact (acquireCommand_supersedes valid found same issued acquired).1
    · cases acted
  | crash => exact claimed.elim

-- A stored response opens again under the command it was sealed for.
theorem replayResponse_sealed (faithful : crypto.sealing.Faithful) {row : CommandReceipt κ}
    (completed : row.state = .completed) (status : row.httpStatus = some response.statusCode)
    (capsule : row.sealedResponse =
      some (crypto.sealing.sealEnvelope ⟨row.scope,row.requestFingerprint,response⟩)) :
    replayResponse crypto row = .ok response := by
  simp [replayResponse,replay,CommandReceipt.idempotencyRow,completed,status,capsule,orRaise,
    faithful _,require,bind,Except.bind,pure,Except.pure]

theorem acquireCommand_completed (found : s.receiptByScope scope = some row)
    (completed : row.state = .completed) :
    acquireCommand commandId ownerId scope row.requestFingerprint expires now s =
      .ok (s,⟨row.id,row.state,row.phase,row.subjectId,false,false⟩) := by
  simp [acquireCommand,found,completed,require,bind,Except.bind,pure,Except.pure]

theorem claimProvision_replays (found : s.receiptByScope command.scope = some row)
    (completed : row.state = .completed) (fingerprint : command.fingerprint = row.requestFingerprint)
    (replayed : replayResponse crypto row = .ok response) (env : ProvisionEnvironment) :
    claimProvision crypto env command s = .ok (s,.answered response.body) := by
  unfold claimProvision
  rw [fingerprint,acquireCommand_completed found completed]
  simp [found,completed,replayed,orRaise,bind,Except.bind,pure,Except.pure]

theorem claimOperation_replays (found : s.receiptByScope scope = some row)
    (completed : row.state = .completed) (replayed : replayResponse crypto row = .ok response)
    (authorize : authorizeBoundSubject authorized row.subjectId s = .ok ()) (env : ClaimEnvironment) :
    ∃ work, claimOperation crypto scope row.requestFingerprint env authorized s = .ok (s,work,some response) := by
  unfold claimOperation
  rw [acquireCommand_completed found completed]
  simp [found,completed,replayed,authorize,orRaise,bind,Except.bind,pure,Except.pure]

-- Once another caller has claimed a command, none of the previous owner's
-- transactions for it commits, but for two that touch nothing of the sandbox; a
-- completed receipt stays as it is; and every later call of the same command and
-- payload gets the sealed response and writes nothing.
theorem sandbox_command_ownership (faithful : crypto.sealing.Faithful) {s : SandboxSystem κ}
    (reached : Runs (Enabled (sandboxProgram crypto).advance) sandboxInitial labels s) :
    (∀ (caller : Caller) row label taken rest later, s.store.receiptByScope caller.scope = some row →
      row.id = caller.commandId → caller.ownerId ∈ s.store.ownerIds → claims caller.scope label →
      Enabled (sandboxProgram crypto).advance s label taken →
      Runs (Enabled (sandboxProgram crypto).advance) taken rest later →
      (∀ now transaction, transaction.caller = some {caller with now := now} →
        transaction.unfenced = false → commitSandbox crypto later.store transaction = none) ∧
      (∀ now transaction next, transaction.caller = some {caller with now := now} →
        commitSandbox crypto later.store transaction = some next →
        ∃ entries, next = {later.store with audit := later.store.audit ++ entries}) ∧
      ∀ memory work now event next memory', memory.work = some work → work.caller now = {caller with now := now} →
        reconcileStep crypto later.store memory event = some (next,memory') → next = later.store) ∧
    (∀ id row, s.store.receipt id = some row → row.state = .completed → ∀ rest later,
      Runs (Enabled (sandboxProgram crypto).advance) s rest later → later.store.receipt id = some row) ∧
    ∀ row ∈ s.store.receipts, row.state = .completed →
      ∃ response, row.httpStatus = some response.statusCode ∧ row.sealedResponse =
          some (crypto.sealing.sealEnvelope ⟨row.scope,row.requestFingerprint,response⟩) ∧
        ∀ rest later, Runs (Enabled (sandboxProgram crypto).advance) s rest later →
          (∀ env command, command.scope = row.scope → command.fingerprint = row.requestFingerprint →
            claimProvision crypto env command later.store = .ok (later.store,.answered response.body)) ∧
          (∀ env authorized, authorizeBoundSubject authorized row.subjectId later.store = .ok () →
            ∃ work, claimOperation crypto row.scope row.requestFingerprint env authorized later.store =
              .ok (later.store,work,some response)) ∧
          ∀ command env, command.scope = row.scope →
            crypto.reconcileFingerprint command.body = row.requestFingerprint →
            command.body.observedAt ≤ env.now →
            reconcileStep crypto later.store .idle (.claim command env) = some (later.store,.idle) := by
  have valid := reached_ownership reached
  refine ⟨?_,?_,?_⟩
  · intro caller row label taken rest later found same issued claimed step path
    have after := claim_supersedes valid found same issued claimed step
    have superseded : Superseded later.store caller :=
      after.stays (reached_ownership ((reached.snoc step).append path))
        (continued_ownership (reached.snoc step) path)
    have still (now : Time) : Superseded later.store {caller with now := now} := superseded
    refine ⟨?_,?_,?_⟩
    · intro now transaction mine fenced
      cases committed' : commitSandbox crypto later.store transaction with
      | none => rfl
      | some next => exact ((still now).commits mine fenced committed').elim
    · intro now transaction next mine committed'
      cases fenced : transaction.unfenced with
      | false => exact ((still now).commits mine fenced committed').elim
      | true => exact unfenced_audits fenced committed'
    · intro memory work now event next memory' mine named acted
      exact Superseded.reconcileStep (named ▸ still now) mine acted
  · intro id row found completed rest later path
    obtain ⟨row',kept,moved⟩ := (continued_ownership reached path).moves id row found
    cases moved.settled completed
    exact kept
  · intro row member completed
    obtain ⟨_,response,status,capsule⟩ := valid.settled row member completed
    refine ⟨response,status,capsule,?_⟩
    intro rest later path
    have found := KeyedRows.find_of_mem valid.ids member
    obtain ⟨row',kept,moved⟩ := (continued_ownership reached path).moves row.id row found
    cases moved.settled completed
    have byScope := receipt_by_both (reached_ownership (reached.append path)) kept
    have replayed := replayResponse_sealed faithful completed status capsule
    refine ⟨?_,?_,?_⟩
    · intro env command scope fingerprint
      exact claimProvision_replays (scope ▸ byScope) completed fingerprint replayed env
    · intro env authorized authorize
      exact claimOperation_replays byScope completed replayed authorize env
    · intro command env scope fingerprint observed
      have authorize : authorizeBoundSubject none row.subjectId later.store = .ok () := rfl
      obtain ⟨work,claimed⟩ := claimOperation_replays byScope completed replayed authorize env
      change (if _ then _ else none) = _
      rw [if_pos observed,scope,fingerprint,claimed]
      rfl

theorem sampleFaithful : sampleCryptography.sealing.Faithful := fun _ => rfl

-- A cancellation that is denied while its execution is still provisioning, and
-- is claimed again after its owner's lease has run out.
def sampleCancelScope : Scope := ⟨"actor","sandbox.cancel_execution","cancel"⟩

def sampleCanceler (now : Nat) : Caller := ⟨sampleCancelScope,"cancel",33,23,now⟩

def sampleCancel : List SandboxLabel :=
  [sampleProvision 500 21 1,.transact (.claimOperation sampleCancelScope "cancel" ⟨2,33,23⟩ none)]

def sampleTakeOver : SandboxLabel := .transact (.claimOperation sampleCancelScope "cancel" ⟨40,34,24⟩ none)

def sampleCancelSystem : SandboxSystem SampleSealed :=
  (execute sampleProgram.advance sandboxInitial sampleCancel).get (by decide)

theorem sandbox_command_ownership_taken_over :
    (∃ later, sampleProgram.advance sampleCancelSystem sampleTakeOver = some later ∧
      commitSandbox sampleCryptography later.store (.beginCancel (sampleCanceler 50) "execution" 1 .canceled) = none ∧
      ∀ next, commitSandbox sampleCryptography later.store
          (.auditCancelDenial (sampleCanceler 50) 90 "execution" .activeExecutionConflict) = some next →
        ∃ entries, next = {later.store with audit := later.store.audit ++ entries}) ∧
    ∃ row response, sampleFinalizedSystem.store.receipt 22 = some row ∧ row.state = .completed ∧
      ∀ rest later, Runs (Enabled sampleProgram.advance) sampleFinalizedSystem rest later →
        later.store.receipt 22 = some row ∧
        ∀ env, ∃ work, claimOperation sampleCryptography sampleFinalizeScope "finalize" env none later.store =
          .ok (later.store,work,some response) := by
  refine ⟨?_,?_⟩
  · have reached : Runs (Enabled sampleProgram.advance) sandboxInitial sampleCancel sampleCancelSystem :=
      execute_get (by decide)
    have taken : (sampleProgram.advance sampleCancelSystem sampleTakeOver).isSome := by decide
    obtain ⟨fenced,audited,_⟩ := (sandbox_command_ownership sampleFaithful reached).1 (sampleCanceler 2) _
      sampleTakeOver _ [] _ rfl rfl (by decide) rfl (Option.some_get taken).symm .nil
    exact ⟨_,(Option.some_get taken).symm,
      fenced 50 (.beginCancel (sampleCanceler 50) "execution" 1 .canceled) rfl rfl,
      fun next => audited 50 _ next rfl⟩
  · have reached : Runs (Enabled sampleProgram.advance) sandboxInitial
        ([sampleProvision 500 21 1,sampleReady 21 2] ++ sampleFinalize) sampleFinalizedSystem :=
      Runs.append (execute_get (by decide)) (execute_get (by decide))
    obtain ⟨_,kept,replayed⟩ := sandbox_command_ownership sampleFaithful reached
    have found : sampleFinalizedSystem.store.receipt 22 = some _ := rfl
    obtain ⟨response,_,_,again⟩ := replayed _ (KeyedRows.find_some found).1 rfl
    exact ⟨_,response,found,rfl,fun rest later path =>
      ⟨kept 22 _ found rfl rest later path,fun env => (again rest later path).2.1 env none rfl⟩⟩

-- The denial of a cancellation is recorded in a transaction of its own, which
-- does not ask whether its caller still owns the command.
theorem superseded_denial_commits :
    ¬ ∀ (labels : List SandboxLabel) (s : SandboxSystem SampleSealed) (caller : Caller) (row : CommandReceipt SampleSealed)
        (executionId : String) (environmentId : Uuid) (reason : CancellationReason) (error : SandboxError)
        (label : SandboxLabel) (t : SandboxSystem SampleSealed) (now auditId : Nat),
      Runs (Enabled sampleProgram.advance) sandboxInitial labels s →
      s.store.receiptByScope caller.scope = some row → row.id = caller.commandId →
      row.ownerId = some caller.ownerId →
      beginCancel caller executionId environmentId reason s.store = .error error →
      claims caller.scope label → Enabled sampleProgram.advance s label t →
      commitSandbox sampleCryptography t.store
        (.auditCancelDenial {caller with now := now} auditId executionId error) = none := by
  intro claim
  have reached : Runs (Enabled sampleProgram.advance) sandboxInitial sampleCancel sampleCancelSystem :=
    execute_get (by decide)
  have taken : (sampleProgram.advance sampleCancelSystem sampleTakeOver).isSome := by decide
  have silent := claim sampleCancel sampleCancelSystem (sampleCanceler 3) _ "execution" 1 .canceled
    .activeExecutionConflict sampleTakeOver _ 50 90 reached rfl rfl rfl rfl rfl (Option.some_get taken).symm
  cases silent

end EngineeringPlatform.Sandbox
