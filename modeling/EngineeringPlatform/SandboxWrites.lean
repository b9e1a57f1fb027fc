import EngineeringPlatform.SandboxReconcile
import Mathlib.Logic.Relation
namespace EngineeringPlatform.Sandbox
open Checked Idempotency
variable {κ : Type} {crypto : SandboxCryptography κ}

-- What one UPDATE does to a materialization row alone; `begins` says whether a
-- cleanup may begin.
inductive RowStep (begins : Prop) (row : Materialization κ) : Materialization κ → Prop where
  | bound (provisioning : row.state = .provisioning) (absent : row.recoveryCapsule = none) :
      RowStep begins row (row.bind now capsule)
  | touched (ready : row.state = .ready) : RowStep begins row (row.touch now)
  | begun (permitted : begins) (ready : row.state = .ready) (expected : expectedTransition terminal = some transition)
      (cleanup : terminal ≠ .failed) : RowStep begins row (row.beginCleanup now transition terminal reason)
  | orphaned (provisioning : row.state = .provisioning) :
      RowStep begins row (row.beginProvisionCleanup now code dimension)
  | evidencePersisted (cleaning : row.state.cleaning = true) (intent : row.cleanupTerminalState ≠ none)
      (absent : row.evidencePersistedAt = none) : RowStep begins row (row.persistEvidence now)
  | secretRevoked (fenced : row.fencedAt ≠ none) (absent : row.secretRevokedAt = none) :
      RowStep begins row (row.revokeSecret now)
  | completed (expected : expectedTransition terminal = some transition)
      (cleaning : row.state = transition ∨ row.state = .quarantined)
      (intent : row.cleanupTerminalState = some terminal) (released : row.leaseReleasedAt ≠ none)
      (present : row.destroyedAt = none) : RowStep begins row (row.complete now terminal)
  | quarantined (cleaning : row.state.cleaning = true) (intent : row.cleanupTerminalState ≠ none) :
      RowStep begins row (row.quarantine now code dimension)

inductive ReceiptStep (row : CommandReceipt κ) : CommandReceipt κ → Prop where
  | advanced (subject : row.subjectId = none ∨ row.subjectId = subjectId ∨ subjectId = none) :
      ReceiptStep row (row.advance now phase subjectId)
  | bound (absent : row.subjectId = none) : ReceiptStep row (row.bindSubject now materializationId)
  | completed : ReceiptStep row (row.complete now status sealed)

-- Which of the writes that reconciliation competes with a transaction makes: an
-- owner saves candidates as progress, a materialization is readied, its cleanup
-- begins; and with what a receipt, as it was read, is completed.
structure Allowed (κ : Type) where
  saves : Uuid → List Uuid → Prop
  readies : Uuid → Prop
  begins : Uuid → Prop
  seals : CommandReceipt κ → CommandReceipt κ → Prop

-- The stored response is sealed together with the command it answers.
def SealsAs (crypto : SandboxCryptography κ) (read completed : CommandReceipt κ) : Prop :=
  ∃ response, completed.httpStatus = some response.statusCode ∧
    completed.sealedResponse = some (crypto.sealing.sealEnvelope ⟨read.scope,read.requestFingerprint,response⟩)

abbrev Allowed.Seals (allowed : Allowed κ) (crypto : SandboxCryptography κ) : Prop :=
  ∀ read completed, SealsAs crypto read completed → allowed.seals read completed

variable {allowed : Allowed κ}

-- One write of a transaction, with what the transaction checked before it.
inductive Write (allowed : Allowed κ) (s : SandboxStore κ) : SandboxStore κ → Prop where
  | environment (row : SandboxEnvironment) : Write allowed s (s.addEnvironment row)
  | ledgerOpened (fresh : s.ledgers environmentId = none) :
      Write allowed s (s.putLedger environmentId (emptyLedger environmentId policy now))
  | policyReplaced (found : s.ledgers environmentId = some ledger)
      (idle : ledger.activeAttempts = 0 ∧ ledger.activeUnits = 0) :
      Write allowed s (s.putLedger environmentId (replacePolicy ledger policy now))
  | reserved (found : s.ledgers binding.environment.environmentId = some ledger)
      (admitted : admitReservation binding ledger s = .ok ()) (fresh : s.materialization ids.materializationId = none)
      (unleased : s.lease ids.materializationId = none) (unrun : s.runner ids.materializationId = none)
      (leases : s.leases.any (fun row => row.executionId = binding.executionId ∧ row.state = .active) = false)
      (generations : s.generations.any (fun row => row.executionId = binding.executionId ∧
        (row.state = .active ∨ row.generation = nextGeneration binding.executionId s)) = false) :
      Write allowed s ((s.addReservation binding policy ids tokenDigest (nextGeneration binding.executionId s)
        now).putLedger binding.environment.environmentId (acquireCapacity ledger binding.unitWeight now))
  | row (change : Materialization κ → Materialization κ) (keeps : ∀ row, (change row).id = row.id)
      (found : s.materialization id' = some row) (step : RowStep (allowed.begins id') row (change row)) :
      Write allowed s (s.setMaterialization id' change)
  | readied (permitted : allowed.readies id') (found : s.materialization id' = some row) (leased : s.lease id' = some lease)
      (run : s.runner id' = some runner) (provisioning : row.state = .provisioning)
      (held : lease.state = .active ∧ runner.state = .active) :
      Write allowed s ((s.setMaterialization id' (Materialization.ready now)).setGeneration id'
        (RunnerGeneration.ready now))
  | fenced (found : s.materialization id' = some row) (run : s.runner id' = some runner)
      (cleaning : row.state.cleaning = true) (persisted : row.evidencePersistedAt ≠ none)
      (absent : row.fencedAt = none) (active : runner.state = .active) :
      Write allowed s ((s.setMaterialization id' (Materialization.fence now)).setGeneration id'
        (RunnerGeneration.fence now))
  | released (found : s.materialization id' = some row) (leased : s.lease id' = some lease)
      (revoked : row.secretRevokedAt ≠ none) (absent : row.leaseReleasedAt = none)
      (active : lease.state = .active) (ledgered : s.ledgers row.environmentId = some ledger)
      (enough : 1 ≤ ledger.activeAttempts ∧ row.resourceUnitWeight ≤ ledger.activeUnits) :
      Write allowed s ((((s.setMaterialization id' (Materialization.releaseLease now)).setLease id'
        (CapacityLease.release now)).setGeneration id' (RunnerGeneration.release now)).putLedger
        row.environmentId (returnCapacity ledger row.resourceUnitWeight now))
  | claimed (unclaimed : s.receiptByScope scope = none) (fresh : s.receipt commandId = none)
      (owner : ownerId ∉ s.ownerIds) :
      Write allowed s ((s.addReceipt (claimedReceipt commandId ownerId scope fingerprint expires now)).issue
        ownerId)
  | takenOver (found : s.receiptByScope scope = some row) (running : row.state = .inProgress)
      (expired : row.ownerExpiresAt.all (· ≤ now) = true) (owner : ownerId ∉ s.ownerIds) :
      Write allowed s ((s.setReceipt row.id fun row => row.takeOver now ownerId expires).issue ownerId)
  | receipt (change : CommandReceipt κ → CommandReceipt κ)
      (keeps : ∀ row, (change row).id = row.id ∧ (change row).scope = row.scope)
      (found : s.receipt id' = some row) (owned : row.state = .inProgress ∧ row.ownerId = some ownerId)
      (step : ReceiptStep row (change row))
      (sealing : (change row).state = .completed →
        ∃ read ∈ s.receipts, read.id = id' ∧ allowed.seals read (change row)) :
      Write allowed s (s.setReceipt id' change)
  | saved (permitted : allowed.saves ownerId progress.candidates) (found : s.receipt id' = some row)
      (owned : row.state = .inProgress ∧ row.ownerId = some ownerId) :
      Write allowed s (s.setReceipt id' fun row => row.save now progress)
  | evidence (rows : List EvidenceReference) : Write allowed s (s.addEvidence rows)
  | preview (row : PreviewIntentRow) : Write allowed s (s.putPreview row)
  | reconciliation (row : ReconciliationRun) : Write allowed s (s.addReconciliation row)
  | audited (entry : SandboxAuditAppend) : Write allowed s (s.addAudit entry)

abbrev Writes (allowed : Allowed κ) (s next : SandboxStore κ) : Prop := Relation.ReflTransGen (Write allowed) s next

theorem Write.writes {s next : SandboxStore κ} (step : Write allowed s next) : Writes allowed s next :=
  .single step

section Repository
variable {s next : SandboxStore κ} {guard : MaterializationGuard}

theorem acquireCommand_writes
    (ran : acquireCommand commandId ownerId scope fingerprint expires now s = .ok (next,ownership)) :
    Writes allowed s next := by
  unfold acquireCommand at ran
  split at ran
  · rename_i unclaimed
    simp only [require_bind_ok,pure_ok,Prod.mk.injEq] at ran
    obtain ⟨owner,fresh,rfl,_⟩ := ran
    exact (Write.claimed unclaimed fresh owner).writes
  · rename_i row found
    obtain ⟨_,ran⟩ := require_bind_ok.mp ran
    split at ran
    · cases pure_ok.mp ran
      exact .refl
    · rename_i running
      simp only [require_bind_ok,pure_ok,Prod.mk.injEq] at ran
      obtain ⟨owner,expired,rfl,_⟩ := ran
      have inProgress : row.state = .inProgress := by cases state : row.state <;> simp_all
      exact (Write.takenOver found inProgress expired owner).writes

theorem ownedReceipt_ok (ran : ownedReceipt commandId ownerId s = .ok row) :
    s.receipt commandId = some row ∧ row.state = .inProgress ∧ row.ownerId = some ownerId := by
  simp only [ownedReceipt,orRaise_bind_ok,require_bind_ok,pure_ok] at ran
  obtain ⟨_,found,owned,rfl⟩ := ran
  exact ⟨found,owned⟩

theorem advanceCommand_writes (ran : advanceCommand commandId ownerId phase subjectId now s = .ok next) :
    Write allowed s next := by
  obtain ⟨row,owned,ran⟩ := bind_ok.mp ran
  simp only [require_bind_ok,pure_ok] at ran
  obtain ⟨subject,rfl⟩ := ran
  obtain ⟨found,held⟩ := ownedReceipt_ok owned
  exact .receipt _ (fun _ => ⟨rfl,rfl⟩) found held (.advanced subject) fun done => by
    cases held.1.symm.trans done

theorem saveCommandProgress_writes (permitted : allowed.saves ownerId progress.candidates)
    (ran : saveCommandProgress commandId ownerId progress now s = .ok next) : Write allowed s next := by
  obtain ⟨row,owned,ran⟩ := bind_ok.mp ran
  cases pure_ok.mp ran
  obtain ⟨found,held⟩ := ownedReceipt_ok owned
  exact .saved permitted found held

theorem completeResponse_writes (seals : allowed.Seals crypto) (read : receipt ∈ s.receipts)
    (ran : completeResponse crypto receipt ownerId status result now s = .ok next) : Write allowed s next := by
  simp only [completeResponse,completeIdempotency,orRaise_bind_ok,require_bind_ok,pure_ok] at ran
  obtain ⟨row,found,owned,rfl⟩ := ran
  exact .receipt _ (fun _ => ⟨rfl,rfl⟩) found owned .completed fun _ =>
    ⟨receipt,read,rfl,seals _ _ ⟨{statusCode := status, body := result},rfl,rfl⟩⟩

theorem ensureEnvironment_writes (ran : ensureEnvironment environment now s = .ok next) :
    Writes allowed s next := by
  unfold ensureEnvironment at ran
  split at ran
  · simp only [require_bind_ok,pure_ok] at ran
    obtain ⟨_,rfl⟩ := ran
    exact .refl
  · simp only [require_bind_ok,pure_ok] at ran
    obtain ⟨_,rfl⟩ := ran
    exact (Write.environment _).writes

theorem ensureLedger_writes (ran : ensureLedger environmentId policy now s = .ok (next,ledger)) :
    Writes allowed s next ∧ next.ledgers environmentId = some ledger := by
  unfold ensureLedger at ran
  split at ran
  · rename_i fresh
    cases pure_ok.mp ran
    exact ⟨(Write.ledgerOpened fresh).writes,Table.put_same _ _ _⟩
  · rename_i stored found
    split at ran
    · cases pure_ok.mp ran
      exact ⟨.refl,found⟩
    · simp only [require_bind_ok,pure_ok,Prod.mk.injEq] at ran
      obtain ⟨idle,rfl,rfl⟩ := ran
      exact ⟨(Write.policyReplaced found idle).writes,Table.put_same _ _ _⟩

theorem insertReservation_writes (found : s.ledgers binding.environment.environmentId = some ledger)
    (admitted : admitReservation binding ledger s = .ok ())
    (ran : insertReservation binding policy ids tokenDigest ledger now s = .ok (next,record)) :
    Write allowed s next := by
  simp only [insertReservation,require_bind_ok,pure_ok,Prod.mk.injEq] at ran
  obtain ⟨fresh,unleased,leases,unrun,generations,rfl,_⟩ := ran
  exact .reserved found admitted fresh unleased unrun leases generations

theorem ensureEnvironment_receipts (ran : ensureEnvironment environment now s = .ok next) :
    next.receipts = s.receipts := by
  unfold ensureEnvironment at ran
  split at ran
  all_goals
    simp only [require_bind_ok,pure_ok] at ran
    obtain ⟨_,rfl⟩ := ran
    rfl

theorem ensureLedger_receipts (ran : ensureLedger environmentId policy now s = .ok (next,ledger)) :
    next.receipts = s.receipts := by
  unfold ensureLedger at ran
  split at ran
  · cases pure_ok.mp ran
    rfl
  · split at ran
    · cases pure_ok.mp ran
      rfl
    · simp only [require_bind_ok,pure_ok,Prod.mk.injEq] at ran
      obtain ⟨_,rfl,_⟩ := ran
      rfl

theorem reserveMaterialization_receipts
    (ran : reserveMaterialization binding policy ids tokenDigest now s = .ok (next,admission)) :
    next.receipts = s.receipts := by
  unfold reserveMaterialization at ran
  split at ran
  · cases pure_ok.mp ran
    rfl
  · rename_i environment
    have opened := ensureEnvironment_receipts environment
    split at ran
    · cases pure_ok.mp ran
      exact opened
    · rename_i capacity
      have funded := (ensureLedger_receipts capacity).trans opened
      split at ran
      · cases pure_ok.mp ran
        exact funded
      · obtain ⟨⟨reserved,record⟩,inserted,ran⟩ := bind_ok.mp ran
        cases pure_ok.mp ran
        simp only [insertReservation,require_bind_ok,pure_ok,Prod.mk.injEq] at inserted
        obtain ⟨_,_,_,_,_,rfl,_⟩ := inserted
        exact funded

theorem reserveMaterialization_writes
    (ran : reserveMaterialization binding policy ids tokenDigest now s = .ok (next,admission)) :
    Writes allowed s next := by
  unfold reserveMaterialization at ran
  split at ran
  · cases pure_ok.mp ran
    exact .refl
  · rename_i ensured environment
    have opened : Writes allowed s ensured := ensureEnvironment_writes environment
    split at ran
    · cases pure_ok.mp ran
      exact opened
    · rename_i funded ledger capacity
      obtain ⟨path,found⟩ := ensureLedger_writes capacity
      split at ran
      · cases pure_ok.mp ran
        exact opened.trans path
      · rename_i admitted
        obtain ⟨⟨reserved,record⟩,inserted,ran⟩ := bind_ok.mp ran
        cases pure_ok.mp ran
        exact (opened.trans path).tail (insertReservation_writes found admitted inserted)

theorem bindCommandSubject_writes
    (ran : bindCommandSubject commandId materializationId ownerId capsule now s = .ok next) :
    Writes allowed s next := by
  simp only [bindCommandSubject,orRaise_bind_ok,require_bind_ok,pure_ok] at ran
  obtain ⟨row,found,⟨provisioning,absent⟩,receipt,stored,owned,rfl⟩ := ran
  have bound : Write allowed s (s.setMaterialization materializationId fun row => row.bind now capsule) :=
    .row _ (fun _ => rfl) found (.bound provisioning absent)
  exact bound.writes.tail (.receipt _ (fun _ => ⟨rfl,rfl⟩) stored ⟨owned.1,owned.2.1⟩ (.bound owned.2.2)
    fun done => by cases owned.1.symm.trans done)

theorem markMaterializationReady_receipts
    (ran : markMaterializationReady materializationId generation now s = .ok (next,record)) :
    next.receipts = s.receipts := by
  simp only [markMaterializationReady,orRaise_bind_ok,require_bind_ok,pure_ok,Prod.mk.injEq] at ran
  obtain ⟨_,_,_,_,_,_,_,rfl,_⟩ := ran
  rfl

theorem markMaterializationReady_writes (permitted : allowed.readies materializationId)
    (ran : markMaterializationReady materializationId generation now s = .ok (next,record)) :
    Write allowed s next := by
  simp only [markMaterializationReady,orRaise_bind_ok,require_bind_ok,pure_ok,Prod.mk.injEq] at ran
  obtain ⟨row,found,lease,leased,runner,run,⟨_,provisioning,held⟩,rfl,_⟩ := ran
  exact .readied permitted found leased run provisioning held

theorem lockCurrentGuard_ok (ran : lockCurrentGuard crypto guard s = .ok row) :
    s.materialization guard.materializationId = some row ∧
      ∃ lease, s.lease guard.materializationId = some lease ∧ lease.state = .active := by
  simp only [lockCurrentGuard,orRaise_bind_ok,require_bind_ok,pure_ok] at ran
  obtain ⟨_,found,lease,leased,runner,_,checks,rfl⟩ := ran
  exact ⟨found,lease,leased,checks.2.2.2.1⟩

theorem insertEvidence_writes (ran : insertEvidence crypto materializationId evidence now s = .ok next) :
    Write allowed s next ∧ next.materializations = s.materializations := by
  simp only [insertEvidence,require_bind_ok,pure_ok] at ran
  obtain ⟨_,_,_,_,rfl⟩ := ran
  exact ⟨.evidence _,rfl⟩

theorem beginPreviewIntent_writes
    (ran : beginPreviewIntent crypto commandId ownerId guard metadata expiresAt now s = .ok (next,revision)) :
    Writes allowed s next := by
  obtain ⟨row,locked,ran⟩ := bind_ok.mp ran
  simp only [require_bind_ok] at ran
  obtain ⟨ready,_,ran⟩ := ran
  obtain ⟨after,advanced,ran⟩ := bind_ok.mp ran
  cases pure_ok.mp ran
  obtain ⟨found,_⟩ := lockCurrentGuard_ok locked
  have touched : Writes allowed s _ := .tail (.single (.preview ⟨commandId,guard.materializationId,
    guard.generation,metadata,expiresAt,.intent,now,now⟩))
    (.row (Materialization.touch now) (fun _ => rfl) found (.touched ready))
  exact touched.tail (advanceCommand_writes advanced)

theorem completePreviewIntent_writes
    (ran : completePreviewIntent crypto commandId ownerId evidenceId metadata now s = .ok (next,revision)) :
    Writes allowed s next := by
  simp only [completePreviewIntent,orRaise_bind_ok,require_bind_ok] at ran
  obtain ⟨preview,_,receipt,_,row,_,_,ran⟩ := ran
  obtain ⟨inserted,evidence,ran⟩ := bind_ok.mp ran
  obtain ⟨after,advanced,ran⟩ := bind_ok.mp ran
  cases pure_ok.mp ran
  exact ((insertEvidence_writes evidence).1.writes.tail (.preview _)).tail (advanceCommand_writes advanced)

-- A cleanup starts from READY, on the very row whose guard was locked.
theorem beginCleanup_writes (permitted : allowed.begins guard.materializationId)
    (ran : beginCleanup crypto guard evidence transition terminal reason now s = .ok (next,revision)) :
    Writes allowed s next := by
  obtain ⟨expected,ran⟩ := require_bind_ok.mp ran
  obtain ⟨row,locked,ran⟩ := bind_ok.mp ran
  obtain ⟨ready,ran⟩ := require_bind_ok.mp ran
  obtain ⟨inserted,evidence,ran⟩ := bind_ok.mp ran
  cases pure_ok.mp ran
  obtain ⟨written,same⟩ := insertEvidence_writes evidence
  have found : inserted.materialization guard.materializationId = some row := by
    unfold SandboxStore.materialization
    rw [same]
    exact (lockCurrentGuard_ok locked).1
  exact written.writes.tail (.row _ (fun _ => rfl) found (.begun permitted ready expected.2 expected.1))

theorem executionMaterialization_some (chosen : executionMaterialization executionId s = some row) :
    row ∈ s.materializations ∧ row.executionId = executionId := by
  have member := (List.mem_insertionSort _).mp (List.mem_of_mem_head? chosen)
  simpa using List.mem_filter.mp member

theorem cleanupRecord_ok (ran : cleanupRecord materializationId s = .ok record) :
    ∃ row lease, s.materialization materializationId = some row ∧ s.lease materializationId = some lease ∧
      record = cleanupRecordOf row lease := by
  simp only [cleanupRecord,orRaise_bind_ok,pure_ok] at ran
  obtain ⟨row,found,lease,leased,rfl⟩ := ran
  exact ⟨row,lease,found,leased,rfl⟩

theorem beginCancelCleanup_writes (unique : KeyedRows.Unique Materialization.id s.materializations)
    (permitted : ∀ id, allowed.begins id)
    (ran : beginCancelCleanup executionId environmentId (cancelTerminal reason) reason commandId ownerId now
      s = .ok (next,record)) : Writes allowed s next := by
  simp only [beginCancelCleanup,orRaise_bind_ok,require_bind_ok] at ran
  obtain ⟨row,chosen,_,_,ran⟩ := ran
  obtain ⟨advanced,advance,ran⟩ := bind_ok.mp ran
  obtain ⟨read,_,ran⟩ := bind_ok.mp ran
  cases pure_ok.mp ran
  split at advance
  · rename_i ready
    have found := KeyedRows.find_of_mem unique (executionMaterialization_some chosen).1
    have begun : Write allowed s (s.setMaterialization row.id fun row =>
        row.beginCleanup now .canceling (cancelTerminal reason) (some reason)) := by
      refine .row _ (fun _ => rfl) found (.begun (permitted _) ready ?_ ?_) <;> cases reason <;> decide
    exact begun.writes.tail (advanceCommand_writes advance)
  · exact (advanceCommand_writes advance).writes

theorem beginProvisionCleanup_writes
    (ran : beginProvisionCleanup materializationId code dimension now s = .ok (next,record)) :
    Write allowed s next := by
  simp only [beginProvisionCleanup,orRaise_bind_ok,require_bind_ok] at ran
  obtain ⟨row,found,provisioning,ran⟩ := ran
  obtain ⟨read,_,ran⟩ := bind_ok.mp ran
  cases pure_ok.mp ran
  exact .row _ (fun _ => rfl) found (.orphaned provisioning)

theorem applyMark_writes (ran : applyMark mark materializationId revision now s = .ok next) :
    Write allowed s next := by
  cases mark with
  | evidencePersisted =>
    simp only [applyMark,markEvidencePersisted,orRaise_bind_ok,require_bind_ok,pure_ok] at ran
    obtain ⟨row,found,⟨cleaning,_,intent,absent⟩,rfl⟩ := ran
    exact .row _ (fun _ => rfl) found (.evidencePersisted cleaning intent absent)
  | fenced =>
    simp only [applyMark,markFenced,orRaise_bind_ok,require_bind_ok,pure_ok] at ran
    obtain ⟨row,found,runner,run,⟨cleaning,_,persisted,absent,active⟩,rfl⟩ := ran
    exact .fenced found run cleaning persisted absent active
  | secretRevoked =>
    simp only [applyMark,markSecretRevoked,orRaise_bind_ok,require_bind_ok,pure_ok] at ran
    obtain ⟨row,found,⟨_,fenced,absent⟩,rfl⟩ := ran
    exact .row _ (fun _ => rfl) found (.secretRevoked fenced absent)
  | capacityReleased =>
    simp only [applyMark,releaseCapacity,orRaise_bind_ok,require_bind_ok,pure_ok] at ran
    obtain ⟨row,found,lease,leased,⟨_,revoked,absent,active⟩,ledger,ledgered,enough,rfl⟩ := ran
    exact .released found leased revoked absent active ledgered enough

theorem completeCleanup_writes
    (ran : completeCleanup materializationId revision terminal now s = .ok next) : Write allowed s next := by
  simp only [completeCleanup,orRaise_bind_ok,require_bind_ok,pure_ok] at ran
  obtain ⟨transition,expected,row,found,⟨cleaning,intent,_,released,present⟩,rfl⟩ := ran
  exact .row _ (fun _ => rfl) found (.completed expected cleaning intent released present)

theorem ensureCompleted_writes
    (ran : ensureCompleted materializationId state revision terminal now s = .ok next) :
    Writes allowed s next := by
  unfold ensureCompleted at ran
  split at ran
  · cases pure_ok.mp ran
    exact .refl
  · exact (completeCleanup_writes ran).writes

theorem ensureCompleted_receipts
    (ran : ensureCompleted materializationId state revision terminal now s = .ok next) :
    next.receipts = s.receipts := by
  unfold ensureCompleted at ran
  split at ran
  · cases pure_ok.mp ran
    rfl
  · simp only [completeCleanup,orRaise_bind_ok,require_bind_ok,pure_ok] at ran
    obtain ⟨_,_,_,_,_,rfl⟩ := ran
    rfl

theorem receiptByScope_mem (found : s.receiptByScope scope = some row) : row ∈ s.receipts :=
  (KeyedRows.find_some found).1

theorem operationRow_mem (ran : operationRow scope fingerprint ownerId s = .ok row) : row ∈ s.receipts := by
  simp only [operationRow,orRaise_bind_ok,require_bind_ok,pure_ok] at ran
  obtain ⟨_,found,_,rfl⟩ := ran
  exact receiptByScope_mem found

theorem quarantineCleanup_writes
    (ran : quarantineCleanup materializationId revision code dimension now s = .ok next) :
    Write allowed s next := by
  simp only [quarantineCleanup,orRaise_bind_ok,require_bind_ok,pure_ok] at ran
  obtain ⟨row,found,⟨cleaning,_,intent⟩,rfl⟩ := ran
  exact .row _ (fun _ => rfl) found (.quarantined cleaning intent)

end Repository

section Transactions
variable {s next : SandboxStore κ} {guard : MaterializationGuard} {caller : Caller}

theorem claimProvision_writes (seals : allowed.Seals crypto)
    (ran : claimProvision crypto env command s = .ok (next,claim)) :
    Writes allowed s next := by
  obtain ⟨⟨acquired,ownership⟩,acquire,ran⟩ := bind_ok.mp ran
  have owned : Writes allowed s acquired := acquireCommand_writes acquire
  obtain ⟨row,read,ran⟩ := orRaise_bind_ok.mp ran
  have stored := receiptByScope_mem read
  split at ran
  · obtain ⟨response,_,ran⟩ := bind_ok.mp ran
    cases pure_ok.mp ran
    exact owned
  split at ran
  · simp only [orRaise_bind_ok,require_bind_ok] at ran
    obtain ⟨subject,_,_,ran⟩ := ran
    obtain ⟨⟨reservation,capsule⟩,_,ran⟩ := bind_ok.mp ran
    obtain ⟨token,_,ran⟩ := bind_ok.mp ran
    cases pure_ok.mp ran
    exact owned
  split at ran
  · obtain ⟨denial,_,ran⟩ := orRaise_bind_ok.mp ran
    obtain ⟨completed,complete,ran⟩ := bind_ok.mp ran
    cases pure_ok.mp ran
    exact owned.tail (completeResponse_writes seals stored complete)
  · obtain ⟨⟨reserved,admission⟩,reserve,ran⟩ := bind_ok.mp ran
    have path := owned.trans (reserveMaterialization_writes reserve)
    cases admission with
    | error denied =>
      obtain ⟨denial,_,ran⟩ := orRaise_bind_ok.mp ran
      obtain ⟨completed,complete,ran⟩ := bind_ok.mp ran
      cases pure_ok.mp ran
      exact path.tail (completeResponse_writes seals (reserveMaterialization_receipts reserve ▸ stored) complete)
    | ok reservation =>
      obtain ⟨bound,bind,ran⟩ := bind_ok.mp ran
      cases pure_ok.mp ran
      exact path.trans (bindCommandSubject_writes bind)

theorem completeReady_writes (seals : allowed.Seals crypto) (permitted : allowed.readies reservation.materializationId)
    (ran : completeReady crypto caller reservation token protocolVersion s = .ok (next,result)) :
    Writes allowed s next := by
  obtain ⟨row,read,ran⟩ := bind_ok.mp ran
  obtain ⟨⟨marked,ready⟩,mark,ran⟩ := bind_ok.mp ran
  obtain ⟨completed,complete,ran⟩ := bind_ok.mp ran
  cases pure_ok.mp ran
  have stored : row ∈ marked.receipts := markMaterializationReady_receipts mark ▸ operationRow_mem read
  exact (markMaterializationReady_writes permitted mark).writes.tail (completeResponse_writes seals stored complete)

theorem failProvision_writes
    (ran : failProvision caller materializationId code dimension s = .ok (next,record)) :
    Writes allowed s next := by
  obtain ⟨row,_,ran⟩ := bind_ok.mp ran
  obtain ⟨current,_,ran⟩ := bind_ok.mp ran
  split at ran
  · obtain ⟨⟨begun,after⟩,begin',ran⟩ := bind_ok.mp ran
    obtain ⟨advanced,advance,ran⟩ := bind_ok.mp ran
    cases pure_ok.mp ran
    exact (beginProvisionCleanup_writes begin').writes.tail (advanceCommand_writes advance)
  · cases pure_ok.mp ran
    exact .refl

theorem completeFailed_writes (seals : allowed.Seals crypto)
    (ran : completeFailed crypto caller binding current denial s = .ok (next,result)) :
    Writes allowed s next := by
  obtain ⟨row,read,ran⟩ := bind_ok.mp ran
  obtain ⟨cleaned,cleanup,ran⟩ := bind_ok.mp ran
  obtain ⟨completed,complete,ran⟩ := bind_ok.mp ran
  cases pure_ok.mp ran
  have stored : row ∈ cleaned.receipts := ensureCompleted_receipts cleanup ▸ operationRow_mem read
  exact .tail (ensureCompleted_writes cleanup) (completeResponse_writes seals stored complete)

theorem claimOperation_writes
    (ran : claimOperation crypto scope fingerprint env authorized s = .ok (next,work)) :
    Writes allowed s next := by
  obtain ⟨⟨acquired,ownership⟩,acquire,ran⟩ := bind_ok.mp ran
  have owned : Writes allowed s acquired := acquireCommand_writes acquire
  obtain ⟨row,_,ran⟩ := orRaise_bind_ok.mp ran
  obtain ⟨_,_,ran⟩ := bind_ok.mp ran
  split at ran
  · obtain ⟨response,_,ran⟩ := bind_ok.mp ran
    cases pure_ok.mp ran
    exact owned
  · cases pure_ok.mp ran
    exact owned

theorem beginLifecycle_writes (permitted : allowed.begins guard.materializationId)
    (ran : beginLifecycle crypto caller guard evidence transition terminal s = .ok (next,revision)) :
    Writes allowed s next := by
  obtain ⟨row,_,ran⟩ := bind_ok.mp ran
  obtain ⟨⟨begun,after⟩,begin',ran⟩ := bind_ok.mp ran
  obtain ⟨advanced,advance,ran⟩ := bind_ok.mp ran
  cases pure_ok.mp ran
  exact .tail (beginCleanup_writes permitted begin') (advanceCommand_writes advance)

theorem cleanupStep_writes
    (ran : cleanupStep caller mark materializationId revision s = .ok (next,done)) : Write allowed s next := by
  obtain ⟨row,_,ran⟩ := bind_ok.mp ran
  obtain ⟨marked,mark,ran⟩ := bind_ok.mp ran
  cases pure_ok.mp ran
  exact applyMark_writes mark

theorem completeLifecycle_writes (seals : allowed.Seals crypto)
    (ran : completeLifecycle crypto caller materializationId revision terminal s = .ok (next,receipt)) :
    Writes allowed s next := by
  obtain ⟨_,_,ran⟩ := bind_ok.mp ran
  obtain ⟨current,_,ran⟩ := bind_ok.mp ran
  obtain ⟨cleaned,cleanup,ran⟩ := bind_ok.mp ran
  obtain ⟨status,_,ran⟩ := orRaise_bind_ok.mp ran
  obtain ⟨row,read,ran⟩ := bind_ok.mp ran
  obtain ⟨completed,complete,ran⟩ := bind_ok.mp ran
  cases pure_ok.mp ran
  exact .tail (ensureCompleted_writes cleanup) (completeResponse_writes seals (operationRow_mem read) complete)

theorem quarantineLifecycle_writes
    (ran : quarantineLifecycle caller materializationId s = .ok (next,receipt)) : Writes allowed s next := by
  obtain ⟨_,_,ran⟩ := bind_ok.mp ran
  obtain ⟨current,_,ran⟩ := bind_ok.mp ran
  obtain ⟨cleaned,cleanup,ran⟩ := bind_ok.mp ran
  obtain ⟨status,_,ran⟩ := orRaise_bind_ok.mp ran
  obtain ⟨row,_,ran⟩ := bind_ok.mp ran
  obtain ⟨advanced,advance,ran⟩ := bind_ok.mp ran
  cases pure_ok.mp ran
  exact (quarantineCleanup_writes cleanup).writes.tail (advanceCommand_writes advance)

theorem completeLifecycleDenial_writes (seals : allowed.Seals crypto)
    (ran : completeLifecycleDenial crypto caller materializationId error s = .ok (next,receipt)) :
    Write allowed s next := by
  simp only [completeLifecycleDenial,orRaise_bind_ok] at ran
  obtain ⟨_,_,_,_,ran⟩ := ran
  obtain ⟨row,read,ran⟩ := bind_ok.mp ran
  obtain ⟨completed,complete,ran⟩ := bind_ok.mp ran
  cases pure_ok.mp ran
  exact completeResponse_writes seals (operationRow_mem read) complete

theorem beginCancel_writes (unique : KeyedRows.Unique Materialization.id s.materializations)
    (permitted : ∀ id, allowed.begins id)
    (ran : beginCancel caller executionId environmentId reason s = .ok (next,record)) :
    Writes allowed s next := by
  obtain ⟨row,_,ran⟩ := bind_ok.mp ran
  exact beginCancelCleanup_writes unique permitted ran

theorem auditCancelDenial_writes
    (ran : auditCancelDenial caller auditId executionId error s = .ok (next,done)) : Write allowed s next := by
  simp only [auditCancelDenial,orRaise_bind_ok,pure_ok,Prod.mk.injEq] at ran
  obtain ⟨denial,_,rfl,_⟩ := ran
  exact .audited _

theorem checkHandoff_ok (ran : checkHandoff crypto guard s = .ok (next,done)) : next = s := by
  obtain ⟨_,_,ran⟩ := bind_ok.mp ran
  cases pure_ok.mp ran
  rfl

theorem completeAlreadyTerminal_writes (seals : allowed.Seals crypto)
    (ran : completeAlreadyTerminal crypto caller materializationId s = .ok (next,receipt)) :
    Write allowed s next := by
  obtain ⟨_,_,ran⟩ := orRaise_bind_ok.mp ran
  obtain ⟨row,read,ran⟩ := bind_ok.mp ran
  obtain ⟨completed,complete,ran⟩ := bind_ok.mp ran
  cases pure_ok.mp ran
  exact completeResponse_writes seals (operationRow_mem read) complete

theorem beginPreview_writes
    (ran : beginPreview crypto caller guard metadata expiresAt s = .ok (next,revision)) :
    Writes allowed s next := by
  obtain ⟨_,ran⟩ := require_bind_ok.mp ran
  exact beginPreviewIntent_writes ran

theorem completePreview_writes (seals : allowed.Seals crypto)
    (ran : completePreview crypto caller evidenceId metadata previewId accessRef expiresAt s =
      .ok (next,result)) : Writes allowed s next := by
  obtain ⟨⟨published,revision⟩,publish,ran⟩ := bind_ok.mp ran
  obtain ⟨row,read,ran⟩ := bind_ok.mp ran
  obtain ⟨completed,complete,ran⟩ := bind_ok.mp ran
  cases pure_ok.mp ran
  exact .tail (completePreviewIntent_writes publish) (completeResponse_writes seals (operationRow_mem read) complete)

theorem completePreviewDenial_writes (seals : allowed.Seals crypto)
    (ran : completePreviewDenial crypto caller materializationId error s = .ok (next,result)) :
    Write allowed s next := by
  simp only [completePreviewDenial,orRaise_bind_ok] at ran
  obtain ⟨_,_,_,_,ran⟩ := ran
  obtain ⟨row,read,ran⟩ := bind_ok.mp ran
  obtain ⟨completed,complete,ran⟩ := bind_ok.mp ran
  cases pure_ok.mp ran
  exact completeResponse_writes seals (operationRow_mem read) complete

def SandboxTransaction.readies : SandboxTransaction → Uuid → Prop
  | .completeReady _ reservation _ _,id => id = reservation.materializationId
  | _,_ => False

-- Every transaction of the controller is a sequence of writes; none but the
-- reconciliation saves progress.
theorem commitSandbox_writes (unique : KeyedRows.Unique Materialization.id s.materializations)
    (readies : ∀ id, transaction.readies id → allowed.readies id) (begins : ∀ id, allowed.begins id)
    (seals : allowed.Seals crypto) (step : commitSandbox crypto s transaction = some next) : Writes allowed s next := by
  cases transaction <;> obtain ⟨result,ran⟩ := committed_some.mp step
  case claimProvision => exact claimProvision_writes seals ran
  case completeReady => exact completeReady_writes seals (readies _ rfl) ran
  case failProvision => exact failProvision_writes ran
  case completeFailed => exact completeFailed_writes seals ran
  case claimOperation => exact claimOperation_writes ran
  case beginLifecycle => exact beginLifecycle_writes (begins _) ran
  case cleanupStep => exact (cleanupStep_writes ran).writes
  case completeLifecycle => exact completeLifecycle_writes seals ran
  case quarantineLifecycle => exact quarantineLifecycle_writes ran
  case completeLifecycleDenial => exact (completeLifecycleDenial_writes seals ran).writes
  case beginCancel => exact beginCancel_writes unique begins ran
  case auditCancelDenial => exact (auditCancelDenial_writes ran).writes
  case checkHandoff =>
    cases checkHandoff_ok ran
    exact .refl
  case completeAlreadyTerminal => exact (completeAlreadyTerminal_writes seals ran).writes
  case beginPreview => exact beginPreview_writes ran
  case completePreview => exact completePreview_writes seals ran
  case completePreviewDenial => exact (completePreviewDenial_writes seals ran).writes

end Transactions
section Reconciliation
variable {s next : SandboxStore κ} {work : OwnedCommand κ} {guard : MaterializationGuard}

def selectedIds (command : ReconcileLeaseCommand) (s : SandboxStore κ) : List Uuid :=
  (cleanupCandidates command.body.environmentId command.body.executionId command.body.observedAt s).map
    CleanupRecord.materializationId

theorem selectCandidates_writes
    (saving : allowed.saves work.ownerId (selectedIds command s))
    (ran : selectCandidates command work now s = .ok (next,selection)) :
    Writes allowed s next := by
  obtain ⟨row,_,ran⟩ := bind_ok.mp ran
  split at ran
  · obtain ⟨saved,save,ran⟩ := bind_ok.mp ran
    cases pure_ok.mp ran
    exact (saveCommandProgress_writes saving save).writes
  · obtain ⟨candidates,_,ran⟩ := bind_ok.mp ran
    cases pure_ok.mp ran
    exact .refl

theorem beginOrphanCleanup_writes
    (ran : beginOrphanCleanup work materializationId now s = .ok (next,record)) : Write allowed s next := by
  obtain ⟨row,_,ran⟩ := bind_ok.mp ran
  exact beginProvisionCleanup_writes ran

theorem beginExpiredCleanup_writes (permitted : allowed.begins guard.materializationId)
    (ran : beginExpiredCleanup crypto work guard now s = .ok (next,revision)) : Writes allowed s next := by
  obtain ⟨row,_,ran⟩ := bind_ok.mp ran
  exact beginCleanup_writes permitted ran

theorem completeItem_writes (saving : allowed.saves work.ownerId progress.candidates)
    (ran : completeItem work progress current terminal now s = .ok (next,item)) :
    Writes allowed s next := by
  obtain ⟨row,_,ran⟩ := bind_ok.mp ran
  obtain ⟨cleaned,cleanup,ran⟩ := bind_ok.mp ran
  obtain ⟨saved,save,ran⟩ := bind_ok.mp ran
  cases pure_ok.mp ran
  exact .tail (ensureCompleted_writes cleanup) (saveCommandProgress_writes (by exact saving) save)

theorem quarantineItem_writes (saving : allowed.saves work.ownerId progress.candidates)
    (ran : quarantineItem work progress materializationId now s = .ok (next,item)) : Writes allowed s next := by
  obtain ⟨row,_,ran⟩ := bind_ok.mp ran
  obtain ⟨failed,_,ran⟩ := bind_ok.mp ran
  obtain ⟨cleaned,cleanup,ran⟩ := bind_ok.mp ran
  obtain ⟨saved,save,ran⟩ := bind_ok.mp ran
  cases pure_ok.mp ran
  exact (quarantineCleanup_writes cleanup).writes.tail (saveCommandProgress_writes (by exact saving) save)

theorem finishReconciliation_writes (seals : allowed.Seals crypto)
    (ran : finishReconciliation crypto command work items scanned reconciled now s = .ok (next,receipt)) :
    Writes allowed s next := by
  obtain ⟨row,read,ran⟩ := bind_ok.mp ran
  obtain ⟨completed,complete,ran⟩ := bind_ok.mp ran
  cases pure_ok.mp ran
  have stored := operationRow_mem read
  split at complete <;> rename_i known
  · exact .tail (.single (.reconciliation _))
      (completeResponse_writes seals (by simpa [known] using stored) complete)
  · exact (completeResponse_writes seals (by simpa [known] using stored) complete).writes

-- The one step of a reconciliation that takes a materialization out of READY.
def ReconcileWorker.begins : ReconcileWorker κ → ReconcileEvent → Uuid → Prop
  | .guarded _ candidate guard,.begin _,id => candidate.state = .ready ∧ id = guard.materializationId
  | _,_,_ => False

-- The steps that save candidates: the first selection, and every item completed
-- since, which saves the same ones again.
def ReconcileWorker.saves (s : SandboxStore κ) : ReconcileWorker κ → ReconcileEvent → Uuid → List Uuid → Prop
  | .claimed command work,.select _,ownerId,candidates =>
    ownerId = work.ownerId ∧ candidates = selectedIds command s
  | .cleaned frame _ _,.complete _,ownerId,candidates =>
    ownerId = frame.work.ownerId ∧ candidates = frame.progress.candidates
  | .failing frame _,.quarantine _,ownerId,candidates =>
    ownerId = frame.work.ownerId ∧ candidates = frame.progress.candidates
  | _,_,_,_ => False

theorem reconcileStep_writes
    (saves : ∀ ownerId candidates, memory.saves s event ownerId candidates → allowed.saves ownerId candidates)
    (begins : ∀ id, memory.begins event id → allowed.begins id)
    (seals : allowed.Seals crypto) (step : reconcileStep crypto s memory event = some (next,memory')) :
    Writes allowed s next := by
  unfold reconcileStep at step
  split at step
  case h_1 =>
    split at step
    · obtain ⟨⟨after,work,replayed⟩,ran,same⟩ := toOption_map_some.mp step
      cases same
      exact claimOperation_writes ran
    · cases step
  case h_2 =>
    obtain ⟨⟨after,progress,candidates⟩,ran,same⟩ := toOption_map_some.mp step
    cases same
    exact selectCandidates_writes (saves _ _ ⟨rfl,rfl⟩) ran
  case h_3 =>
    obtain ⟨_,_,same⟩ := Option.map_eq_some_iff.mp step
    cases same
    exact .refl
  case h_4 =>
    split at step
    · obtain ⟨after,_,ran,same⟩ := committed_map_some.mp step
      cases same
      exact finishReconciliation_writes seals ran
    · cases step
  case h_5 =>
    unfold beginCandidate at step
    split at step
    · obtain ⟨after,_,ran,same⟩ := committed_map_some.mp step
      cases same
      exact (beginOrphanCleanup_writes ran).writes
    · rename_i ready
      obtain ⟨after,_,ran,same⟩ := committed_map_some.mp step
      cases same
      exact beginExpiredCleanup_writes (begins _ ⟨ready,rfl⟩) ran
    · cases step
      exact .refl
  case h_6 =>
    obtain ⟨_,_,same⟩ := toOption_map_some.mp step
    cases same
    exact .refl
  case h_7 =>
    split at step
    · obtain ⟨_,_,same⟩ := Option.map_eq_some_iff.mp step
      cases same
      exact .refl
    · cases step
  case h_8 =>
    obtain ⟨_,_,same⟩ := Option.map_eq_some_iff.mp step
    cases same
    exact .refl
  case h_9 =>
    obtain ⟨mark,_,step⟩ := Option.bind_eq_some_iff.mp step
    obtain ⟨after,_,ran,same⟩ := committed_map_some.mp step
    cases same
    exact (cleanupStep_writes ran).writes
  case h_10 =>
    cases step
    exact .refl
  case h_11 =>
    split at step
    · cases step
      exact .refl
    · cases step
  case h_12 =>
    obtain ⟨⟨after,item⟩,ran,same⟩ := toOption_map_some.mp step
    cases same
    exact completeItem_writes (saves _ _ ⟨rfl,rfl⟩) ran
  case h_13 =>
    obtain ⟨⟨after,item⟩,ran,same⟩ := toOption_map_some.mp step
    cases same
    exact quarantineItem_writes (saves _ _ ⟨rfl,rfl⟩) ran
  case h_14 => cases step

end Reconciliation
end EngineeringPlatform.Sandbox
