import EngineeringPlatform.SandboxTeardown
namespace EngineeringPlatform.Sandbox
open Checked Idempotency TransitionRuns SharedWorkers
variable {κ : Type} {crypto : SandboxCryptography κ} {allowed : Allowed κ} {guard : MaterializationGuard}
variable {s next : SandboxStore κ}

-- Evidence rows are only ever added.
theorem Write.evidence_grows (step : Write allowed s next) : s.evidence <+: next.evidence := by
  cases step with
  | evidence rows => exact List.prefix_append _ rows
  | _ => exact List.prefix_refl _

def evidenceLaw (κ : Type) : WriteLaw κ where
  holds _ := True
  moves s next := s.evidence <+: next.evidence
  refl _ := List.prefix_refl _
  trans _ _ _ first second := first.trans second
  keeps _ _ _ step _ _ := ⟨trivial,step.evidence_grows⟩

-- What the table takes of a list of evidence for one materialization.
structure Insertable (crypto : SandboxCryptography κ) (materializationId : Uuid) (references : List EvidenceRef)
    (s : SandboxStore κ) : Prop where
  numbered : lastSequence materializationId s + 1 + (references.length - 1) ≤ 2147483647
  storable : ∀ reference ∈ references, reference.storable = true
  fit : ∀ reference ∈ references, crypto.fits reference = true
  distinct : (storedArtifacts materializationId s ++ references.map EvidenceRef.artifact).Nodup

theorem insertEvidence_iff {evidence : List (Uuid × EvidenceRef)} :
    (∃ next, insertEvidence crypto id' evidence now s = .ok next) ↔ Insertable crypto id' (evidence.map (·.2)) s := by
  constructor
  · rintro ⟨next,ran⟩
    simp only [insertEvidence,require_bind_ok,pure_ok] at ran
    obtain ⟨numbered,storable,fit,distinct,_⟩ := ran
    refine ⟨by rwa [List.length_map],fun reference member => ?_,fun reference member => ?_,?_⟩
    · obtain ⟨entry,there,rfl⟩ := List.mem_map.mp member
      exact storable entry there
    · obtain ⟨entry,there,rfl⟩ := List.mem_map.mp member
      exact fit entry there
    · rw [List.map_map]
      exact distinct
  · rintro ⟨numbered,storable,fit,distinct⟩
    rw [List.length_map] at numbered
    rw [List.map_map] at distinct
    simp only [insertEvidence,require_bind_ok,pure_ok]
    exact ⟨_,numbered,fun entry member => storable _ (List.mem_map_of_mem member),
      fun entry member => fit _ (List.mem_map_of_mem member),distinct,rfl⟩

theorem insertEvidence_unstale :
    insertEvidence crypto id' evidence now s ≠ .error .staleRunnerGeneration := by
  have refuses : ∀ {p : Prop} [Decidable p] {error : SandboxError} {rest : Except SandboxError (SandboxStore κ)},
      error ≠ .staleRunnerGeneration → rest ≠ .error .staleRunnerGeneration →
      (require p error >>= fun _ => rest) ≠ .error .staleRunnerGeneration := by
    intro p decided error rest other later
    unfold require
    split
    · exact later
    · exact fun same => other (Except.error.inj same)
  refine refuses (by simp) (refuses (by simp) (refuses (by simp) (refuses (by simp) ?_)))
  simp [pure,Except.pure]

theorem lastSequence_grows (grown : s.evidence <+: next.evidence) (id' : Uuid) :
    lastSequence id' s ≤ lastSequence id' next := by
  obtain ⟨more,whole⟩ := grown
  have larger : ∀ (rows : List Nat) (low high : Nat), low ≤ high → rows.foldr max low ≤ rows.foldr max high := by
    intro rows low high below
    induction rows with
    | nil => exact below
    | cons row rest ih => exact max_le_max (Nat.le_refl row) ih
  unfold lastSequence
  rw [← whole,List.filter_append,List.map_append,List.foldr_append]
  exact larger _ _ _ (Nat.zero_le _)

theorem Insertable.earlier (grown : s.evidence <+: next.evidence)
    (insertable : Insertable crypto id' references next) : Insertable crypto id' references s := by
  have numbered := insertable.numbered
  have before := lastSequence_grows grown id'
  refine ⟨by omega,insertable.storable,insertable.fit,
    insertable.distinct.sublist (List.Sublist.append ?_ (List.Sublist.refl _))⟩
  exact (grown.sublist.filter _).map _

inductive CleanupOperation where
  | release
  | finalize
  deriving DecidableEq

def CleanupOperation.transition : CleanupOperation → MaterializationState
  | .release => .releasing
  | .finalize => .finalizing

def CleanupOperation.terminal : CleanupOperation → MaterializationState
  | .release => .released
  | .finalize => .finalized

-- A command the caller has claimed and not begun.
def Claimed (caller : Caller) (s : SandboxStore κ) : Prop :=
  ∃ receipt, s.receiptByScope caller.scope = some receipt ∧ s.receipt caller.commandId = some receipt ∧
    receipt.requestFingerprint = caller.fingerprint ∧ receipt.ownerId = some caller.ownerId ∧
    receipt.state = .inProgress ∧ receipt.subjectId = none

structure Current (crypto : SandboxCryptography κ) (caller : Caller) (guard : MaterializationGuard)
    (s : SandboxStore κ) : Prop where
  claimed : Claimed caller s
  ready : ∃ row, lockCurrentGuard crypto guard s = .ok row ∧ row.state = .ready

-- One attempt at the first transaction of `_cleanup`: it commits, or it is denied
-- and the denial becomes the response of the receipt.
def Answers (crypto : SandboxCryptography κ) (caller : Caller) (guard : MaterializationGuard)
    (evidence : List (Uuid × EvidenceRef)) (operation : CleanupOperation) (s : SandboxStore κ) : Prop :=
  (∃ next revision, beginLifecycle crypto caller guard evidence operation.transition operation.terminal s =
    .ok (next,revision)) ∨
  beginLifecycle crypto caller guard evidence operation.transition operation.terminal s = .error .staleRunnerGeneration ∧
    ∃ next receipt, completeLifecycleDenial crypto caller guard.materializationId .staleRunnerGeneration s =
      .ok (next,receipt)

theorem CleanupOperation.expected (operation : CleanupOperation) :
    operation.terminal ≠ .failed ∧ expectedTransition operation.terminal = some operation.transition := by
  cases operation <;> decide

theorem Claimed.row (claimed : Claimed caller s) : ∃ row, caller.operationRow s = .ok row := by
  obtain ⟨receipt,found,_,fingerprint,owner,_⟩ := claimed
  refine ⟨receipt,?_⟩
  unfold Caller.operationRow operationRow
  rw [orRaise_bind_ok]
  exact ⟨receipt,found,require_bind_ok.mpr ⟨⟨fingerprint,owner⟩,rfl⟩⟩

theorem Claimed.advances (claimed : Claimed caller s) (phase : CommandPhase)
    (subjectId : Option Uuid) (now : Time) :
    advanceCommand caller.commandId caller.ownerId phase subjectId now s =
      .ok (s.setReceipt caller.commandId fun row => row.advance now phase subjectId) := by
  obtain ⟨receipt,_,stored,_,owner,running,unbound⟩ := claimed
  have owned : ownedReceipt caller.commandId caller.ownerId s = .ok receipt := by
    unfold ownedReceipt
    rw [orRaise_bind_ok]
    exact ⟨receipt,stored,require_bind_ok.mpr ⟨⟨running,owner⟩,rfl⟩⟩
  exact bind_ok.mpr ⟨receipt,owned,require_bind_ok.mpr ⟨.inl unbound,rfl⟩⟩

theorem Claimed.elsewhere (claimed : Claimed caller s) (same : next.receipts = s.receipts) :
    Claimed caller next := by
  unfold Claimed SandboxStore.receiptByScope SandboxStore.receipt at *
  rw [same]
  exact claimed

theorem insertEvidence_receipts (ran : insertEvidence crypto id' evidence now s = .ok next) :
    next.receipts = s.receipts := by
  simp only [insertEvidence,require_bind_ok,pure_ok] at ran
  obtain ⟨_,_,_,_,rfl⟩ := ran
  rfl

-- On a current guard nothing but the evidence decides.
theorem Current.answers (current : Current crypto caller guard s) :
    Answers crypto caller guard evidence operation s ↔ Insertable crypto guard.materializationId (evidence.map (·.2)) s := by
  obtain ⟨owned,operated⟩ := current.claimed.row
  obtain ⟨row,locked,ready⟩ := current.ready
  have inserts : (∃ next, insertEvidence crypto guard.materializationId evidence caller.now s = .ok next) ↔
      Insertable crypto guard.materializationId (evidence.map (·.2)) s := insertEvidence_iff
  rw [←inserts]
  have begins : beginLifecycle crypto caller guard evidence operation.transition operation.terminal s =
      (do
        let inserted ← insertEvidence crypto guard.materializationId evidence caller.now s
        let next ← advanceCommand caller.commandId caller.ownerId .cleanupStarted (some guard.materializationId)
          caller.now (inserted.setMaterialization guard.materializationId fun row =>
            row.beginCleanup caller.now operation.transition operation.terminal none)
        pure (next,row.revision + 1)) := by
    unfold beginLifecycle beginCleanup
    simp only [operated,locked,require,if_pos operation.expected,bind,Except.bind,if_pos ready]
    cases insertEvidence crypto guard.materializationId evidence caller.now s <;> rfl
  unfold Answers
  rw [begins]
  have through : ∀ inserted, insertEvidence crypto guard.materializationId evidence caller.now s = .ok inserted →
      ∃ next, advanceCommand caller.commandId caller.ownerId .cleanupStarted (some guard.materializationId) caller.now
        (inserted.setMaterialization guard.materializationId fun row =>
          row.beginCleanup caller.now operation.transition operation.terminal none) = .ok next := by
    intro inserted stored
    have claimed : Claimed caller (inserted.setMaterialization guard.materializationId fun row =>
        row.beginCleanup caller.now operation.transition operation.terminal none) :=
      current.claimed.elsewhere (insertEvidence_receipts stored :)
    exact ⟨_,claimed.advances _ _ _⟩
  constructor
  · rintro (⟨next,revision,ran⟩ | ⟨refused,_⟩)
    · obtain ⟨inserted,stored,_⟩ := bind_ok.mp ran
      exact ⟨inserted,stored⟩
    · cases stored : insertEvidence crypto guard.materializationId evidence caller.now s with
      | ok inserted => exact ⟨inserted,rfl⟩
      | error error =>
        rw [stored] at refused
        cases refused
        exact absurd stored insertEvidence_unstale
  · rintro ⟨inserted,stored⟩
    obtain ⟨next,advanced⟩ := through inserted stored
    exact .inl ⟨next,_,bind_ok.mpr ⟨inserted,stored,bind_ok.mpr ⟨next,advanced,rfl⟩⟩⟩

-- A cancellation of a READY materialization submits no evidence.
theorem cancel_answers (valid : CapacityValid s) (claimed : Claimed caller s)
    (chosen : executionMaterialization executionId s = some row) (ready : row.state = .ready) :
    ∃ begun, beginCancel caller executionId row.environmentId reason s = .ok begun := by
  obtain ⟨owned,operated⟩ := claimed.row
  have found : s.materialization row.id = some row :=
    KeyedRows.find_of_mem valid.rows (executionMaterialization_some chosen).1
  obtain ⟨lease,leased,_⟩ := valid.leased row.id row found
  have begun : Claimed caller (s.setMaterialization row.id fun row =>
      row.beginCleanup caller.now .canceling (cancelTerminal reason) (some reason)) := claimed.elsewhere rfl
  have rewritten := (setMaterialization_view s (fun row => row.beginCleanup caller.now .canceling
    (cancelTerminal reason) (some reason)) (fun _ => rfl) row.id row.id).trans (if_pos rfl)
  rw [found] at rewritten
  obtain ⟨next,advanced⟩ : ∃ next, next = (s.setMaterialization row.id fun row => row.beginCleanup caller.now
      .canceling (cancelTerminal reason) (some reason)).setReceipt caller.commandId fun receipt =>
        receipt.advance caller.now .cleanupStarted (some row.id) := ⟨_,rfl⟩
  have read : ∃ record, cleanupRecord row.id next = .ok record := by
    subst advanced
    exact ⟨_,orRaise_bind_ok.mpr ⟨_,rewritten,orRaise_bind_ok.mpr ⟨lease,leased,rfl⟩⟩⟩
  obtain ⟨record,read⟩ := read
  refine ⟨(next,record),bind_ok.mpr ⟨owned,operated,?_⟩⟩
  unfold beginCancelCleanup
  rw [orRaise_bind_ok]
  refine ⟨row,chosen,require_bind_ok.mpr ⟨rfl,require_bind_ok.mpr ⟨.inl ready,?_⟩⟩⟩
  rw [if_pos ready]
  refine bind_ok.mpr ⟨next,?_,bind_ok.mpr ⟨record,read,rfl⟩⟩
  rw [advanced]
  exact begun.advances .cleanupStarted (some row.id) caller.now

-- What a caller may expect of a cleanup of a READY materialization: its attempt
-- answers, and so does some attempt while its guard is current.
structure CanFinish (crypto : SandboxCryptography κ) (caller : Caller) (guard : MaterializationGuard)
    (references : List EvidenceRef) (operation : CleanupOperation) (s : SandboxSystem κ) : Prop where
  now : ∀ evidence, evidence.map (·.2) = references → Answers crypto caller guard evidence operation s.store
  retried : ∃ more t retry evidence, Runs (Enabled (sandboxProgram crypto).advance) s more t ∧
    Current crypto retry guard t.store ∧ evidence.map (·.2) = references ∧
    Answers crypto retry guard evidence operation t.store

-- Evidence the table refuses is refused at every attempt, for as long as the
-- guard is current.
theorem cleanup_can_finish {s : SandboxSystem κ} {references : List EvidenceRef}
    (reached : Runs (Enabled (sandboxProgram crypto).advance) sandboxInitial labels s)
    (current : Current crypto caller guard s.store) (operation : CleanupOperation) :
    (CanFinish crypto caller guard references operation s ↔ Insertable crypto guard.materializationId references s.store) ∧
    ((∃ more t retry evidence, Runs (Enabled (sandboxProgram crypto).advance) s more t ∧
      Current crypto retry guard t.store ∧ evidence.map (·.2) = references ∧
      Answers crypto retry guard evidence operation t.store) → Insertable crypto guard.materializationId references s.store) ∧
    ∀ executionId row reason, executionMaterialization executionId s.store = some row → row.state = .ready →
      ∃ begun, beginCancel caller executionId row.environmentId reason s.store = .ok begun := by
  have later : (∃ more t retry evidence, Runs (Enabled (sandboxProgram crypto).advance) s more t ∧
      Current crypto retry guard t.store ∧ evidence.map (·.2) = references ∧
      Answers crypto retry guard evidence operation t.store) →
      Insertable crypto guard.materializationId references s.store := by
    rintro ⟨more,t,retry,evidence,continued,still,rfl,answers⟩
    exact (still.answers.mp answers).earlier ((evidenceLaw κ).continued trivial reached continued)
  refine ⟨⟨fun can => later can.retried,fun insertable => ?_⟩,later,?_⟩
  · have now : ∀ evidence : List (Uuid × EvidenceRef), evidence.map (·.2) = references →
        Answers crypto caller guard evidence operation s.store := by
      rintro evidence rfl
      exact current.answers.mpr insertable
    have some : (references.map fun reference => ((0 : Uuid),reference)).map (·.2) = references := by
      simp
    exact ⟨now,[],s,caller,_,.nil,current,some,now _ some⟩
  · intro executionId row reason chosen ready
    exact cancel_answers ((evidenceLaw κ).reached trivial reached).1 current.claimed chosen ready

def sampleEvidence : EvidenceRef :=
  ⟨.log,"run.log","1","sha256:0000000000000000000000000000000000000000000000000000000000000000","internal"⟩

def sampleClaim : List SandboxLabel := [.transact (.claimOperation sampleFinalizeScope "finalize" ⟨5,22,23⟩ none)]

def sampleClaimed : SandboxSystem SampleSealed :=
  (execute sampleProgram.advance sandboxInitial ([sampleProvision 500 21 1,sampleReady 21 2] ++ sampleClaim)).get
    (by decide)

def sampleGuard : MaterializationGuard := ⟨10,11,1,"token",2⟩

theorem sampleClaimed_current : Current sampleCryptography (sampleFinalizer 6) sampleGuard sampleClaimed.store :=
  ⟨⟨_,rfl,rfl,rfl,rfl,rfl,rfl⟩,⟨_,rfl,rfl⟩⟩

theorem cleanup_can_finish_once :
    CanFinish sampleCryptography (sampleFinalizer 6) sampleGuard [sampleEvidence] .finalize sampleClaimed :=
  (cleanup_can_finish (execute_get (by decide)) sampleClaimed_current .finalize).1.mpr ⟨by decide,by decide,by decide,by decide⟩

theorem duplicate_evidence_stuck :
    ¬∀ (caller : Caller) (guard : MaterializationGuard) (references : List EvidenceRef) (operation : CleanupOperation)
      (labels : List SandboxLabel) (s : SandboxSystem SampleSealed),
      Runs (Enabled sampleProgram.advance) sandboxInitial labels s → Current sampleCryptography caller guard s.store →
        CanFinish sampleCryptography caller guard references operation s := by
  intro claimed
  have reached : Runs (Enabled sampleProgram.advance) sandboxInitial
      ([sampleProvision 500 21 1,sampleReady 21 2] ++ sampleClaim) sampleClaimed := execute_get (by decide)
  have can := claimed _ _ [sampleEvidence,sampleEvidence] .finalize _ _ reached sampleClaimed_current
  have answers := can.now [(24,sampleEvidence),(25,sampleEvidence)] rfl
  rw [sampleClaimed_current.answers] at answers
  exact absurd answers.distinct (by decide)

end EngineeringPlatform.Sandbox
