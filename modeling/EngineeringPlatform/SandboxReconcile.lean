import EngineeringPlatform.SandboxController
namespace EngineeringPlatform.Sandbox
open Checked Idempotency SharedWorkers
variable {κ : Type}

structure ReconcileLeaseCommand where
  actor : String
  idempotencyKey : String
  correlationId : String
  body : ReconcileBody
  deriving DecidableEq

def reconcileOperation : String := "sandbox.reconcile_lease"

def ReconcileLeaseCommand.scope (command : ReconcileLeaseCommand) : Scope :=
  ⟨command.actor,reconcileOperation,command.idempotencyKey⟩

def OwnedCommand.caller (work : OwnedCommand κ) (now : Time) : Caller :=
  ⟨work.scope,work.fingerprint,work.commandId,work.ownerId,now⟩

-- `_restore_guard`: the token comes back from the recovery capsule, the expected
-- revision from the record as it was read.
def restoreGuard (crypto : SandboxCryptography κ) (current : CleanupRecord) (s : SandboxStore κ) :
    Except SandboxError MaterializationGuard := do
  let (reservation,capsule) ← provisionRecovery current.materializationId s
  require (reservation.materializationId = current.materializationId ∧
    reservation.environmentId = current.environmentId ∧ reservation.executionId = current.executionId ∧
    reservation.leaseId = current.leaseId ∧ reservation.generation = current.generation)
    (.idempotencyReplayUnavailable "provision recovery is unavailable")
  let token ← unsealRecovery crypto reservation capsule
  pure ⟨current.materializationId,current.leaseId,current.generation,token,current.revision⟩

-- A first attempt selects the candidates and saves them with the command; a
-- retry reads the saved ones again.
def selectCandidates (command : ReconcileLeaseCommand) (work : OwnedCommand κ) (now : Time)
    (s : SandboxStore κ) : Except SandboxError (SandboxStore κ × ReconcileProgress × List CleanupRecord) := do
  let _ ← (work.caller now).operationRow s
  match work.progress with
  | none => do
    let candidates := cleanupCandidates command.body.environmentId command.body.executionId
      command.body.observedAt s
    let progress := ⟨candidates.map CleanupRecord.materializationId,[]⟩
    let s ← saveCommandProgress work.commandId work.ownerId progress now s
    pure (s,progress,candidates)
  | some progress => do
    let candidates ← progress.candidates.mapM fun id => cleanupRecord id s
    pure (s,progress,candidates)

def beginOrphanCleanup (work : OwnedCommand κ) (materializationId : Uuid) (now : Time) (s : SandboxStore κ) :
    Except SandboxError (SandboxStore κ × CleanupRecord) := do
  let _ ← (work.caller now).operationRow s
  beginProvisionCleanup materializationId .resourceExhausted "orphaned_provisioning" now s

def beginExpiredCleanup (crypto : SandboxCryptography κ) (work : OwnedCommand κ)
    (guard : MaterializationGuard) (now : Time) (s : SandboxStore κ) :
    Except SandboxError (SandboxStore κ × Nat) := do
  let _ ← (work.caller now).operationRow s
  beginCleanup crypto guard [] .canceling .timedOut (some .timedOut) now s

def ReconcileProgress.add (progress : ReconcileProgress) (item : LeaseReconciliationItem) :
    ReconcileProgress :=
  {progress with items := progress.items ++ [item]}

def completeItem (work : OwnedCommand κ) (progress : ReconcileProgress) (current : CleanupRecord)
    (terminal : MaterializationState) (now : Time) (s : SandboxStore κ) :
    Except SandboxError (SandboxStore κ × LeaseReconciliationItem) := do
  let _ ← (work.caller now).operationRow s
  let s ← ensureCompleted current.materializationId current.state current.revision terminal now s
  let revision := if current.state ≠ terminal then current.revision + 1 else current.revision
  let item := ⟨current.materializationId,terminal,revision,.cleanupCompleted⟩
  let s ← saveCommandProgress work.commandId work.ownerId (progress.add item) now s
  pure (s,item)

def quarantineItem (work : OwnedCommand κ) (progress : ReconcileProgress) (materializationId : Uuid)
    (now : Time) (s : SandboxStore κ) : Except SandboxError (SandboxStore κ × LeaseReconciliationItem) := do
  let _ ← (work.caller now).operationRow s
  let failed ← cleanupRecord materializationId s
  let s ← quarantineCleanup materializationId failed.revision .resourceExhausted "runtime_cleanup" now s
  let item := ⟨materializationId,.quarantined,failed.revision + 1,.quarantined⟩
  let s ← saveCommandProgress work.commandId work.ownerId (progress.add item) now s
  pure (s,item)

def finishReconciliation (crypto : SandboxCryptography κ) (command : ReconcileLeaseCommand)
    (work : OwnedCommand κ) (items : List LeaseReconciliationItem) (scanned reconciled : Nat) (now : Time)
    (s : SandboxStore κ) : Except SandboxError (SandboxStore κ × ReconciliationReceipt) := do
  let s := if (s.environment command.body.environmentId).isSome then
      s.addReconciliation ⟨work.commandId,command.body.environmentId,command.body.executionId,command.actor,
        command.correlationId,command.body.observedAt,scanned,reconciled,now⟩
    else s
  let row ← (work.caller now).operationRow s
  let receipt := ⟨command.body.environmentId,command.body.observedAt,items,reconciled⟩
  let s ← completeResponse crypto row work.ownerId 200 (.reconciliation receipt) now s
  pure (s,receipt)

-- One run of the loop over the candidates, between two database calls.
structure ReconcileFrame (κ : Type) where
  command : ReconcileLeaseCommand
  work : OwnedCommand κ
  progress : ReconcileProgress
  remaining : List CleanupRecord
  scanned : Nat
  items : List LeaseReconciliationItem
  reconciledCount : Nat
  deriving DecidableEq

inductive ReconcileWorker (κ : Type) where
  | idle
  | claimed (command : ReconcileLeaseCommand) (work : OwnedCommand κ)
  | scanning (frame : ReconcileFrame κ)
  | guarded (frame : ReconcileFrame κ) (candidate : CleanupRecord) (guard : MaterializationGuard)
  | begun (frame : ReconcileFrame κ) (candidate : CleanupRecord)
  | entering (frame : ReconcileFrame κ) (candidate : CleanupRecord)
  | cleaning (frame : ReconcileFrame κ) (candidate : CleanupRecord) (terminal : MaterializationState)
      (current : Option CleanupRecord)
  | cleaned (frame : ReconcileFrame κ) (current : CleanupRecord) (terminal : MaterializationState)
  | failing (frame : ReconcileFrame κ) (candidate : CleanupRecord)
  deriving DecidableEq

-- `observe` is a read of the cleanup record, `runtimeFails` any runtime call that
-- raises or reports UNKNOWN, `destroyed` the last runtime call.
inductive ReconcileEvent where
  | claim (command : ReconcileLeaseCommand) (env : ClaimEnvironment)
  | select (now : Time)
  | next
  | begin (now : Time)
  | restore
  | enter
  | observe
  | mark (now : Time)
  | runtimeFails
  | destroyed
  | complete (now : Time)
  | quarantine (now : Time)
  | finish (now : Time)

def CleanupRecord.nextMark (current : CleanupRecord) : Option CleanupMark :=
  if current.evidencePersisted = false then some .evidencePersisted
  else if current.fenced = false then some .fenced
  else if current.secretRevoked = false then some .secretRevoked
  else if current.leaseReleased = false then some .capacityReleased
  else none

def ReconcileFrame.record (frame : ReconcileFrame κ) (item : LeaseReconciliationItem) (counted : Nat) :
    ReconcileFrame κ :=
  {frame with items := frame.items ++ [item], reconciledCount := frame.reconciledCount + counted}

def completedItem (progress : ReconcileProgress) (materializationId : Uuid) : Option LeaseReconciliationItem :=
  progress.items.find? fun item => item.materializationId = materializationId

def LeaseReconciliationItem.counted (item : LeaseReconciliationItem) : Nat :=
  if item.action = .cleanupCompleted then 1 else 0

def nextCandidate (crypto : SandboxCryptography κ) (frame : ReconcileFrame κ) (s : SandboxStore κ) :
    Option (ReconcileWorker κ) :=
  match frame.remaining with
  | [] => none
  | candidate :: rest =>
    match completedItem frame.progress candidate.materializationId with
    | some item =>
      some (.scanning ({frame with remaining := rest}.record item item.counted))
    | none => (restoreGuard crypto candidate s).toOption.map fun guard =>
      .guarded {frame with remaining := rest} candidate guard

def beginCandidate (crypto : SandboxCryptography κ) (frame : ReconcileFrame κ) (candidate : CleanupRecord)
    (guard : MaterializationGuard) (now : Time) (s : SandboxStore κ) :
    Option (SandboxStore κ × ReconcileWorker κ) :=
  match candidate.state with
  | .provisioning =>
    (committed (beginOrphanCleanup frame.work candidate.materializationId now s)).map fun s =>
      (s,.begun frame candidate)
  | .ready =>
    (committed (beginExpiredCleanup crypto frame.work guard now s)).map fun s => (s,.begun frame candidate)
  | _ => some (s,.entering frame candidate)

def observeCandidate (frame : ReconcileFrame κ) (candidate : CleanupRecord) (terminal : MaterializationState)
    (s : SandboxStore κ) : Option (ReconcileWorker κ) :=
  (cleanupRecord candidate.materializationId s).toOption.map fun current =>
    if current.destroyed = true ∧ current.state.active = false then .cleaned frame current terminal
    else .cleaning frame candidate terminal (some current)

-- A transaction that raises ends the command for its caller, which is a crash.
def reconcileStep (crypto : SandboxCryptography κ) (s : SandboxStore κ) :
    ReconcileWorker κ → ReconcileEvent → Option (SandboxStore κ × ReconcileWorker κ)
  | .idle,.claim command env =>
    if command.body.observedAt ≤ env.now then
      (claimOperation crypto command.scope (crypto.reconcileFingerprint command.body) env none s).toOption.map
        fun (s,work,replayed) => (s,if replayed.isSome then .idle else .claimed command work)
    else none
  | .claimed command work,.select now =>
    (selectCandidates command work now s).toOption.map fun (s,progress,candidates) =>
      (s,.scanning ⟨command,work,progress,candidates,candidates.length,[],0⟩)
  | .scanning frame,.next => (nextCandidate crypto frame s).map fun memory => (s,memory)
  | .scanning frame,.finish now =>
    if frame.remaining = [] then
      (committed (finishReconciliation crypto frame.command frame.work frame.items frame.scanned
        frame.reconciledCount now s)).map fun s => (s,.idle)
    else none
  | .guarded frame candidate guard,.begin now => beginCandidate crypto frame candidate guard now s
  | .begun frame candidate,.restore =>
    (do let current ← cleanupRecord candidate.materializationId s
        restoreGuard crypto current s).toOption.map fun _ => (s,.entering frame candidate)
  | .entering frame candidate,.enter =>
    match cleanupRecord candidate.materializationId s with
    | .ok current => current.cleanupTerminalState.map fun terminal =>
        (s,.cleaning frame candidate terminal none)
    | .error _ => none
  | .cleaning frame candidate terminal none,.observe =>
    (observeCandidate frame candidate terminal s).map fun memory => (s,memory)
  | .cleaning frame candidate terminal (some current),.mark now =>
    current.nextMark.bind fun mark =>
      (committed (cleanupStep (frame.work.caller now) mark candidate.materializationId current.revision
        s)).map fun s => (s,.cleaning frame candidate terminal none)
  | .cleaning frame candidate _ (some _),.runtimeFails => some (s,.failing frame candidate)
  | .cleaning frame _ terminal (some current),.destroyed =>
    if current.nextMark = none then some (s,.cleaned frame current terminal) else none
  | .cleaned frame current terminal,.complete now =>
    (completeItem frame.work frame.progress current terminal now s).toOption.map fun (s,item) =>
      (s,.scanning ({frame with progress := frame.progress.add item}.record item 1))
  | .failing frame candidate,.quarantine now =>
    (quarantineItem frame.work frame.progress candidate.materializationId now s).toOption.map
      fun (s,item) => (s,.scanning ({frame with progress := frame.progress.add item}.record item 0))
  | _,_ => none

-- The committed transactions of every other controller operation, each with
-- whatever its caller read before.
inductive SandboxTransaction where
  | claimProvision (env : ProvisionEnvironment) (command : ProvisionCommand)
  | completeReady (caller : Caller) (reservation : ReservationRecord) (token protocolVersion : String)
  | failProvision (caller : Caller) (materializationId : Uuid) (code : DenialCode) (dimension : String)
  | completeFailed (caller : Caller) (binding : ExecutionBindingProjection) (current : CleanupRecord)
      (denial : CanonicalDenial)
  | claimOperation (scope : Scope) (fingerprint : String) (env : ClaimEnvironment)
      (authorized : Option (Uuid → Bool))
  | beginLifecycle (caller : Caller) (guard : MaterializationGuard) (evidence : List (Uuid × EvidenceRef))
      (transition terminal : MaterializationState)
  | cleanupStep (caller : Caller) (mark : CleanupMark) (materializationId : Uuid) (expectedRevision : Nat)
  | completeLifecycle (caller : Caller) (materializationId : Uuid) (expectedRevision : Nat)
      (terminal : MaterializationState)
  | quarantineLifecycle (caller : Caller) (materializationId : Uuid)
  | completeLifecycleDenial (caller : Caller) (materializationId : Uuid) (error : SandboxError)
  | beginCancel (caller : Caller) (executionId : String) (authorizedEnvironmentId : Uuid)
      (reason : CancellationReason)
  | auditCancelDenial (caller : Caller) (auditId : Uuid) (executionId : String) (error : SandboxError)
  | checkHandoff (caller : Caller) (guard : MaterializationGuard)
  | completeAlreadyTerminal (caller : Caller) (materializationId : Uuid)
  | beginPreview (caller : Caller) (guard : MaterializationGuard) (metadata : EvidenceRef) (expiresAt : Time)
  | completePreview (caller : Caller) (evidenceId : Uuid) (metadata : EvidenceRef)
      (previewId accessRef : String) (expiresAt : Time)
  | completePreviewDenial (caller : Caller) (materializationId : Uuid) (error : SandboxError)

def commitSandbox (crypto : SandboxCryptography κ) (s : SandboxStore κ) :
    SandboxTransaction → Option (SandboxStore κ)
  | .claimProvision env command => committed (claimProvision crypto env command s)
  | .completeReady caller reservation token protocolVersion =>
    committed (completeReady crypto caller reservation token protocolVersion s)
  | .failProvision caller id code dimension => committed (failProvision caller id code dimension s)
  | .completeFailed caller binding current denial =>
    committed (completeFailed crypto caller binding current denial s)
  | .claimOperation scope fingerprint env authorized =>
    committed (claimOperation crypto scope fingerprint env authorized s)
  | .beginLifecycle caller guard evidence transition terminal =>
    committed (beginLifecycle crypto caller guard evidence transition terminal s)
  | .cleanupStep caller mark id revision => committed (cleanupStep caller mark id revision s)
  | .completeLifecycle caller id revision terminal =>
    committed (completeLifecycle crypto caller id revision terminal s)
  | .quarantineLifecycle caller id => committed (quarantineLifecycle caller id s)
  | .completeLifecycleDenial caller id error => committed (completeLifecycleDenial crypto caller id error s)
  | .beginCancel caller executionId environmentId reason =>
    committed (beginCancel caller executionId environmentId reason s)
  | .auditCancelDenial caller auditId executionId error =>
    committed (auditCancelDenial caller auditId executionId error s)
  | .checkHandoff _ guard => committed (checkHandoff crypto guard s)
  | .completeAlreadyTerminal caller id => committed (completeAlreadyTerminal crypto caller id s)
  | .beginPreview caller guard metadata expiresAt =>
    committed (beginPreview crypto caller guard metadata expiresAt s)
  | .completePreview caller evidenceId metadata previewId accessRef expiresAt =>
    committed (completePreview crypto caller evidenceId metadata previewId accessRef expiresAt s)
  | .completePreviewDenial caller id error => committed (completePreviewDenial crypto caller id error s)

abbrev SandboxLabel := Label SandboxTransaction ReconcileEvent
abbrev SandboxSystem (κ : Type) := System (SandboxStore κ) (ReconcileWorker κ)

def sandboxProgram (crypto : SandboxCryptography κ) :
    Program (SandboxStore κ) (ReconcileWorker κ) SandboxTransaction ReconcileEvent :=
  ⟨.idle,commitSandbox crypto,reconcileStep crypto⟩

def sandboxInitial : SandboxSystem κ := ⟨.initial,fun _ => .idle⟩

end EngineeringPlatform.Sandbox
