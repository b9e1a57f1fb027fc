import EngineeringPlatform.SandboxProgress
namespace EngineeringPlatform.Sandbox
open Checked Idempotency TransitionRuns SharedWorkers
variable {κ : Type} {crypto : SandboxCryptography κ} {allowed : Allowed κ}
variable {s next : SandboxStore κ} {memory : ReconcileWorker κ} {owner : Uuid} {frame : ReconcileFrame κ}

theorem candidate_read (valid : CapacityValid s)
    (member : candidate ∈ cleanupCandidates environmentId executionId observedAt s) :
    ∃ row lease, s.materialization candidate.materializationId = some row ∧
      s.lease candidate.materializationId = some lease ∧ candidate = cleanupRecordOf row lease ∧
      cleanupDue observedAt row lease s = true := by
  obtain ⟨row,stored,read⟩ := List.mem_filterMap.mp ((List.mem_insertionSort _).mp member)
  unfold candidateOf at read
  split at read
  · cases read
  · rename_i lease leased
    split at read
    · rename_i due
      cases Option.some.inj read
      exact ⟨row,lease,KeyedRows.find_of_mem valid.rows stored,leased,rfl,due.2.2⟩
    · cases read

theorem candidate_ready_due (valid : CapacityValid s)
    (member : candidate ∈ cleanupCandidates environmentId executionId observedAt s) :
    ReadyDue observedAt candidate.materializationId s := by
  obtain ⟨row,lease,found,leased,_,due⟩ := candidate_read valid member
  intro other stored ready
  cases found.symm.trans stored
  refine ⟨row,lease,found,leased,?_⟩
  simpa [cleanupDue,ready,MaterializationState.cleaning] using due

theorem record_ready_due (read : cleanupRecord id' s = .ok record)
    (due : ReadyDue observedAt id' s) :
    record.state = .ready → Due observedAt record.materializationId s := by
  obtain ⟨row,lease,found,leased,rfl⟩ := cleanupRecord_ok read
  obtain ⟨_,rfl⟩ := KeyedRows.find_some found
  exact due row found

structure FrameHolds (s : SandboxStore κ) (frame : ReconcileFrame κ) : Prop where
  owns : Owns s frame.work (some frame.progress.candidates)
  remaining : ∀ candidate ∈ frame.remaining, candidate.state = .ready →
    Due frame.command.body.observedAt candidate.materializationId s

namespace ReconcileWorker

def command : ReconcileWorker κ → Option ReconcileLeaseCommand
  | .idle => none
  | .claimed command _ => some command
  | .scanning frame | .guarded frame _ _ | .begun frame _ | .entering frame _ | .cleaning frame _ _ _
  | .cleaned frame _ _ | .failing frame _ => some frame.command

def observedAt (memory : ReconcileWorker κ) : Option Time :=
  memory.command.map fun command => command.body.observedAt

def ownerId : ReconcileWorker κ → Option Uuid
  | .idle => none
  | .claimed _ work => some work.ownerId
  | .scanning frame | .guarded frame _ _ | .begun frame _ | .entering frame _ | .cleaning frame _ _ _
  | .cleaned frame _ _ | .failing frame _ => some frame.work.ownerId

-- What a worker knows between two transactions.
def Holds (crypto : SandboxCryptography κ) (s : SandboxStore κ) : ReconcileWorker κ → Prop
  | .idle => True
  | .claimed command work => work.fingerprint = crypto.reconcileFingerprint command.body ∧
      Owns s work (work.progress.map ReconcileProgress.candidates)
  | .scanning frame => FrameHolds s frame
  | .guarded frame candidate guard => FrameHolds s frame ∧
      guard.materializationId = candidate.materializationId ∧
      (candidate.state = .ready → Due frame.command.body.observedAt candidate.materializationId s)
  | .begun frame _ | .entering frame _ | .cleaning frame _ _ _ | .cleaned frame _ _ | .failing frame _ =>
    FrameHolds s frame

theorem Holds.issued (holds : memory.Holds crypto s) (held : memory.ownerId = some owner) : owner ∈ s.ownerIds := by
  cases memory <;> cases held
  case claimed => exact holds.2.issued
  case guarded => exact holds.1.owns.issued
  all_goals exact holds.owns.issued

end ReconcileWorker

theorem FrameHolds.kept (holds : FrameHolds s frame)
    (path : Writes allowed s next) (unique : KeyedRows.Unique CommandReceipt.id s.receipts)
    (same : ∀ others, allowed.saves frame.work.ownerId others → others = frame.progress.candidates) :
    FrameHolds next frame :=
  ⟨path.owns unique holds.owns fun others saved => congrArg some (same others saved),
    fun candidate member ready => Writes.due path (holds.remaining candidate member ready)⟩

-- Nobody else's writes take away what a worker holds.
theorem ReconcileWorker.Holds.kept (holds : memory.Holds crypto s) (path : Writes allowed s next)
    (unique : KeyedRows.Unique CommandReceipt.id s.receipts)
    (others : ∀ ownerId, memory.ownerId = some ownerId → ∀ candidates, ¬allowed.saves ownerId candidates) :
    memory.Holds crypto next := by
  cases memory
  case idle => trivial
  case claimed command work =>
    exact ⟨holds.1,path.owns unique holds.2 fun candidates saved => absurd saved (others _ rfl candidates)⟩
  case guarded frame candidate guard =>
    exact ⟨holds.1.kept path unique fun candidates saved => absurd saved (others _ rfl candidates),holds.2.1,
      fun ready => Writes.due path (holds.2.2 ready)⟩
  all_goals
    exact FrameHolds.kept holds path unique fun candidates saved => absurd saved (others _ rfl candidates)

theorem ReconcileWorker.saves_owner
    (saved : memory.saves s event owner candidates) : memory.ownerId = some owner := by
  unfold ReconcileWorker.saves at saved
  split at saved
  case h_4 => cases saved
  all_goals exact congrArg some saved.1.symm

theorem FrameHolds.savable (holds : FrameHolds s frame)
    (valid : ReconcileValid crypto s) : Savable crypto frame.work.ownerId frame.progress.candidates s := by
  refine ⟨holds.owns.issued,fun receipt stored owner body same id listed => ?_⟩
  obtain ⟨_,_,progress⟩ := holds.owns.receipt receipt stored owner
  have running := valid.running receipt stored (by rw [owner]; exact Option.some_ne_none _)
  refine valid.pending receipt stored running body same id ?_
  unfold CommandReceipt.candidates
  rw [progress]
  exact listed

-- The candidates a step saves are due at the observation time of its command.
theorem ReconcileWorker.Holds.savable
    (collisionFree : Function.Injective crypto.reconcileFingerprint) (holds : memory.Holds crypto s)
    (valid : ReconcileValid crypto s) (saved : memory.saves s event owner candidates) :
    Savable crypto owner candidates s := by
  unfold ReconcileWorker.saves at saved
  split at saved
  case h_1 command work now =>
    obtain ⟨rfl,rfl⟩ := saved
    refine ⟨holds.2.issued,fun receipt stored held body same id listed => ?_⟩
    obtain ⟨_,fingerprint,_⟩ := holds.2.receipt receipt stored held
    obtain rfl := collisionFree (same.trans (fingerprint.trans holds.1))
    obtain ⟨candidate,member,rfl⟩ := List.mem_map.mp listed
    exact candidate_ready_due valid.capacity member
  case h_2 =>
    obtain ⟨rfl,rfl⟩ := saved
    exact FrameHolds.savable holds valid
  case h_3 =>
    obtain ⟨rfl,rfl⟩ := saved
    exact FrameHolds.savable holds valid
  case h_4 => cases saved

theorem saveCommandProgress_owns
    (unique : KeyedRows.Unique CommandReceipt.id s.receipts) (owns : Owns s work candidates)
    (ran : saveCommandProgress work.commandId work.ownerId progress now s = .ok next) :
    Owns next work (some progress.candidates) := by
  obtain ⟨row,owned,ran⟩ := bind_ok.mp ran
  cases pure_ok.mp ran
  obtain ⟨found,_,held⟩ := ownedReceipt_ok owned
  refine ⟨owns.issued,fun receipt member owner => ?_⟩
  rcases KeyedRows.mem_update unique found member with ⟨old,differs⟩ | rfl
  · exact absurd (owns.receipt receipt old owner).1 differs
  · obtain ⟨identity,fingerprint,_⟩ := owns.receipt row (KeyedRows.find_some found).1 held
    exact ⟨identity,fingerprint,rfl⟩

-- A selection snapshots only what is due: its own query filters for it, and saved
-- candidates are read again under `pending`.
theorem selectCandidates_holds {command : ReconcileLeaseCommand}
    {work : OwnedCommand κ} (valid : ReconcileValid crypto s)
    (holds : (ReconcileWorker.claimed command work).Holds crypto s)
    (ran : selectCandidates command work now s = .ok (next,progress,candidates)) :
    FrameHolds next ⟨command,work,progress,candidates,candidates.length,[],0⟩ := by
  obtain ⟨row,operation,ran⟩ := bind_ok.mp ran
  cases saved : work.progress with
  | none =>
    rw [saved] at ran
    obtain ⟨after,save,ran⟩ := bind_ok.mp ran
    cases pure_ok.mp ran
    have path : Writes ⟨fun _ _ => True,fun _ => False,fun _ => False,fun _ _ => True⟩ s next :=
      (saveCommandProgress_writes trivial save).writes
    refine ⟨saveCommandProgress_owns valid.receipts holds.2 save,fun candidate member ready => ?_⟩
    obtain ⟨row,lease,found,_,same,_⟩ := candidate_read valid.capacity member
    refine path.due (candidate_ready_due valid.capacity member row found ?_)
    rw [same] at ready
    exact ready
  | some earlier =>
    rw [saved] at ran
    obtain ⟨read,reads,ran⟩ := bind_ok.mp ran
    cases pure_ok.mp ran
    obtain ⟨found,_,owner⟩ := operationRow_ok operation
    have stored := (KeyedRows.find_some found).1
    have owns := holds.2
    rw [saved] at owns
    obtain ⟨_,fingerprint,progress⟩ := owns.receipt row stored owner
    refine ⟨owns,fun candidate member => ?_⟩
    obtain ⟨id,listed,at_id⟩ := mapM_ok reads candidate member
    refine record_ready_due at_id (valid.pending row stored
      (valid.running row stored (by rw [owner]; exact Option.some_ne_none _)) command.body
      (holds.1.symm.trans fingerprint.symm) id ?_)
    unfold CommandReceipt.candidates
    rw [progress]
    exact listed

theorem restoreGuard_ok (ran : restoreGuard crypto current s = .ok guard') :
    guard'.materializationId = current.materializationId := by
  obtain ⟨⟨reservation,capsule⟩,_,ran⟩ := bind_ok.mp ran
  obtain ⟨_,ran⟩ := require_bind_ok.mp ran
  obtain ⟨token,_,ran⟩ := bind_ok.mp ran
  cases pure_ok.mp ran
  rfl

theorem nextCandidate_holds (holds : FrameHolds s frame)
    (moved : nextCandidate crypto frame s = some memory) : memory.Holds crypto s := by
  unfold nextCandidate at moved
  split at moved
  · cases moved
  · rename_i candidate rest shape
    have listed : candidate ∈ frame.remaining := shape ▸ List.mem_cons_self
    have later (other : CleanupRecord) (member : other ∈ rest) : other ∈ frame.remaining :=
      shape ▸ List.mem_cons_of_mem _ member
    split at moved
    · cases moved
      exact ⟨holds.owns,fun other member => holds.remaining other (later other member)⟩
    · obtain ⟨guard',restored,rfl⟩ := toOption_map_some.mp moved
      exact ⟨⟨holds.owns,fun other member => holds.remaining other (later other member)⟩,
        restoreGuard_ok restored,holds.remaining candidate listed⟩

theorem beginCandidate_frame (begun : beginCandidate crypto frame candidate guard' now s = some (next,memory)) :
    memory = .begun frame candidate ∨ memory = .entering frame candidate := by
  unfold beginCandidate at begun
  split at begun
  · obtain ⟨after,_,_,same⟩ := committed_map_some.mp begun
    cases same
    exact .inl rfl
  · obtain ⟨after,_,_,same⟩ := committed_map_some.mp begun
    cases same
    exact .inl rfl
  · cases begun
    exact .inr rfl

theorem reconcileStep_holds {memory' : ReconcileWorker κ}
    (valid : ReconcileValid crypto s) (holds : memory.Holds crypto s)
    (step : reconcileStep crypto s memory event = some (next,memory')) :
    memory'.Holds crypto next ∧ ∀ owner, memory'.ownerId = some owner →
      memory.ownerId = some owner ∨ owner ∉ s.ownerIds := by
  have path : Writes ⟨memory.saves s event,fun _ => False,memory.begins event,fun _ _ => True⟩ s next :=
    reconcileStep_writes (fun _ _ saved => saved) (fun _ begun => begun) (fun _ _ _ => trivial) step
  have framed (frame : ReconcileFrame κ) (held : FrameHolds s frame)
      (same : ∀ others, memory.saves s event frame.work.ownerId others → others = frame.progress.candidates) :
      FrameHolds next frame :=
    held.kept path valid.receipts same
  unfold reconcileStep at step
  split at step
  case h_1 =>
    split at step
    · obtain ⟨⟨after,work,replayed⟩,ran,same⟩ := toOption_map_some.mp step
      cases same
      cases replayed with
      | some response => exact ⟨trivial,fun owner held => by cases held⟩
      | none =>
        obtain ⟨fingerprint,fresh,owns⟩ := claimOperation_owns valid ran
        exact ⟨⟨fingerprint,owns⟩,fun owner held => .inr (Option.some.inj held ▸ fresh)⟩
    · cases step
  case h_2 =>
    obtain ⟨⟨after,progress,candidates⟩,ran,same⟩ := toOption_map_some.mp step
    cases same
    exact ⟨selectCandidates_holds valid holds ran,fun _ => .inl⟩
  case h_3 =>
    obtain ⟨memory,moved,same⟩ := Option.map_eq_some_iff.mp step
    cases same
    refine ⟨nextCandidate_holds holds moved,fun owner held => .inl ?_⟩
    unfold nextCandidate at moved
    split at moved
    · cases moved
    · split at moved
      · cases moved
        exact held
      · obtain ⟨_,_,rfl⟩ := toOption_map_some.mp moved
        exact held
  case h_4 =>
    split at step
    · obtain ⟨after,_,_,same⟩ := committed_map_some.mp step
      cases same
      exact ⟨trivial,fun owner held => by cases held⟩
    · cases step
  case h_5 frame candidate guard' now =>
    have kept := framed frame holds.1 fun _ saved => by cases saved
    rcases beginCandidate_frame step with rfl | rfl <;> exact ⟨kept,fun _ => .inl⟩
  case h_6 frame candidate =>
    obtain ⟨_,_,same⟩ := toOption_map_some.mp step
    cases same
    exact ⟨holds,fun _ => .inl⟩
  case h_7 frame candidate =>
    split at step
    · obtain ⟨_,_,same⟩ := Option.map_eq_some_iff.mp step
      cases same
      exact ⟨holds,fun _ => .inl⟩
    · cases step
  case h_8 frame candidate terminal =>
    obtain ⟨memory,observed,same⟩ := Option.map_eq_some_iff.mp step
    cases same
    obtain ⟨current,_,rfl⟩ := toOption_map_some.mp observed
    split <;> exact ⟨holds,fun _ => .inl⟩
  case h_9 frame candidate terminal current now =>
    obtain ⟨mark,_,step⟩ := Option.bind_eq_some_iff.mp step
    obtain ⟨after,_,_,same⟩ := committed_map_some.mp step
    cases same
    exact ⟨framed frame holds (fun _ saved => by cases saved),fun _ => .inl⟩
  case h_10 =>
    cases step
    exact ⟨holds,fun _ => .inl⟩
  case h_11 =>
    split at step
    · cases step
      exact ⟨holds,fun _ => .inl⟩
    · cases step
  case h_12 frame current terminal now =>
    obtain ⟨⟨after,item⟩,_,same⟩ := toOption_map_some.mp step
    cases same
    have kept := framed frame holds fun _ saved => saved.2
    exact ⟨⟨kept.owns,kept.remaining⟩,fun _ => .inl⟩
  case h_13 frame candidate now =>
    obtain ⟨⟨after,item⟩,_,same⟩ := toOption_map_some.mp step
    cases same
    have kept := framed frame holds fun _ saved => saved.2
    exact ⟨⟨kept.owns,kept.remaining⟩,fun _ => .inl⟩
  case h_14 => cases step

-- No provision command makes READY what a running reconciliation has saved as a
-- candidate, unless it is due at that reconciliation's observation time anyway.
def ReadiesSettled (crypto : SandboxCryptography κ) (s : SandboxStore κ) (transaction : SandboxTransaction) :
    Prop :=
  ∀ id, transaction.readies id → Settled crypto id s

abbrev Spares (crypto : SandboxCryptography κ) : SandboxSystem κ → SandboxLabel → Prop :=
  Program.Permitted (ReadiesSettled crypto) fun _ _ _ => True

abbrev SparingStep (crypto : SandboxCryptography κ) :=
  Guarded (Spares crypto) (Enabled (sandboxProgram crypto).advance)

open Classical in
noncomputable def sparingProgram (crypto : SandboxCryptography κ) :=
  (sandboxProgram crypto).restrict (ReadiesSettled crypto) fun _ _ _ => True

theorem sparing_runs {s next : SandboxSystem κ} (path : Runs (SparingStep crypto) s labels next) :
    Runs (Enabled (sparingProgram crypto).advance) s labels next := by
  classical
  exact path.mono fun _ _ _ taken => Program.restrict_advance _ taken.1 taken.2

def reconcileContract (collisionFree : Function.Injective crypto.reconcileFingerprint) :
    Contract (sparingProgram crypto) where
  valid := ReconcileValid crypto
  holds s memory := memory.Holds crypto s
  apart one two := ∀ owner, one.ownerId = some owner → two.ownerId ≠ some owner
  rely _ _ := True
  symmetric _ _ apart owner two one := apart owner one two
  idle _ _ := trivial
  idle_apart _ _ held := by cases held
  transacted s transaction next valid step := by
    classical
    obtain ⟨settled,step⟩ := Program.restrict_transact _ step
    have path : Writes ⟨fun _ _ => False,transaction.readies,fun _ => True,fun _ _ => True⟩ s next :=
      commitSandbox_writes valid.capacity.rows (fun _ readied => readied) (fun _ => trivial) (fun _ _ _ => trivial) step
    exact ⟨path.reconciled valid ⟨settled,fun _ _ => False.elim,fun _ _ => False.elim⟩,trivial,
      fun memory holds => holds.kept path valid.receipts fun _ _ _ => id⟩
  acted s memory event next memory' valid holds step := by
    classical
    replace step := (Program.restrict_act _ step).2
    have path : Writes ⟨memory.saves s event,fun _ => False,memory.begins event,fun _ _ => True⟩ s next :=
      reconcileStep_writes (fun _ _ saved => saved) (fun _ begun => begun) (fun _ _ _ => trivial) step
    obtain ⟨holds',owner'⟩ := reconcileStep_holds valid holds step
    refine ⟨path.reconciled valid ⟨fun _ => False.elim,fun _ _ => holds.savable collisionFree valid,
      fun _ _ _ _ => id⟩,trivial,holds',fun other held apart => ⟨?_,?_⟩⟩
    · exact held.kept path valid.receipts fun owner owned candidates saved =>
        apart owner (ReconcileWorker.saves_owner saved) owned
    · intro owner owned there
      rcases owner' owner owned with before | fresh
      · exact apart owner before there
      · exact fresh (held.issued there)

theorem initial_reconciled (crypto : SandboxCryptography κ) : ReconcileValid crypto .initial := by
  refine ⟨initial_capacity,List.nodup_nil,?_,?_,?_⟩ <;> intro receipt stored <;> cases stored

-- A cleanup begun by a reconciliation: its snapshot was due, and the guard it locks
-- names an ACTIVE lease.
theorem begins_due {memory' : ReconcileWorker κ}
    (holds : memory.Holds crypto s) (begun : memory.begins event id')
    (step : reconcileStep crypto s memory event = some (next,memory'))
    (found : s.materialization id' = some row) :
    ∃ observedAt lease, memory.observedAt = some observedAt ∧ s.lease id' = some lease ∧
      lease.state = .active ∧ (row.deadlineAt ≤ observedAt ∨ lease.expiresAt ≤ observedAt) := by
  unfold ReconcileWorker.begins at begun
  split at begun
  · rename_i frame candidate guard' now
    obtain ⟨candidateReady,rfl⟩ := begun
    obtain ⟨_,same,due⟩ := holds
    obtain ⟨other,lease,at_row,leased,late⟩ := due candidateReady
    rw [←same] at at_row leased
    cases at_row.symm.trans found
    have begins : beginCandidate crypto frame candidate guard' now s = some (next,memory') := step
    unfold beginCandidate at begins
    rw [candidateReady] at begins
    obtain ⟨after,_,ran,_⟩ := committed_map_some.mp begins
    obtain ⟨_,_,ran⟩ := bind_ok.mp ran
    obtain ⟨_,ran⟩ := require_bind_ok.mp ran
    obtain ⟨_,locked,_⟩ := bind_ok.mp ran
    obtain ⟨_,active,held,state⟩ := lockCurrentGuard_ok locked
    cases held.symm.trans leased
    exact ⟨_,lease,rfl,leased,state,late⟩
  · exact begun.elim

theorem reconcile_spares_live_work (collisionFree : Function.Injective crypto.reconcileFingerprint)
    {s t : SandboxSystem κ} (reached : Runs (SparingStep crypto) sandboxInitial labels s)
    (step : SparingStep crypto s (.act worker event) t)
    (found : s.store.materialization id' = some row) (ready : row.state = .ready)
    (moved : ∀ row', t.store.materialization id' = some row' → row'.state ≠ .ready) :
    ∃ observedAt lease, (s.workers worker).observedAt = some observedAt ∧ s.store.lease id' = some lease ∧
      lease.state = .active ∧ (row.deadlineAt ≤ observedAt ∨ lease.expiresAt ≤ observedAt) := by
  have valid := (reconcileContract collisionFree).runs_valid (sparing_runs reached)
    ((reconcileContract collisionFree).initial_valid (initial_reconciled crypto))
  obtain ⟨⟨store,memory'⟩,acted,rfl⟩ := Option.map_eq_some_iff.mp step.2
  have path : Writes ⟨(s.workers worker).saves s.store event,fun _ => False,
      (s.workers worker).begins event,fun _ _ => True⟩ s.store store :=
    reconcileStep_writes (fun _ _ saved => saved) (fun _ begun => begun) (fun _ _ _ => trivial) acted
  rcases path.ready_left found ready with begun | ⟨row',stored,still⟩
  · exact begins_due (valid.holds worker) begun acted found
  · exact absurd still (moved row' stored)

theorem replicate_append_inj {α : Type} {a x y : α} {l l' : List α} (hx : x ≠ a) (hy : y ≠ a) :
    ∀ {n m : Nat}, List.replicate n a ++ x :: l = List.replicate m a ++ y :: l' → n = m ∧ x = y ∧ l = l'
  | 0,0,same => by simpa using same
  | 0,_ + 1,same => absurd (List.cons.inj same).1 hx
  | _ + 1,0,same => absurd (List.cons.inj same).1.symm hy
  | _ + 1,_ + 1,same => by
    obtain ⟨count,rest⟩ := replicate_append_inj hx hy (List.cons.inj same).2
    exact ⟨congrArg (· + 1) count,rest⟩

theorem sampleFingerprint_injective : Function.Injective sampleFingerprint := by
  intro one two same
  obtain ⟨environment,_,rest⟩ := replicate_append_inj (by decide) (by decide) (String.ofList_injective same)
  obtain ⟨environmentId,executionId,observedAt⟩ := one
  obtain ⟨environmentId',executionId',observedAt'⟩ := two
  cases environment
  cases executionId <;> cases executionId'
  all_goals
    obtain ⟨observed,mark,text⟩ := replicate_append_inj (by decide) (by decide) rest
    cases observed
  · rfl
  · cases mark
  · cases mark
  · rw [String.toList_injective text]

def sampleReconcile (observedAt : Time) : ReconcileLeaseCommand :=
  ⟨"operator","reconcile","correlation",⟨1,none,observedAt⟩⟩

-- The lease expires at 31.
def sampleExpired : List SandboxLabel :=
  [sampleProvision 30 21 1,sampleReady 21 2,.act 0 (.claim (sampleReconcile 40) ⟨40,30,31⟩),
    .act 0 (.select 40),.act 0 .next]

-- The first attempt saves an orphan of a stalled provision and crashes; the provision
-- is taken over and completed, with a lease until 501; the retry finds it READY among
-- its candidates.
def sampleRetried : List SandboxLabel :=
  [sampleProvision 500 21 1,.act 0 (.claim (sampleReconcile 40) ⟨40,30,31⟩),.act 0 (.select 40),.crash 0,
    sampleProvision 500 22 50,sampleReady 22 51,.act 1 (.claim (sampleReconcile 40) ⟨80,33,32⟩),
    .act 1 (.select 80),.act 1 .next]

-- A decidable condition that is enough: nothing is saved when a provision completes.
def nothingSaved (s : SandboxSystem κ) : SandboxLabel → Bool
  | .transact (.completeReady _ _ _ _) => s.store.receipts.all fun receipt => receipt.candidates = []
  | _ => true

theorem nothingSaved_settled {s : SandboxSystem κ} (saved : nothingSaved s label = true) :
    Spares crypto s label := by
  cases label with
  | transact transaction =>
    cases transaction
    case completeReady =>
      intro id _ receipt stored _ listed
      have none := List.all_eq_true.mp saved receipt stored
      rw [of_decide_eq_true none] at listed
      cases listed
    all_goals exact fun _ readied => readied.elim
  | act => trivial
  | crash => trivial

def sampleExpiredSystem : SandboxSystem SampleSealed :=
  (execute (restrict nothingSaved sampleProgram.advance) sandboxInitial sampleExpired).get (by decide)

def sampleRetriedSystem : SandboxSystem SampleSealed :=
  (execute sampleProgram.advance sandboxInitial sampleRetried).get (by decide)

theorem reconcile_spares_live_work_expired :
    ∃ t row, SparingStep sampleCryptography sampleExpiredSystem (.act 0 (.begin 40)) t ∧
      sampleExpiredSystem.store.materialization 10 = some row ∧ row.state = .ready ∧
      ∃ lease, sampleExpiredSystem.store.lease 10 = some lease ∧ lease.state = .active ∧
        (row.deadlineAt ≤ 40 ∨ lease.expiresAt ≤ 40) := by
  have reached : Runs (Enabled (restrict nothingSaved sampleProgram.advance)) sandboxInitial sampleExpired
      sampleExpiredSystem := execute_get (by decide)
  have sparing : Runs (SparingStep sampleCryptography) sandboxInitial sampleExpired sampleExpiredSystem :=
    (restrict_runs reached).mono fun _ _ _ taken => ⟨nothingSaved_settled taken.1,taken.2⟩
  have begun : (sampleProgram.advance sampleExpiredSystem (.act 0 (.begin 40))).isSome := by decide
  have step : SparingStep sampleCryptography sampleExpiredSystem (.act 0 (.begin 40)) _ :=
    ⟨trivial,(Option.some_get begun).symm⟩
  have found : sampleExpiredSystem.store.materialization 10 = some _ := rfl
  obtain ⟨observedAt,lease,observed,leased,due⟩ :=
    reconcile_spares_live_work sampleFingerprint_injective sparing step found rfl
      (by intro row found; cases found; decide)
  cases observed
  exact ⟨_,_,step,rfl,rfl,lease,leased,due⟩

theorem reconcile_kills_live_work :
    ¬ ∀ (labels : List SandboxLabel) (s t : SandboxSystem SampleSealed) (worker : Nat) (event : ReconcileEvent)
        (id : Uuid) (row : Materialization SampleSealed),
      Runs (Enabled sampleProgram.advance) sandboxInitial labels s →
      Enabled sampleProgram.advance s (.act worker event) t →
      s.store.materialization id = some row → row.state = .ready →
      (∀ row', t.store.materialization id = some row' → row'.state ≠ .ready) →
      ∃ observedAt lease, (s.workers worker).observedAt = some observedAt ∧ s.store.lease id = some lease ∧
        lease.state = .active ∧ (row.deadlineAt ≤ observedAt ∨ lease.expiresAt ≤ observedAt) := by
  intro claim
  have reached : Runs (Enabled sampleProgram.advance) sandboxInitial sampleRetried sampleRetriedSystem :=
    execute_get (by decide)
  have begun : (sampleProgram.advance sampleRetriedSystem (.act 1 (.begin 80))).isSome := by decide
  obtain ⟨observedAt,lease,observed,leased,_,due⟩ := claim _ _ _ 1 (.begin 80) 10 _ reached
    (Option.some_get begun).symm rfl rfl (by intro row found; cases found; decide)
  cases observed
  cases leased
  revert due
  decide

end EngineeringPlatform.Sandbox
