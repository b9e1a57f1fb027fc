import EngineeringPlatform.KeyedRows
import EngineeringPlatform.ModelGatewayDomain
namespace EngineeringPlatform.ModelGateway
open Checked KeyedRows

-- A connection check and a metadata observation are one kind of row, apart from
-- what was asked, the words of the states and reasons, and the evidence kept.
structure Execution (ι σ ρ ω μ : Type) where
  id : Uuid
  deploymentId : Uuid
  revision : Nat
  requestedBy : String
  requestedAt : Time
  input : ι
  state : σ
  reason : Option ρ
  evidence : ω
  attempt : Nat
  executionToken : Option Uuid
  startedAt : Option Time
  deadlineAt : Option Time
  finishedAt : Option Time
  materialCurrentness : μ
  deriving DecidableEq

structure Outcome (σ ρ ω : Type) where
  state : σ
  reason : Option ρ
  evidence : ω
  deriving DecidableEq

inductive WorkerError where
  | database (text : String)
  | fenceLost (text : String)
  deriving DecidableEq

structure ExecutionKind (ι σ ρ ω μ κ : Type) where
  queued : σ
  running : σ
  blocked : σ
  unknown : σ
  -- What the trigger lets a running row become.
  finals : List σ
  executionExpired : ρ
  inputChanged : ρ
  connectionBusy : ρ
  materialVersionChanged : ρ
  requestOutcomeUnknown : ρ
  noEvidence : ω
  -- What is kept of an outcome that comes after the deadline.
  lateEvidence : ω → ω
  current : μ
  stale : μ
  unverifiable : μ
  lease : Time
  timeout : Time
  invalidTransition : String
  invalidRow : String
  fenceLost : String
  connectionRef : ι → Option String
  deploymentRevision : ι → Nat
  materialVersion : κ → String
  busyReference : ι → κ → String
  managerReason : CheckReason → Option ρ
  validate : Digests → Directories → Option Deployment → ι → Except ρ κ
  constraints : Execution ι σ ρ ω μ → Bool
  queued_running : queued ≠ running
  blocked_queued : blocked ≠ queued
  blocked_running : blocked ≠ running
  queued_final : queued ∉ finals
  running_final : running ∉ finals
  unknown_final : unknown ∈ finals
  validated : ∀ {digests directories deployment input material},
    validate digests directories deployment input = .ok material →
      connectionRef input = some (busyReference input material)

variable {ι σ ρ ω μ κ : Type} [DecidableEq ι] [DecidableEq σ]
variable (k : ExecutionKind ι σ ρ ω μ κ)

def ExecutionKind.active (state : σ) : Bool := state = k.queued ∨ state = k.running

def ExecutionKind.sameConnection (one two : ι) : Bool :=
  (k.connectionRef one).isSome ∧ k.connectionRef one = k.connectionRef two

-- `guard_connection_check` and `guard_metadata_observation`, on UPDATE.
def ExecutionKind.guarded (old new : Execution ι σ ρ ω μ) : Bool :=
  k.active old.state ∧ new.revision = old.revision + 1 ∧
    (new.id = old.id ∧ new.deploymentId = old.deploymentId ∧ new.requestedBy = old.requestedBy ∧
      new.requestedAt = old.requestedAt ∧ new.input = old.input) ∧
    (old.state = k.queued → new.state = k.running ∨ new.state = k.blocked) ∧
    (old.state = k.running → new.state ∈ k.finals ∧ new.attempt = old.attempt ∧
      new.executionToken = old.executionToken ∧ new.startedAt = old.startedAt ∧ new.deadlineAt = old.deadlineAt)

def findDeployment (deployments : List Deployment) (deploymentId : Uuid) : Option Deployment :=
  find (·.id) deployments deploymentId

def draftAt (deployments : List Deployment) (deploymentId : Uuid) (revision : Nat) : Bool :=
  (findDeployment deployments deploymentId).any fun row => row.state = .draft ∧ row.revision = revision

-- `save_check` and `save_observation`: whether a row was updated, unless the
-- trigger, a CHECK constraint or the unique running index raises.
def saveExecution (deployments : List Deployment) (value : Execution ι σ ρ ω μ) (expectedRevision : Nat)
    (rows : List (Execution ι σ ρ ω μ)) : Except WorkerError (Bool × List (Execution ι σ ρ ω μ)) :=
  match find (·.id) rows value.id with
  | none => .ok (false,rows)
  | some old =>
    if old.revision = expectedRevision ∧ k.active old.state = true ∧
        (value.state = k.running → draftAt deployments old.deploymentId (k.deploymentRevision old.input) = true) then do
      require (k.guarded old value = true) (.database k.invalidTransition)
      require (k.constraints value = true) (.database k.invalidRow)
      require (value.state = k.running → ∀ other ∈ rows, other.id ≠ value.id → other.state = k.running →
        k.sameConnection value.input other.input = false) (.database k.invalidRow)
      pure (true,update (·.id) rows value.id fun _ => value)
    else .ok (false,rows)

-- `_finish`
def finish (clock : Time) (deployments : List Deployment) (row : Execution ι σ ρ ω μ) (outcome : Outcome σ ρ ω)
    (material : μ) (rows : List (Execution ι σ ρ ω μ)) : Except WorkerError (List (Execution ι σ ρ ω μ)) := do
  let value :=
    { row with
      state := outcome.state
      reason := outcome.reason
      evidence := outcome.evidence
      revision := row.revision + 1
      finishedAt := some clock
      materialCurrentness := material }
  let (saved,rows) ← saveExecution k deployments value row.revision rows
  require (saved = true) (.fenceLost k.fenceLost)
  pure rows

def expiredOutcome : Outcome σ ρ ω := ⟨k.unknown,some k.executionExpired,k.noEvidence⟩

-- One row of `recover_expired_checks`, or of `recover_expired_metadata_observations`.
def recoverExecution (clock : Time) (deployments : List Deployment) (id : Uuid)
    (rows : List (Execution ι σ ρ ω μ)) : Except WorkerError (List (Execution ι σ ρ ω μ)) :=
  match find (·.id) rows id with
  | none => .ok rows
  | some row =>
    if row.state = k.running ∧ row.deadlineAt.any (· ≤ clock) = true then
      finish k clock deployments row (expiredOutcome k) k.unverifiable rows
    else .ok rows

-- Which of the three reads of the fence comes next: before the adapter is
-- called, when it starts, and just before the request.
inductive GuardStage where
  | first
  | second
  | third
  deriving DecidableEq

-- What a worker holds of one execution between its transactions and its reads.
inductive ExecutionWorker (ι σ ρ ω μ κ : Type) where
  | idle
  | admitted (row : Execution ι σ ρ ω μ) (material : Except ρ κ)
  | prepared (row : Execution ι σ ρ ω μ) (material : Except ρ κ)
  | dispatching (running : Execution ι σ ρ ω μ) (material : κ) (stage : GuardStage) (deadline : Time)
  | looking (running : Execution ι σ ρ ω μ) (material : κ) (stage : GuardStage) (deadline checkedAt : Time)
  | measuring (running : Execution ι σ ρ ω μ) (material : κ) (stage : GuardStage) (deadline checkedAt : Time)
      (seen : Bool)
  | cleared (running : Execution ι σ ρ ω μ) (material : κ) (deadline : Time)
  | sent (running : Execution ι σ ρ ω μ) (material : κ)
  | concluding (running : Execution ι σ ρ ω μ) (material : κ) (outcome : Outcome σ ρ ω)
  | finishing (running : Execution ι σ ρ ω μ) (outcome : Outcome σ ρ ω) (currentness : μ)

inductive ExecutionEvent (σ ρ ω : Type) where
  | read (id : Uuid) (directories : Directories)
  | prepare (manager : Except CheckReason Unit) (prepared : Except ρ Unit)
  | claim (directories : Directories) (manager : Except CheckReason Unit) (version : Except ρ String)
      (token : Uuid)
  | anchor
  | look
  | measure
  | send
  | answer (outcome : Outcome σ ρ ω)
  | raise
  | conclude (version : Except ρ String)
  | finish

-- `require_manager`, its reason in the family's own words; a reason that has no
-- word there ends the processing as a crash does.
def ExecutionKind.manager (answer : Except CheckReason Unit) : Option (Except ρ Unit) :=
  match answer with
  | .ok _ => some (.ok ())
  | .error reason => (k.managerReason reason).map .error

-- The first, unlocked read of `process_connection_check`.
def readExecution (digests : Digests) (directories : Directories) (deployments : List Deployment)
    (rows : List (Execution ι σ ρ ω μ)) (id : Uuid) : ExecutionWorker ι σ ρ ω μ κ :=
  match find (·.id) rows id with
  | none => .idle
  | some row =>
    if row.state = k.queued then
      .admitted row (k.validate digests directories (findDeployment deployments row.deploymentId) row.input)
    else .idle

-- What the claim finds under the row's lock, where nothing has blocked it yet.
def claimable (digests : Digests) (directories : Directories) (deployments : List Deployment)
    (busy : String → Bool) (manager : Except ρ Unit) (version : Except ρ String)
    (locked : Execution ι σ ρ ω μ) : Except ρ Unit := do
  let current ← k.validate digests directories (findDeployment deployments locked.deploymentId) locked.input
  manager
  let version ← version
  require (version = k.materialVersion current) k.materialVersionChanged
  require (busy (k.busyReference locked.input current) = false) k.connectionBusy

def claimed (clock : Time) (token : Uuid) (locked : Execution ι σ ρ ω μ) : Execution ι σ ρ ω μ :=
  { locked with
    state := k.running
    revision := locked.revision + 1
    attempt := 1
    executionToken := some token
    startedAt := some clock
    deadlineAt := some (clock + k.lease)
    materialCurrentness := k.current }

-- The transaction that claims the row or blocks it.
def claimExecution (digests : Digests) (directories : Directories) (clock : Time) (deployments : List Deployment)
    (busy : String → Bool) (manager : Except ρ Unit) (version : Except ρ String) (token : Uuid) (id : Uuid)
    (material : Except ρ κ) (rows : List (Execution ι σ ρ ω μ)) :
    Except WorkerError (List (Execution ι σ ρ ω μ) × ExecutionWorker ι σ ρ ω μ κ) :=
  match find (·.id) rows id with
  | none => .ok (rows,.idle)
  | some locked =>
    if locked.state ≠ k.queued then .ok (rows,.idle)
    else
      match (do
        let material ← material
        claimable k digests directories deployments busy manager version locked
        pure material) with
      | .error reason => do
        let rows ← finish k clock deployments locked ⟨k.blocked,some reason,k.noEvidence⟩ k.unverifiable rows
        pure (rows,.idle)
      | .ok material => do
        let running := claimed k clock token locked
        let (saved,after) ← saveExecution k deployments running locked.revision rows
        if saved then pure (after,.dispatching running material .first 0)
        else do
          let rows ← finish k clock deployments locked ⟨k.blocked,some k.inputChanged,k.noEvidence⟩ k.unverifiable rows
          pure (rows,.idle)

-- The row `dispatch_guard` reads is still the claimed one.
def stillClaimed (running : Execution ι σ ρ ω μ) (rows : List (Execution ι σ ρ ω μ)) : Bool :=
  (find (·.id) rows running.id).any fun current =>
    current.state = k.running ∧ current.revision = running.revision ∧
      current.executionToken = running.executionToken ∧ current.deadlineAt = running.deadlineAt

-- `dispatch_guard`'s answer, once the row is read: what is left of the lease.
def remaining (running : Execution ι σ ρ ω μ) (seen : Bool) (clock : Time) : Time :=
  if seen then running.deadlineAt.elim 0 (· - clock) else 0

def measured (clock : Time) (running : Execution ι σ ρ ω μ) (material : κ) (stage : GuardStage)
    (deadline checkedAt : Time) (seen : Bool) : ExecutionWorker ι σ ρ ω μ κ :=
  let left := remaining running seen clock
  if left = 0 then .concluding running material (expiredOutcome k)
  else
    match stage with
    | .first => .dispatching running material .second deadline
    | .second => .dispatching running material .third (checkedAt + min k.timeout left)
    | .third => .cleared running material (min deadline (checkedAt + left))

-- The last transaction: the result is recorded only under the claim's own fence,
-- and as expired once the lease has run out.
def finishExecution (clock : Time) (deployments : List Deployment) (running : Execution ι σ ρ ω μ)
    (outcome : Outcome σ ρ ω) (material : μ) (rows : List (Execution ι σ ρ ω μ)) :
    Except WorkerError (List (Execution ι σ ρ ω μ)) :=
  match find (·.id) rows running.id with
  | none => .ok rows
  | some current =>
    if current.state = k.running ∧ current.executionToken = running.executionToken ∧
        current.revision = running.revision then
      if current.deadlineAt.all (· ≤ clock) then
        finish k clock deployments current
          ⟨k.unknown,some k.executionExpired,k.lateEvidence outcome.evidence⟩ k.unverifiable rows
      else finish k clock deployments current outcome material rows
    else .ok rows

def interrupted : Outcome σ ρ ω := ⟨k.unknown,some k.requestOutcomeUnknown,k.noEvidence⟩

-- One step of a worker: the table after it, the request it has put on the wire,
-- and what it holds then.
def executionStep (digests : Digests) (clock : Time) (deployments : List Deployment) (busy : String → Bool)
    (rows : List (Execution ι σ ρ ω μ)) :
    ExecutionWorker ι σ ρ ω μ κ → ExecutionEvent σ ρ ω →
      Option (List (Execution ι σ ρ ω μ) × Option (Execution ι σ ρ ω μ) × ExecutionWorker ι σ ρ ω μ κ)
  | .idle,.read id directories => some (rows,none,readExecution k digests directories deployments rows id)
  | .admitted row material,.prepare manager prepared =>
    (k.manager manager).map fun manager =>
      (rows,none,.prepared row (do
        let material ← material
        manager
        prepared
        pure material))
  | .prepared row material,.claim directories manager version token =>
    (k.manager manager).bind fun manager =>
      (claimExecution k digests directories clock deployments busy manager version token row.id material
        rows).toOption.map fun (rows,memory) => (rows,none,memory)
  | .dispatching running material stage deadline,.anchor =>
    some (rows,none,.looking running material stage deadline clock)
  | .looking running material stage deadline checkedAt,.look =>
    some (rows,none,.measuring running material stage deadline checkedAt (stillClaimed k running rows))
  | .measuring running material stage deadline checkedAt seen,.measure =>
    some (rows,none,measured k clock running material stage deadline checkedAt seen)
  -- `loop.time() >= deadline` is asked in the statement before the request is sent.
  | .cleared running material deadline,.send =>
    if deadline ≤ clock then some (rows,none,.concluding running material (expiredOutcome k))
    else some (rows,some running,.sent running material)
  | .dispatching running material .third _,.answer outcome
  | .looking running material .second _ _,.answer outcome | .looking running material .third _ _,.answer outcome
  | .measuring running material .second _ _ _,.answer outcome
  | .measuring running material .third _ _ _,.answer outcome
  | .cleared running material _,.answer outcome | .sent running material,.answer outcome =>
    some (rows,none,.concluding running material outcome)
  | .dispatching running material _ _,.raise | .looking running material _ _ _,.raise
  | .measuring running material _ _ _ _,.raise | .cleared running material _,.raise
  | .sent running material,.raise => some (rows,none,.concluding running material (interrupted k))
  | .concluding running material outcome,.conclude version =>
    some (rows,none,.finishing running outcome (match version with
      | .ok version => if version = k.materialVersion material then k.current else k.stale
      | .error _ => k.unverifiable))
  | .finishing running outcome currentness,.finish =>
    (finishExecution k clock deployments running outcome currentness rows).toOption.map fun rows => (rows,none,.idle)
  | _,_ => none

end EngineeringPlatform.ModelGateway
