import EngineeringPlatform.AgentTransactions
import EngineeringPlatform.SharedWorkers
namespace EngineeringPlatform.Agent
open SharedWorkers
variable {κ : Type}

def claimLease : Nat := 30
def maxClaims : Nat := 3

-- What the orchestrator port gives back. `raised` stands for every exception
-- other than the declared pre-call failure.
inductive DispatchAnswer where
  | accepted (receipt : WorkflowReceipt)
  | rejected
  | acknowledgementUnknown
  | preCallFailure
  | raised
  deriving DecidableEq

inductive LookupAnswer where
  | neverObserved
  | confirmed (receipt : WorkflowReceipt)
  | rejected
  | stillUnknown
  | raised
  deriving DecidableEq

-- The arguments of `_persist`, decided from one answer.
structure WorkflowOutcomeDecision where
  state : WorkflowCommandState
  receipt : Option WorkflowReceipt
  error : Option WorkflowErrorCode
  deriving DecidableEq

def WorkflowCommand.claimToken (command : WorkflowCommand) : Option Uuid :=
  command.claim.map WorkflowClaim.token

def acceptedReceipt (command : WorkflowCommand) (receipt : WorkflowReceipt) : Option WorkflowReceipt :=
  if receipt.commandKey = command.commandKey ∧ receipt.outcome = "ACCEPTED" then some receipt else none

def uncertain (command : WorkflowCommand) : WorkflowOutcomeDecision :=
  if maxClaims ≤ command.dispatchAttempts then ⟨.unknown,none,some .claimAttemptsExhausted⟩
  else ⟨.unknown,none,some .acknowledgementUnknown⟩

def acknowledged (command : WorkflowCommand) (receipt : WorkflowReceipt) : WorkflowOutcomeDecision :=
  match acceptedReceipt command receipt with
  | some receipt => ⟨.dispatched,some receipt,none⟩
  | none => uncertain command

def dispatchDecision (command : WorkflowCommand) : DispatchAnswer → WorkflowOutcomeDecision
  | .preCallFailure =>
    if maxClaims ≤ command.dispatchAttempts then ⟨.unknown,none,some .claimAttemptsExhausted⟩
    else ⟨.planned,none,some .preCallFailure⟩
  | .raised => uncertain command
  | .accepted receipt => acknowledged command receipt
  | .rejected => ⟨.failed,none,some .devDeterministicRejection⟩
  | .acknowledgementUnknown => uncertain command

def lookupDecision (command : WorkflowCommand) : LookupAnswer → WorkflowOutcomeDecision
  | .confirmed receipt => acknowledged command receipt
  | .rejected => ⟨.failed,none,some .reconciliationRejected⟩
  | .neverObserved =>
    if command.state = .planned ∧ command.dispatchAttempts < maxClaims then ⟨.planned,none,none⟩
    else uncertain command
  | .stillUnknown | .raised => uncertain command

-- The claim predicate of each mode. The reconciler also takes over a claim whose
-- lease has run out.
def claimable (mode : WorkflowClaimMode) (now : Time) (row : WorkflowCommand) : Bool :=
  match mode with
  | .dispatch => row.state = .planned ∧ row.claim = none ∧ row.dispatchAttempts < 3
  | .reconcile =>
    match row.claim with
    | none => row.state = .unknown ∧ row.dispatchAttempts < 3
    | some claim => (row.state = .planned ∨ row.state = .unknown) ∧ claim.leaseUntil ≤ now ∧
        row.dispatchAttempts ≤ 3

def claimedCommand (claim : WorkflowClaim) (now : Time) (row : WorkflowCommand) : WorkflowCommand :=
  {row with
    dispatchAttempts :=
      if claim.mode = .reconcile ∧ row.claim ≠ none then row.dispatchAttempts else row.dispatchAttempts + 1
    updatedAt := now
    claim := some claim}

def parkable (row : WorkflowCommand) : Bool :=
  row.state = .unknown ∧ row.claim = none ∧ 3 ≤ row.dispatchAttempts ∧
    row.lastErrorCode ≠ some .claimAttemptsExhausted

def parkedCommand (now : Time) (row : WorkflowCommand) : WorkflowCommand :=
  {row with
    state := .unknown, receipt := none, lastErrorCode := some .claimAttemptsExhausted
    claim := none, updatedAt := now}

def recordedCommand (decision : WorkflowOutcomeDecision) (now : Time) (row : WorkflowCommand) :
    WorkflowCommand :=
  {row with
    state := decision.state, receipt := decision.receipt, lastErrorCode := decision.error
    dispatchedAt := if decision.state = .dispatched then some now else none
    updatedAt := now, claim := none}

-- The agent's tables with the claim tokens handed out so far: `new_id` never
-- repeats one.
structure WorkflowStore (κ : Type) where
  agent : AgentStore κ
  claimTokens : List Uuid

def WorkflowStore.commands (s : WorkflowStore κ) : Table Uuid WorkflowCommand := s.agent.commands

def WorkflowStore.putCommands (s : WorkflowStore κ) (commands : Table Uuid WorkflowCommand) :
    WorkflowStore κ :=
  ⟨{s.agent with commands := commands},s.claimTokens⟩

def WorkflowStore.issue (s : WorkflowStore κ) (token : Uuid) : WorkflowStore κ :=
  ⟨s.agent,token :: s.claimTokens⟩

def parkExpiredWorkflowClaims (now : Time) (s : WorkflowStore κ) : WorkflowStore κ :=
  s.putCommands (s.commands.updateAll fun _ row => if parkable row then parkedCommand now row else row)

-- SELECT … ORDER BY created_at, id LIMIT … FOR UPDATE SKIP LOCKED: `ids` are the
-- rows the database returned. Locked rows are skipped, so any choice of claimable
-- rows in creation order is possible.
def selectable (mode : WorkflowClaimMode) (limit : Nat) (now : Time) (ids : List Uuid)
    (s : WorkflowStore κ) : Bool :=
  ids.Nodup ∧ ids.length ≤ limit ∧ (∀ id ∈ ids, (s.commands id).any (claimable mode now) = true) ∧
    (ids.filterMap s.commands).Pairwise (fun one two => one.createdAt ≤ two.createdAt)

def claimRows (claim : WorkflowClaim) (now : Time) (ids : List Uuid) (s : WorkflowStore κ) :
    WorkflowStore κ :=
  s.putCommands (s.commands.updateAll fun id row => if id ∈ ids then claimedCommand claim now row else row)

def WorkflowClaimMode.owner : WorkflowClaimMode → String
  | .dispatch => "agent-workflow-dispatch"
  | .reconcile => "agent-workflow-reconcile"

def claimWorkflowCommands (mode : WorkflowClaimMode) (limit : Nat) (now : Time) (token : Uuid)
    (ids : List Uuid) (s : WorkflowStore κ) : Option (WorkflowStore κ × List WorkflowCommand) :=
  if token ∉ s.claimTokens ∧ selectable mode limit now ids s then
    let claimed := (claimRows ⟨mode.owner,token,now + claimLease,mode⟩ now ids s).issue token
    some (claimed,ids.filterMap claimed.commands)
  else none

-- UPDATE … WHERE id AND state AND claim_token: a completion under a lost claim
-- matches no row.
def recordWorkflowCommandDispatch (command : WorkflowCommand) (token : Uuid)
    (decision : WorkflowOutcomeDecision) (now : Time) (s : WorkflowStore κ) : WorkflowStore κ :=
  s.putCommands (s.commands.updateAll fun id row =>
    if id = command.id ∧ row.state = command.state ∧ row.claimToken = some token then
      recordedCommand decision now row
    else row)

-- One worker runs `dispatch_workflow_commands` or `reconcile_workflow_commands`:
-- park, claim a batch, then one call and one completion for each claimed command.
inductive Worker where
  | idle
  | parked (mode : WorkflowClaimMode) (limit : Nat)
  | handling (mode : WorkflowClaimMode) (command : WorkflowCommand) (rest : List WorkflowCommand)
  | answered (mode : WorkflowClaimMode) (command : WorkflowCommand) (decision : WorkflowOutcomeDecision)
      (rest : List WorkflowCommand)
  deriving DecidableEq

inductive WorkerEvent where
  | park (mode : WorkflowClaimMode) (limit : Nat) (now : Time)
  | claim (now : Time) (token : Uuid) (ids : List Uuid)
  | dispatch (answer : DispatchAnswer)
  | lookup (answer : LookupAnswer)
  | persist (now : Time)
  deriving DecidableEq

def Worker.next (mode : WorkflowClaimMode) : List WorkflowCommand → Worker
  | [] => .idle
  | command :: rest => .handling mode command rest

def workerStep (s : WorkflowStore κ) : Worker → WorkerEvent → Option (WorkflowStore κ × Worker)
  | .idle,.park mode limit now =>
    if 1 ≤ limit then some (parkExpiredWorkflowClaims now s,.parked mode limit) else none
  | .parked mode limit,.claim now token ids =>
    (claimWorkflowCommands mode limit now token ids s).map fun (s,claimed) => (s,.next mode claimed)
  | .handling .dispatch command rest,.dispatch answer =>
    some (s,.answered .dispatch command (dispatchDecision command answer) rest)
  | .handling .reconcile command rest,.lookup answer =>
    some (s,.answered .reconcile command (lookupDecision command answer) rest)
  | .answered mode command decision rest,.persist now =>
    command.claimToken.map fun token =>
      (recordWorkflowCommandDispatch command token decision now s,.next mode rest)
  | _,_ => none

abbrev WorkflowLabel := Label Transaction WorkerEvent
abbrev WorkflowSystem (κ : Type) := System (WorkflowStore κ) Worker

def workflowProgram (crypto : AgentCryptography κ) :
    Program (WorkflowStore κ) Worker Transaction WorkerEvent where
  idle := .idle
  transact s transaction := (commit crypto s.agent transaction).map fun agent => ⟨agent,s.claimTokens⟩
  act := workerStep

def workflowInitial (definitions : Table (Uuid × Nat) AgentDefinition) : WorkflowSystem κ :=
  ⟨⟨.initial definitions,[]⟩,fun _ => .idle⟩

-- The command a step sends to the orchestrator. A pre-call failure is raised
-- before anything is sent.
def sent (s : WorkflowSystem κ) : WorkflowLabel → Option WorkflowCommand
  | .act worker (.dispatch answer) =>
    match s.workers worker with
    | .handling .dispatch command _ => if answer = .preCallFailure then none else some command
    | _ => none
  | _ => none

end EngineeringPlatform.Agent
