import EngineeringPlatform.AgentDelivery
namespace EngineeringPlatform.Delivery
open Checked ClaimedRows SharedWorkers EngineeringPlatform.SourceControl

-- What the broker's push or observation gives back.
inductive BrokerAnswer where
  | unknown
  | denied
  | headConflict
  | head (sha : String)
  deriving DecidableEq

-- A row a worker has claimed: the executor's, with nothing after it, or the
-- reconciler's, with the rest of its batch.
structure Task where
  row : AgentPushRequest
  rest : Option (List AgentPushRequest)
  deriving DecidableEq

def Task.expected (task : Task) : AgentPushState :=
  match task.rest with
  | none => .inFlight
  | some _ => .reconciliation

def Task.finish (task : Task) : Completion → Time → Uuid → DeliveryStore →
    Except DeliveryError (DeliveryStore × AgentPushRequest) :=
  match task.rest with
  | none => finishInflight task.row
  | some _ => finishReconciliation task.row

-- A fencing transaction that has run its UPDATE, with the fence row its upsert found
-- and how many unguarded requests the UPDATE's snapshot held.
structure Fencing where
  command : FenceCommand
  now : Time
  found : Option AgentDeliveryFence
  seen : Nat
  deriving DecidableEq

inductive DeliveryWorker where
  | idle
  | authorizing (env : AuthorizeEnvironment) (spec : AgentPushRequestSpec)
  | loaded (row : AgentPushRequest)
  | validated (row : AgentPushRequest)
  | consumed (row : AgentPushRequest)
  | delivered (row : AgentPushRequest) (head : String)
  | observing (task : Task)
  | judging (task : Task) (head : String) (bindingValid : Bool)
  | finishing (task : Task) (completion : Completion)
  | confirming (task : Task) (head : String) (observedAt : Time)
  | fencing (task : Task) (head : String) (observedAt : Time)
  | recording (task : Task) (head : String) (observedAt : Time)
  | freezing (task : Task)
  | raising (fencing : Fencing)
  | revoking (fence : AgentDeliveryFence) (attempts : Nat) (rest : List AgentDeliveryFence)
  | revoked (fence : AgentDeliveryFence) (attempts : Nat) (target : RevocationState)
      (rest : List AgentDeliveryFence)
  deriving DecidableEq

inductive DeliveryEvent where
  | authorize (env : AuthorizeEnvironment) (spec : AgentPushRequestSpec)
  | insert
  | load (requestId : Uuid)
  | validate (answer : Option AgentExecutionBindingSnapshot)
  | consume (rawGrant : String) (now : Time)
  | push (answer : BrokerAnswer) (now : Time)
  | claim (limit : Nat) (now : Time) (ids : List Uuid)
  | observe (answer : BrokerAnswer) (now : Time)
  | judge (now : Time)
  | finish (now : Time) (factId : Uuid)
  | record (now : Time) (factId : Uuid)
  | freeze
  | fence (command : FenceCommand) (now : Time)
  | raise
  | claimRevocations (limit : Nat) (now : Time) (attemptIds : List Uuid)
  | revoke (known : Bool)
  | completeRevocation (now : Time)

def Task.next (task : Task) : DeliveryWorker :=
  match task.rest with
  | none | some [] => .idle
  | some (row :: rest) => .observing ⟨row,some rest⟩

def nextTask : List AgentPushRequest → DeliveryWorker
  | [] => .idle
  | row :: rest => .observing ⟨row,some rest⟩

def nextRevocation : List AgentDeliveryFence → DeliveryWorker
  | [] => .idle
  | fence :: rest => .revoking fence fence.revokeAttempts rest

def stillBound (answer : Option AgentExecutionBindingSnapshot) (row : AgentPushRequest) : Bool :=
  answer.any fun binding => bindingIsValid binding row.spec (some row.executionBindingDigest)

def pushed (policy : AgentDeliveryPolicy) (row : AgentPushRequest) (answer : BrokerAnswer) (now : Time) :
    DeliveryWorker :=
  match answer with
  | .unknown => .finishing ⟨row,none⟩ (.unknown policy row now none)
  | .denied => .finishing ⟨row,none⟩ .denied
  | .headConflict => .finishing ⟨row,none⟩ (.headConflict none)
  | .head head =>
    if head ≠ row.spec.targetCommitSha then .finishing ⟨row,none⟩ (.headConflict (some (head,now)))
    else .delivered row head

def observed (policy : AgentDeliveryPolicy) (task : Task) (answer : BrokerAnswer) (now : Time) :
    Option DeliveryWorker :=
  match answer with
  | .unknown => some (.finishing task (.unknown policy task.row now none))
  | .denied => some (.finishing task .denied)
  | .headConflict => none
  | .head head => some (.judging task head true)

-- What an observed head means, given the local fence and the execution binding.
def judged (policy : AgentDeliveryPolicy) (task : Task) (head : String) (bindingValid fenced : Bool)
    (now : Time) : DeliveryWorker :=
  if head = task.row.spec.targetCommitSha then
    if fenced = true ∨ bindingValid = false then .fencing task head now else .confirming task head now
  else if head = task.row.spec.expectedRemoteHeadSha then
    .finishing task (.unknown policy task.row now (some (head,now)))
  else .finishing task (.headConflict (some (head,now)))

def afterConfirm (task : Task) (head : String) (observedAt : Time) (row : AgentPushRequest) : DeliveryWorker :=
  if row.state = .fenced then .recording task head observedAt else task.next

def afterFence (fence : AgentDeliveryFence) : DeliveryWorker :=
  if fence.revocationState = .succeeded then .idle else .revoking fence 1 []

-- The unguarded requests inserted since the snapshot of the UPDATE was taken.
def Fencing.missed (fencing : Fencing) (s : DeliveryStore) : List Uuid := s.unguarded.drop fencing.seen

-- A fence row that is there stays locked from the check to the INSERT, so that both are
-- one step. Without one any transaction may commit in between. The fencing transaction
-- holds the row it found from its upsert on: its COMMIT finds it as it was.
def deliveryStep (crypto : DeliveryCryptography) (policy : AgentDeliveryPolicy) (s : DeliveryStore) :
    DeliveryWorker → DeliveryEvent → Option (DeliveryStore × DeliveryWorker)
  | .idle,.authorize env spec =>
    if s.fences spec.attemptId = none then
      (checkAgentPush policy env spec s).toOption.map fun _ => (s,.authorizing env spec)
    else (authorizeAgentPush crypto policy env spec s).toOption.map fun (s,_) => (s,.idle)
  | .authorizing env spec,.insert =>
    (recordAgentPush crypto env spec s).toOption.map fun (s,row,replayed) =>
      (if replayed then s else s.unguard row.id,.idle)
  | .idle,.load requestId =>
    (s.requests requestId).map fun row => (s,if row.state = .authorized then .loaded row else .idle)
  | .loaded row,.validate answer => if stillBound answer row then some (s,.validated row) else none
  | .validated row,.consume rawGrant now =>
    (consumeGrant crypto policy row.id rawGrant now s).toOption.map fun (s,consumed) =>
      (s,match consumed with
        | some row => .consumed row
        | none => .idle)
  | .consumed row,.push answer now => some (s.push row.id,pushed policy row answer now)
  | .delivered row head,.validate answer => some (s,.judging ⟨row,none⟩ head (stillBound answer row))
  | .idle,.claim limit now ids =>
    (claimReconcilable limit now (policy.nextReconcileAt now 1) ids s).map fun (s,claimed) =>
      (s,nextTask claimed)
  | .observing task,.observe answer now => (observed policy task answer now).map fun memory => (s,memory)
  | .judging task head bindingValid,.judge now =>
    some (s,judged policy task head bindingValid
      (isLocallyFenced task.row.spec.attemptId task.row.spec.attemptGeneration s) now)
  | .finishing task completion,.finish now factId =>
    (task.finish completion now factId s).toOption.map fun (s,_) => (s,task.next)
  | .confirming task head observedAt,.finish now factId =>
    (task.finish (.confirmed head observedAt) now factId s).toOption.map fun (s,row) =>
      (s,afterConfirm task head observedAt row)
  | .fencing task head observedAt,.finish now factId =>
    (task.finish (.fenced head observedAt) now factId s).toOption.map fun (s,_) =>
      (s,.recording task head observedAt)
  | .recording task head observedAt,.record now factId =>
    (recordFencedObservation task.row.id head observedAt now factId s).toOption.map fun (s,_) =>
      (s,.freezing task)
  | .freezing task,.freeze => some (s,task.next)
  | .idle,.fence command now =>
    (checkFence command).toOption.map fun _ =>
      (s,.raising ⟨command,now,s.fences command.attemptId,s.unguarded.length⟩)
  | .raising fencing,.raise =>
    if s.fences fencing.command.attemptId = fencing.found then
      let (next,fence) := fenceAgentAttempt fencing.command fencing.now (fencing.missed s) s
      some (next,afterFence fence)
    else none
  | .idle,.claimRevocations limit now attemptIds =>
    (claimDueRevocations limit now (policy.nextReconcileAt now 1) attemptIds s).map fun (s,claimed) =>
      (s,nextRevocation claimed)
  | .revoking fence attempts rest,.revoke known =>
    some (s,.revoked fence attempts (if known then .succeeded else .unknown) rest)
  | .revoked fence attempts target rest,.completeRevocation now =>
    some (completeRevocation policy fence target attempts now s,nextRevocation rest)
  | _,_ => none

-- Repositories and branches are bound elsewhere: any row may appear or change.
inductive DeliveryTransaction where
  | repository (row : WorkspaceRepository)
  | branch (row : RepositoryBranchBinding)

def commitDelivery (s : DeliveryStore) : DeliveryTransaction → Option DeliveryStore
  | .repository row => some {s with repositories := s.repositories.put row.id row}
  | .branch row => some {s with branches := s.branches.put row.id row}

abbrev DeliveryLabel := Label DeliveryTransaction DeliveryEvent
abbrev DeliverySystem := System DeliveryStore DeliveryWorker

def deliveryProgram (crypto : DeliveryCryptography) (policy : AgentDeliveryPolicy) :
    Program DeliveryStore DeliveryWorker DeliveryTransaction DeliveryEvent :=
  ⟨.idle,commitDelivery,deliveryStep crypto policy⟩

def deliveryInitial : DeliverySystem := ⟨.initial,fun _ => .idle⟩

-- The request a step asks the broker to push, and the one it asks to freeze.
def pushes (s : DeliverySystem) : DeliveryLabel → Option Uuid
  | .act worker (.push _ _) =>
    match s.workers worker with
    | .consumed row => some row.id
    | _ => none
  | _ => none

def freezes (s : DeliverySystem) : DeliveryLabel → Option Uuid
  | .act worker .freeze =>
    match s.workers worker with
    | .freezing task => some task.row.id
    | _ => none
  | _ => none

-- No request the fence missed is open and covered by it.
def unmissed (command : FenceCommand) (now : Time) (missed : List Uuid) (s : DeliveryStore) : Bool :=
  missed.all fun id =>
    !(s.requests id).any (openFor command.attemptId (upsertAttemptFence command now s).2.fencedGeneration)

-- No fence has come between the check of an authorization and its INSERT, and none
-- commits over an open request that its UPDATE has not seen.
def unraced (s : DeliveryStore) : DeliveryWorker → DeliveryEvent → Bool
  | .authorizing _ spec,.insert =>
    isLocallyFenced spec.attemptId spec.attemptGeneration s = false ∨
      (s.byIdempotency (spec.workspaceId,spec.idempotencyKey)).isSome = true
  | .raising fencing,.raise => unmissed fencing.command fencing.now (fencing.missed s) s
  | _,_ => true

end EngineeringPlatform.Delivery
