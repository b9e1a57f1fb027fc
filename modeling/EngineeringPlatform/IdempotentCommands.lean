import EngineeringPlatform.Idempotency
import EngineeringPlatform.Runs
namespace EngineeringPlatform.Idempotency
open Checked TransitionRuns

structure ResultMetadata where
  kind : String
  schemaVersion : Nat
  deriving DecidableEq

def replayMetadata : ResultMetadata := ⟨"http-response",1⟩

structure CommandRecord (κ : Type) where
  row : IdempotencyRow κ
  resultMetadata : Option ResultMetadata
  deriving DecidableEq

-- Both callers of the shared engine keep their own table; the agent's bridge
-- refuses a completed record without the shared metadata before anything else.
inductive Bridge where
  | shared
  | agent
  deriving DecidableEq

def Bridge.read (bridge : Bridge) (record : CommandRecord κ) :
    Except IdempotencyError (CommandRecord κ) := do
  require (bridge = .agent → record.row.state = .completed →
    record.resultMetadata = some replayMetadata) .replayUnavailable
  pure record

def replayRecord (sealing : Sealing β κ) (scope : Scope) (record : CommandRecord κ) :
    Except IdempotencyError (IdempotentResponse β) := do
  require (record.resultMetadata = some replayMetadata) .inProgress
  replay sealing id scope record.row

def completeRecord (record : CommandRecord κ) (id : Uuid) (status : Nat) (sealed : κ) (now : Time) :
    Option (CommandRecord κ) :=
  if record.row.id = id ∧ record.row.state = .inProgress then
    some ⟨completeRow record.row status sealed now,some replayMetadata⟩
  else none

-- A command reads the committed world and yields the writes it will commit with
-- its response, or raises.
structure Request (τ β ε : Type) where
  scope : Scope
  fingerprint : String
  command : τ → Except ε ((τ → τ) × IdempotentResponse β)

-- One call of execute_idempotent in its caller's transaction. What the
-- transaction wrote and did not commit yet is here, seen by nobody else.
inductive Call (τ β κ ε : Type) where
  | idle
  | started (request : Request τ β ε)
  | lost (request : Request τ β ε)
  | selected (request : Request τ β ε) (record : CommandRecord κ)
  | inserted (request : Request τ β ε) (record : CommandRecord κ)
  | claimed (request : Request τ β ε) (record : CommandRecord κ)
  | executed (request : Request τ β ε) (record : CommandRecord κ) (writes : τ → τ)
      (response : IdempotentResponse β)
  | completed (request : Request τ β ε) (record : CommandRecord κ) (writes : τ → τ)
      (response : IdempotentResponse β)

-- How a call ended: its body committed, a stored response or a refusal was its
-- answer, its command raised, or its transaction was lost.
inductive Answer (β : Type) where
  | committed (response : IdempotentResponse β)
  | replayed (response : IdempotentResponse β)
  | refused (error : IdempotencyError)
  | raised
  | aborted
  deriving DecidableEq

structure Event (β : Type) where
  scope : Scope
  fingerprint : String
  answer : Answer β
  deriving DecidableEq

-- `holder` is the lock on a scope: the unique index entry of an uncommitted
-- insert, or the row lock of SELECT … FOR UPDATE.
structure Database (τ β κ ε : Type) where
  world : τ
  rows : Table Scope (CommandRecord κ)
  holder : Table Scope Nat
  calls : Nat → Call τ β κ ε
  history : List (Event β)

inductive CallLabel (τ β ε : Type) where
  | begin (call : Nat) (request : Request τ β ε)
  | claim (call : Nat) (newId : Uuid) (now : Time)
  | select (call : Nat)
  | execute (call : Nat)
  | complete (call : Nat) (now : Time)
  | finish (call : Nat)
  | abort (call : Nat)
  | elsewhere (change : τ → τ)

variable {τ β κ ε : Type}

def Call.request : Call τ β κ ε → Option (Request τ β ε)
  | .idle => none
  | .started request | .lost request => some request
  | .selected request _ | .inserted request _ | .claimed request _ => some request
  | .executed request _ _ _ | .completed request _ _ _ => some request

def Database.initial (world : τ) : Database τ β κ ε :=
  ⟨world,.empty,.empty,fun _ => .idle,[]⟩

def Database.set (s : Database τ β κ ε) (call : Nat) (phase : Call τ β κ ε) : Database τ β κ ε :=
  {s with calls := Function.update s.calls call phase}

def Database.lock (s : Database τ β κ ε) (call : Nat) (scope : Scope) : Database τ β κ ε :=
  {s with holder := s.holder.put scope call}

-- The end of a transaction: its locks go, and so does what it did not commit.
def Database.leave (s : Database τ β κ ε) (call : Nat) (request : Request τ β ε) (answer : Answer β) :
    Database τ β κ ε :=
  {s with
    holder := fun scope => if s.holder scope = some call then none else s.holder scope,
    calls := Function.update s.calls call .idle,
    history := s.history ++ [⟨request.scope,request.fingerprint,answer⟩]}

def Database.commit (s : Database τ β κ ε) (request : Request τ β ε) (record : CommandRecord κ)
    (writes : τ → τ) : Database τ β κ ε :=
  {s with world := writes s.world, rows := s.rows.put request.scope record}

def claimRecord (request : Request τ β ε) (newId : Uuid) (now : Time) : CommandRecord κ :=
  ⟨claimRow newId request.fingerprint now,none⟩

variable (bridge : Bridge) (sealing : Sealing β κ)

def checkFingerprint (request : Request τ β ε) (record : CommandRecord κ) :
    Except IdempotencyError (CommandRecord κ) := do
  let record ← bridge.read record
  require (record.row.requestFingerprint = request.fingerprint) .conflict
  pure record

-- What a call that lost the insert answers from the row it locked.
def answerFrom (request : Request τ β ε) (record : CommandRecord κ) :
    Except IdempotencyError (IdempotentResponse β) := do
  let record ← checkFingerprint bridge request record
  replayRecord sealing request.scope record

def Database.answer (s : Database τ β κ ε) (call : Nat) (request : Request τ β ε)
    (outcome : Except IdempotencyError (IdempotentResponse β)) : Database τ β κ ε :=
  match outcome with
  | .ok response => s.leave call request (.replayed response)
  | .error error => s.leave call request (.refused error)

def Database.run (s : Database τ β κ ε) (call : Nat) (request : Request τ β ε) (record : CommandRecord κ) :
    Database τ β κ ε :=
  match request.command s.world with
  | .ok (writes,response) => s.set call (.executed request record writes response)
  | .error _ => s.leave call request .raised

def Database.complete (s : Database τ β κ ε) (call : Nat) (now : Time) (request : Request τ β ε)
    (record : CommandRecord κ) (writes : τ → τ) (response : IdempotentResponse β) : Database τ β κ ε :=
  match completeRecord record record.row.id response.statusCode
      (sealing.sealEnvelope ⟨request.scope,request.fingerprint,response⟩) now with
  | some record => s.set call (.completed request record writes response)
  | none => s.leave call request (.refused .replayUnavailable)

-- INSERT … ON CONFLICT DO NOTHING: at once when the row is committed, after the
-- holder's transaction has ended when it is not.
def Database.claim (s : Database τ β κ ε) (call : Nat) (newId : Uuid) (now : Time)
    (request : Request τ β ε) : Option (Database τ β κ ε) :=
  match s.rows request.scope with
  | some _ => some (s.set call (.lost request))
  | none =>
    if s.holder request.scope = none then
      some ((s.lock call request.scope).set call (.inserted request (claimRecord request newId now)))
    else none

def Database.select (s : Database τ β κ ε) (call : Nat) : Call τ β κ ε → Option (Database τ β κ ε)
  | .lost request =>
    match s.rows request.scope with
    | some record =>
      if s.holder request.scope = none then
        some ((s.lock call request.scope).set call (.selected request record))
      else none
    | none => some (s.leave call request (.refused .replayUnavailable))
  | .inserted request record =>
    match checkFingerprint bridge request record with
    | .ok record => some (s.set call (.claimed request record))
    | .error error => some (s.leave call request (.refused error))
  | _ => none

def Database.finish (s : Database τ β κ ε) (call : Nat) : Call τ β κ ε → Option (Database τ β κ ε)
  | .selected request record => some (s.answer call request (answerFrom bridge sealing request record))
  | .completed request record writes response =>
    some ((s.commit request record writes).leave call request (.committed response))
  | _ => none

def Database.step (s : Database τ β κ ε) : CallLabel τ β ε → Option (Database τ β κ ε)
  | .begin call request =>
    match s.calls call with
    | .idle => some (s.set call (.started request))
    | _ => none
  | .claim call newId now =>
    match s.calls call with
    | .started request => s.claim call newId now request
    | _ => none
  | .select call => s.select bridge call (s.calls call)
  | .execute call =>
    match s.calls call with
    | .claimed request record => some (s.run call request record)
    | _ => none
  | .complete call now =>
    match s.calls call with
    | .executed request record writes response =>
      some (s.complete sealing call now request record writes response)
    | _ => none
  | .finish call => s.finish bridge sealing call (s.calls call)
  | .abort call => (s.calls call).request.map fun request => s.leave call request .aborted
  | .elsewhere change => some {s with world := change s.world}

end EngineeringPlatform.Idempotency
