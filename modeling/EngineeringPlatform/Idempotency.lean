import EngineeringPlatform.Checked
import EngineeringPlatform.Platform
import EngineeringPlatform.Table
namespace EngineeringPlatform.Idempotency
open Checked

structure Scope where
  actor : String
  operation : String
  key : String
  deriving DecidableEq

inductive IdempotencyState where
  | inProgress
  | completed
  deriving DecidableEq

structure CookieReplay where
  set : Bool
  value : Option String
  deriving DecidableEq

structure IdempotentResponse (β : Type) where
  statusCode : Nat
  body : β
  headers : List (String × String) := []
  cookie : Option CookieReplay := none
  isProblem : Bool := false
  deriving DecidableEq

structure SealedIdempotentEnvelope (β : Type) where
  scope : Scope
  requestFingerprint : String
  response : IdempotentResponse β

structure IdempotencyRow (κ : Type) where
  id : Uuid
  requestFingerprint : String
  state : IdempotencyState
  httpStatus : Option Nat
  sealedResponse : Option κ
  createdAt : Time
  updatedAt : Time
  completedAt : Option Time
  deriving DecidableEq

inductive IdempotencyError where
  | conflict
  | inProgress
  | replayUnavailable
  deriving DecidableEq

-- Authenticated encryption under the platform's sealing key. What the code
-- relies on is that a value it sealed opens to itself; see `Faithful`.
structure Sealing (β κ : Type) where
  sealEnvelope : SealedIdempotentEnvelope β → κ
  unsealEnvelope : κ → Option (SealedIdempotentEnvelope β)

def Sealing.Faithful (sealing : Sealing β κ) : Prop :=
  ∀ envelope, sealing.unsealEnvelope (sealing.sealEnvelope envelope) = some envelope

-- Where a caller keeps the idempotency table inside its own store.
structure Repository (σ κ : Type) where
  rows : σ → Table Scope (IdempotencyRow κ)
  store : σ → Table Scope (IdempotencyRow κ) → σ

variable {σ β κ ε : Type} (repository : Repository σ κ) (sealing : Sealing β κ)
  (raise : IdempotencyError → ε)

def replay (scope : Scope) (row : IdempotencyRow κ) : Except ε (IdempotentResponse β) := do
  require (row.state = .completed) (raise .inProgress)
  let sealed ← orRaise row.sealedResponse (raise .inProgress)
  let envelope ← orRaise (sealing.unsealEnvelope sealed) (raise .replayUnavailable)
  require (envelope.scope = scope ∧ envelope.requestFingerprint = row.requestFingerprint ∧
    some envelope.response.statusCode = row.httpStatus) (raise .replayUnavailable)
  pure envelope.response

def claimRow (id : Uuid) (fingerprint : String) (now : Time) : IdempotencyRow κ :=
  ⟨id,fingerprint,.inProgress,none,none,now,now,none⟩

def completeRow (row : IdempotencyRow κ) (status : Nat) (sealed : κ) (now : Time) : IdempotencyRow κ :=
  {row with state := .completed, httpStatus := some status, sealedResponse := some sealed,
            updatedAt := now, completedAt := some now}

-- UPDATE … WHERE id AND state='IN_PROGRESS'
def completeIdempotency (scope : Scope) (id : Uuid) (status : Nat) (sealed : κ) (now : Time)
    (s : σ) : Option σ :=
  match repository.rows s scope with
  | some row =>
    if row.id = id ∧ row.state = .inProgress then
      some (repository.store s ((repository.rows s).put scope (completeRow row status sealed now)))
    else none
  | none => none

-- Claim, execute, seal and complete one command in its caller's transaction.
def executeIdempotent (scope : Scope) (fingerprint : String) (newId : Uuid) (now : Time)
    (command : σ → Except ε (σ × IdempotentResponse β)) (s : σ) :
    Except ε (σ × IdempotentResponse β) :=
  match repository.rows s scope with
  | some row => do
    require (row.requestFingerprint = fingerprint) (raise .conflict)
    let response ← replay sealing raise scope row
    pure (s,response)
  | none => do
    let claimed := repository.store s ((repository.rows s).put scope (claimRow newId fingerprint now))
    let (after,response) ← command claimed
    let sealed := sealing.sealEnvelope ⟨scope,fingerprint,response⟩
    let final ← orRaise (completeIdempotency repository scope newId response.statusCode sealed now after)
      (raise .replayUnavailable)
    pure (final,response)

theorem completeIdempotency_some {scope : Scope} {id : Uuid}
    (done : completeIdempotency repository scope id status sealed now s = some next) :
    ∃ row, repository.rows s scope = some row ∧ row.id = id ∧ row.state = .inProgress ∧
      next = repository.store s ((repository.rows s).put scope (completeRow row status sealed now)) := by
  unfold completeIdempotency at done
  split at done
  · rename_i row found
    split at done
    · rename_i held
      cases Option.some.inj done
      exact ⟨row,found,held.1,held.2,rfl⟩
    · cases done
  · cases done

-- Either the stored response is replayed and nothing is written, or the command
-- ran once between its claim and its completion.
theorem executeIdempotent_ok {scope : Scope} {fingerprint : String} {newId now : Nat}
    {command : σ → Except ε (σ × IdempotentResponse β)}
    (ran : executeIdempotent repository sealing raise scope fingerprint newId now command s =
      .ok (next,response)) :
    (next = s ∧ ∃ row, repository.rows s scope = some row ∧ row.requestFingerprint = fingerprint ∧
        replay sealing raise scope row = .ok response) ∨
    (repository.rows s scope = none ∧ ∃ after,
        command (repository.store s ((repository.rows s).put scope (claimRow newId fingerprint now))) =
          .ok (after,response) ∧
        completeIdempotency repository scope newId response.statusCode
          (sealing.sealEnvelope ⟨scope,fingerprint,response⟩) now after = some next) := by
  unfold executeIdempotent at ran
  split at ran
  · rename_i row found
    obtain ⟨same,ran⟩ := require_bind_ok.mp ran
    obtain ⟨response',replayed,ran⟩ := bind_ok.mp ran
    cases pure_ok.mp ran
    exact .inl ⟨rfl,row,found,same,replayed⟩
  · rename_i absent
    obtain ⟨⟨after,response'⟩,commanded,ran⟩ := bind_ok.mp ran
    obtain ⟨final,completed,ran⟩ := orRaise_bind_ok.mp ran
    cases pure_ok.mp ran
    exact .inr ⟨absent,after,commanded,completed⟩

end EngineeringPlatform.Idempotency
