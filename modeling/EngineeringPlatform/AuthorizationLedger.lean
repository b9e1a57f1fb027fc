import EngineeringPlatform.AuthorizationDomain
import EngineeringPlatform.Checked
import EngineeringPlatform.KeyedRows
import EngineeringPlatform.Runs
import Mathlib.Data.List.MinMax
import Mathlib.Data.Prod.Lex
namespace EngineeringPlatform.Authorization
open Checked KeyedRows TransitionRuns

inductive BumpCause where
  | work (id : Uuid)
  | grant (id : Uuid)
  deriving DecidableEq

structure Bump where
  accountId : String
  cause : BumpCause
  deriving DecidableEq

-- The authorization schema and what it sees of the source transactions. `bumps`
-- is the history of version increments; no transaction reads it.
structure Ledger where
  principals : List PrincipalVersion
  works : List ConvergenceWork
  pending : List PendingPrincipal
  grants : List Grant
  transactions : Table String TransactionStatus
  bumps : List Bump

def Ledger.empty : Ledger := ⟨[],[],[],[],.empty,[]⟩

def Ledger.principal (s : Ledger) (account : String) : Option PrincipalVersion :=
  find PrincipalVersion.accountId s.principals account

def Ledger.work (s : Ledger) (id : Uuid) : Option ConvergenceWork := find ConvergenceWork.id s.works id

def Ledger.grant (s : Ledger) (id : Uuid) : Option Grant := find Grant.id s.grants id

def Ledger.updateWork (s : Ledger) (id : Uuid) (change : ConvergenceWork → ConvergenceWork) : Ledger :=
  {s with works := update ConvergenceWork.id s.works id change}

def PrincipalVersion.bumped (row : PrincipalVersion) (now : Time) : PrincipalVersion :=
  {row with version := row.version + 1, updatedAt := now}

def PrincipalVersion.fenced (row : PrincipalVersion) (reason : String) (now : Time) : PrincipalVersion :=
  {row with
    fenceGeneration := row.fenceGeneration + 1, dirtyGeneration := some (row.fenceGeneration + 1),
    dirtyReason := some reason, updatedAt := now}

def bumpPrincipalVersion (account : String) (cause : BumpCause) (now : Time) (s : Ledger) : Ledger :=
  {s with
    principals := upsert PrincipalVersion.accountId s.principals account ⟨account,2,0,none,none,now⟩
      (·.bumped now),
    bumps := s.bumps ++ [⟨account,cause⟩]}

-- The generation this change holds of the account's fence.
def nextGeneration (s : Ledger) (account : String) : Nat :=
  (s.principal account).elim 1 (·.fenceGeneration + 1)

def markFence (account reason : String) (now : Time) (s : Ledger) : Ledger :=
  {s with
    principals := upsert PrincipalVersion.accountId s.principals account
      ⟨account,1,1,some 1,some reason,now⟩ (·.fenced reason now)}

def principalIds (s : Ledger) : List String :=
  sorted (s.principals.map (·.accountId) ++ s.grants.map (·.principalId))

def SecurityChangeSource.matches (source : SecurityChangeSource) (work : ConvergenceWork) : Bool :=
  match source.idempotencyClaimId with
  | some claim =>
    work.source.sourceModule = source.sourceModule ∧ work.source.idempotencyClaimId = some claim
  | none =>
    work.source.sourceModule = source.sourceModule ∧ work.source.actor = source.actor ∧
      work.source.operation = source.operation ∧ work.source.idempotencyKey = source.idempotencyKey

def convergenceWorkBySource (s : Ledger) (source : SecurityChangeSource) : Option ConvergenceWork :=
  (s.works.filter (source.matches ·)).argmax fun work => toLex (work.createdAt,work.id)

def markFences (reason : String) (now : Time) : List String → Ledger → Ledger × List (String × Nat)
  | [], s => (s,[])
  | account :: rest, s =>
    let (marked,generations) := markFences reason now rest (markFence account reason now s)
    (marked,(account,nextGeneration s account) :: generations)

structure SecurityChange where
  source : SecurityChangeSource
  reason : String
  accountIds : Option (List String)
  affectedAccountIds : List String
  affectedWorkspaceIds : List String
  recomputeMembership : Bool

def plannedWork (change : SecurityChange) (id : Uuid) (generations : List (String × Nat)) (now : Time) :
    ConvergenceWork :=
  ⟨id,change.source,strip change.reason,generations,strings change.affectedAccountIds,
    strings change.affectedWorkspaceIds,change.recomputeMembership,.pending,.sourceRegistered,now,now,
    none,none⟩

def ConvergenceWork.pendingRow (work : ConvergenceWork) (entry : String × Nat) : PendingPrincipal :=
  ⟨work.id,entry.1,entry.2,work.reason,work.createdAt⟩

def register (change : SecurityChange) (id : Uuid) (now : Time) (s : Ledger) : Ledger × ConvergenceWork :=
  let principals := (change.accountIds.map strings).getD (principalIds s)
  let (marked,generations) := markFences (strip change.reason) now principals s
  let work := plannedWork change id generations now
  ({marked with works := marked.works ++ [work], pending := marked.pending ++ generations.map work.pendingRow},
    work)

-- SecurityChangeOrchestrator.begin: a source that registered before gets its
-- existing work back.
def beginChange (change : SecurityChange) (id : Uuid) (now : Time) (s : Ledger) :
    Except AuthorizationError (Ledger × ConvergenceWork) := do
  require (strip change.reason ≠ "") .blankReason
  match convergenceWorkBySource s change.source with
  | some existing => pure (s,existing)
  | none =>
    require (s.work id = none) .duplicateKey
    pure (register change id now s)

-- ORDER BY generation DESC, work_id LIMIT 1
def remainingPending (pending : List PendingPrincipal) (account : String) : Option PendingPrincipal :=
  (pending.filter (·.accountId = account)).argmax fun row => toLex (row.generation,OrderDual.toDual row.workId)

def PrincipalVersion.settled (row : PrincipalVersion) (increment : Nat) (remaining : Option PendingPrincipal)
    (now : Time) : PrincipalVersion :=
  {row with
    version := row.version + increment, dirtyGeneration := remaining.map (·.generation),
    dirtyReason := remaining.map (·.reason), updatedAt := now}

def PendingPrincipal.isOf (workId : Uuid) (account : String) (row : PendingPrincipal) : Bool :=
  row.workId = workId ∧ row.accountId = account

def settle (workId : Uuid) (account : String) (bumpVersion : Bool) (now : Time) (s : Ledger) : Ledger :=
  let pending := s.pending.filter fun row => !row.isOf workId account
  {s with
    pending,
    principals := update PrincipalVersion.accountId s.principals account
      (·.settled (if bumpVersion then 1 else 0) (remainingPending pending account) now),
    bumps := if bumpVersion then s.bumps ++ [⟨account,.work workId⟩] else s.bumps}

-- Whether the association was still there decides whether anything changes.
def settlePendingPrincipal (workId : Uuid) (account : String) (bumpVersion : Bool) (now : Time) (s : Ledger) :
    Except AuthorizationError (Ledger × Bool) := do
  require ((s.principal account).isSome) .missingPrincipal
  pure (if s.pending.any (·.isOf workId account) then (settle workId account bumpVersion now s,true)
    else (s,false))

def settleAll (workId : Uuid) (bumpVersion : Bool) (now : Time) :
    List String → Ledger → Except AuthorizationError (Ledger × List String)
  | [], s => pure (s,[])
  | account :: rest, s => do
    let (s,updated) ← settlePendingPrincipal workId account bumpVersion now s
    let (s,converged) ← settleAll workId bumpVersion now rest s
    pure (s,if updated then account :: converged else converged)

def completeConvergenceWork (id : Uuid) (now : Time) (s : Ledger) : Ledger :=
  s.updateWork id fun work => if work.status = .pending then
    {work with status := .completed, phase := .done, completedAt := some now, updatedAt := now} else work

def cancelConvergenceWork (id : Uuid) (now : Time) (s : Ledger) : Ledger :=
  s.updateWork id fun work => if work.status = .pending then
    {work with status := .cancelled, phase := .cancelled, cancelledAt := some now, updatedAt := now} else work

def updateConvergencePhase (id : Uuid) (phase : ConvergencePhase) (now : Time) (s : Ledger) : Ledger :=
  s.updateWork id fun work => if work.status = .pending then {work with phase, updatedAt := now} else work

-- What a caller that knows more than the registered change hands to reconcile.
structure ConvergenceEffects where
  affectedAccountIds : Option (List String) := none
  affectedWorkspaceIds : Option (List String) := none
  recomputeMembership : Option Bool := none

def ConvergenceEffects.given (effects : ConvergenceEffects) : Bool :=
  effects.affectedAccountIds.isSome || effects.affectedWorkspaceIds.isSome || effects.recomputeMembership.isSome

def ConvergenceWork.withEffects (work : ConvergenceWork) (effects : ConvergenceEffects) (now : Time) :
    ConvergenceWork :=
  if effects.given then
    {work with
      affectedAccountIds := (effects.affectedAccountIds.map strings).getD work.affectedAccountIds,
      affectedWorkspaceIds := (effects.affectedWorkspaceIds.map strings).getD work.affectedWorkspaceIds,
      recomputeMembership := effects.recomputeMembership.getD work.recomputeMembership,
      updatedAt := now}
  else work

inductive Verdict where
  | wait
  | abandon
  | proceed
  deriving DecidableEq

def verdict (s : Ledger) (source : SecurityChangeSource) : Except AuthorizationError Verdict :=
  match source.sourceTransactionId with
  | none => pure (if source.legacy then .proceed else .wait)
  | some transaction =>
    match s.transactions transaction with
    | some .inProgress => pure .wait
    | some .aborted => pure .abandon
    | some .committed => pure .proceed
    | none => .error .unknownSourceStatus

-- The ledger, and the membership projection that a convergence recomputes in a
-- transaction of its own.
structure Converging (τ : Type) where
  ledger : Ledger
  membership : τ

variable {τ : Type} (recomputeMembership : Option (List String → τ → Except AuthorizationError τ))

def recompute (wanted : Bool) (accounts : List String) (membership : τ) : Except AuthorizationError τ :=
  if wanted then
    match recomputeMembership with
    | some run => run accounts membership
    | none => .error .membershipRecomputeUnavailable
  else pure membership

def converge (work : ConvergenceWork) (effects : ConvergenceEffects) (now : Time) (s : Converging τ) :
    Except AuthorizationError (Converging τ × List String) := do
  let effective := work.withEffects effects now
  let membership ← recompute recomputeMembership effective.recomputeMembership effective.affectedAccountIds
    s.membership
  let ledger := updateConvergencePhase work.id .versionPending now (s.ledger.updateWork work.id fun _ => effective)
  let (ledger,converged) ← settleAll work.id true now (sorted work.accounts) ledger
  pure (⟨completeConvergenceWork work.id now ledger,membership⟩,converged)

def abandon (work : ConvergenceWork) (now : Time) (ledger : Ledger) :
    Except AuthorizationError (Ledger × List String) := do
  let (ledger,cleared) ← settleAll work.id false now (sorted work.accounts) ledger
  pure (cancelConvergenceWork work.id now ledger,cleared)

def pendingWork (s : Ledger) (id : Uuid) : Option ConvergenceWork :=
  (s.work id).filter (·.status = .pending)

def judge (work : ConvergenceWork) (effects : ConvergenceEffects) (now : Time) (s : Converging τ) :
    Verdict → Except AuthorizationError (Converging τ × List String)
  | .wait => pure (s,[])
  | .abandon => do
    let (ledger,_) ← abandon work now s.ledger
    pure (⟨ledger,s.membership⟩,[])
  | .proceed => converge recomputeMembership work effects now s

def reconcileWork (id : Uuid) (effects : ConvergenceEffects) (now : Time) (s : Converging τ) :
    Except AuthorizationError (Converging τ × List String) :=
  match pendingWork s.ledger id with
  | none => pure (s,[])
  | some work => do
    let ruling ← verdict s.ledger work.source
    judge recomputeMembership work effects now s ruling

def cancel (id : Uuid) (now : Time) (s : Ledger) : Except AuthorizationError (Ledger × List String) :=
  match pendingWork s id with
  | none => pure (s,[])
  | some work => abandon work now s

structure GrantRequest where
  principalId : String
  capability : String
  scope : Scope
  source : String
  reason : String
  validFrom : Option Time
  validTo : Option Time

def GrantRequest.row (request : GrantRequest) (id : Uuid) (now : Time) : Grant :=
  ⟨id,strip request.principalId,strip request.capability,request.scope,strip request.source,request.validFrom,
    request.validTo,.active,1,now,now,none,none,none⟩

def grant (request : GrantRequest) (id : Uuid) (now : Time) (s : Ledger) :
    Except AuthorizationError (Ledger × Grant) := do
  require (strip request.principalId ≠ "" ∧ strip request.capability ≠ "" ∧ strip request.source ≠ "" ∧
    strip request.reason ≠ "") .invalidGrant
  require (∀ start ∈ request.validFrom, ∀ stop ∈ request.validTo, start < stop) .invalidGrant
  require (s.grant id = none) .duplicateKey
  let row := request.row id now
  pure (bumpPrincipalVersion row.principalId (.grant id) now {s with grants := s.grants ++ [row]},row)

def Grant.revoked (row : Grant) (actor reason : String) (now : Time) : Grant :=
  {row with
    status := .revoked, version := row.version + 1, updatedAt := now, revokedAt := some now,
    revokedBy := some actor, revokeReason := some reason}

def revoke (id : Uuid) (expectedVersion : Nat) (actor reason : String) (now : Time) (s : Ledger) :
    Except AuthorizationError (Ledger × Grant) := do
  require (strip reason ≠ "") .invalidGrant
  let row ← orRaise (s.grant id) .grantNotFound
  require (row.version = expectedVersion ∧ row.status = .active) .staleGrantVersion
  let updated := row.revoked actor (strip reason) now
  pure (bumpPrincipalVersion row.principalId (.grant id) now
    {s with grants := update Grant.id s.grants id fun _ => updated},updated)

inductive LedgerLabel (τ : Type) where
  | begin (change : SecurityChange) (id : Uuid) (now : Time)
  | reconcile (id : Uuid) (effects : ConvergenceEffects) (now : Time)
  | cancel (id : Uuid) (now : Time)
  | grant (request : GrantRequest) (id : Uuid) (now : Time)
  | revoke (id : Uuid) (expectedVersion : Nat) (actor reason : String) (now : Time)
  | start (transaction : String)
  | resolve (transaction : String) (status : TransactionStatus)
  | elsewhere (change : τ → τ)

def startTransaction (transaction : String) (s : Ledger) : Option Ledger :=
  if s.transactions transaction = none then
    some {s with transactions := s.transactions.put transaction .inProgress}
  else none

-- A source transaction ends once.
def resolveTransaction (transaction : String) (status : TransactionStatus) (s : Ledger) : Option Ledger :=
  if s.transactions transaction = some .inProgress then
    some {s with transactions := s.transactions.put transaction status}
  else none

def ledgerStep (s : Converging τ) : LedgerLabel τ → Option (Converging τ)
  | .begin change id now => (committed (beginChange change id now s.ledger)).map fun ledger => ⟨ledger,s.membership⟩
  | .reconcile id effects now => committed (reconcileWork recomputeMembership id effects now s)
  | .cancel id now => (committed (cancel id now s.ledger)).map fun ledger => ⟨ledger,s.membership⟩
  | .grant request id now => (committed (grant request id now s.ledger)).map fun ledger => ⟨ledger,s.membership⟩
  | .revoke id expectedVersion actor reason now =>
    (committed (revoke id expectedVersion actor reason now s.ledger)).map fun ledger => ⟨ledger,s.membership⟩
  | .start transaction => (startTransaction transaction s.ledger).map fun ledger => ⟨ledger,s.membership⟩
  | .resolve transaction status =>
    (resolveTransaction transaction status s.ledger).map fun ledger => ⟨ledger,s.membership⟩
  | .elsewhere change => some ⟨s.ledger,change s.membership⟩

end EngineeringPlatform.Authorization
