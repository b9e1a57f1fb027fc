import EngineeringPlatform.Platform
import Mathlib.Data.List.Dedup
import Mathlib.Data.List.Sort
namespace EngineeringPlatform.Authorization

inductive AuthorizationError where
  | blankReason
  | invalidGrant
  | grantNotFound
  | staleGrantVersion
  | duplicateKey
  | missingPrincipal
  | unknownSourceStatus
  | membershipRecomputeUnavailable
  | membershipRecomputeFailed
  deriving DecidableEq

inductive Scope where
  | platform
  | workspace (id : String)
  deriving DecidableEq

inductive GrantStatus where
  | active
  | revoked
  deriving DecidableEq

structure Grant where
  id : Uuid
  principalId : String
  capability : String
  scope : Scope
  source : String
  validFrom : Option Time
  validTo : Option Time
  status : GrantStatus
  version : Nat
  createdAt : Time
  updatedAt : Time
  revokedAt : Option Time
  revokedBy : Option String
  revokeReason : Option String
  deriving DecidableEq

structure PrincipalVersion where
  accountId : String
  version : Nat
  fenceGeneration : Nat
  dirtyGeneration : Option Nat
  dirtyReason : Option String
  updatedAt : Time
  deriving DecidableEq

-- A source that names its claim names the request's fingerprint too.
structure SecurityChangeSource where
  sourceModule : String
  actor : String
  operation : String
  idempotencyKey : String
  sourceTransactionId : Option String
  requestFingerprint : Option String
  idempotencyClaimId : Option Uuid
  named : blank sourceModule = false ∧ blank actor = false ∧ blank operation = false ∧
    blank idempotencyKey = false
  bound : requestFingerprint.isNone = idempotencyClaimId.isNone
  fingerprinted : requestFingerprint.all (blank · = false)
  deriving DecidableEq

inductive ConvergenceStatus where
  | pending
  | completed
  | cancelled
  deriving DecidableEq

inductive ConvergencePhase where
  | sourceRegistered
  | recomputePending
  | versionPending
  | done
  | cancelled
  deriving DecidableEq

structure ConvergenceWork where
  id : Uuid
  source : SecurityChangeSource
  reason : String
  generationMap : List (String × Nat)
  affectedAccountIds : List String
  affectedWorkspaceIds : List String
  recomputeMembership : Bool
  status : ConvergenceStatus
  phase : ConvergencePhase
  createdAt : Time
  updatedAt : Time
  completedAt : Option Time
  cancelledAt : Option Time
  deriving DecidableEq

structure PendingPrincipal where
  workId : Uuid
  accountId : String
  generation : Nat
  reason : String
  createdAt : Time
  deriving DecidableEq

-- pg_xact_status of a source transaction.
inductive TransactionStatus where
  | inProgress
  | committed
  | aborted
  deriving DecidableEq

def sorted (values : List String) : List String := values.dedup.insertionSort (· ≤ ·)

-- sorted({value.strip() for value in values if value.strip()})
def strings (values : List String) : List String :=
  sorted ((values.map strip).filter (· ≠ ""))

theorem sorted_nodup (values : List String) : (sorted values).Nodup :=
  (List.perm_insertionSort _ _).nodup_iff.mpr values.nodup_dedup

theorem mem_sorted {values : List String} : value ∈ sorted values ↔ value ∈ values := by
  unfold sorted
  rw [(List.perm_insertionSort _ _).mem_iff,List.mem_dedup]

def ConvergenceWork.accounts (work : ConvergenceWork) : List String := work.generationMap.map (·.1)

-- A legacy source has no transaction to wait for.
def SecurityChangeSource.legacy (source : SecurityChangeSource) : Bool := source.sourceModule = "legacy"

end EngineeringPlatform.Authorization
