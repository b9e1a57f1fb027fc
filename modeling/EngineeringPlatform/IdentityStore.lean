import EngineeringPlatform.IdentityDomain
import EngineeringPlatform.IdentityPolicyUses
import EngineeringPlatform.KeyedRows
namespace EngineeringPlatform.Identity
open Checked PythonTime KeyedRows

inductive SessionKind where
  | bootstrap
  | full
  deriving DecidableEq

inductive BootstrapPurpose where
  | initialSetup
  | passwordReset
  | passwordExpired
  deriving DecidableEq

inductive ChallengePurpose where
  | loginTotp
  | superAdminAdd
  | superAdminRemove
  | policyPublish
  | policyRollback
  deriving DecidableEq

structure Session where
  id : Uuid
  tokenHash : String
  kind : SessionKind
  bootstrapPurpose : Option BootstrapPurpose
  createdAt : Instant
  lastSeenAt : Instant
  expiresHint : Instant
  revokedAt : Option Instant
  revokeReason : Option String
  bootstrapTotpAttemptCount : Nat
  deriving DecidableEq

-- `verifiedHash` is no column: it remembers the password hash that the login
-- behind the challenge has verified.
structure AuthChallenge where
  id : Uuid
  tokenHash : String
  purpose : ChallengePurpose
  actorId : Option Uuid
  issuedAt : Instant
  expiresAt : Instant
  attemptLimit : Int
  attemptCount : Int
  consumedAt : Option Instant
  revokedAt : Option Instant
  verifiedHash : Option String
  deriving DecidableEq

structure TempCredential where
  id : Uuid
  secretHash : String
  expiresAt : Instant
  consumedAt : Option Instant
  createdAt : Instant
  deriving DecidableEq

-- What happened to the second factor of an account: a new secret, or a time step
-- that was accepted for the current one.
inductive TotpEvent where
  | enrolled
  | accepted (step : Int)
  deriving DecidableEq

-- A row of identity.account with the rows of the other tables whose foreign key
-- names it. `totpHistory` and `sessionCap` are no columns: they remember what was
-- accepted and the cap at the last FULL session.
structure Account where
  id : Uuid
  employeeNo : String
  displayName : String
  profession : Option String
  status : AccountStatus
  passwordHash : Option String
  passwordSetAt : Option Instant
  totpSealed : Option String
  totpConfirmedAt : Option Instant
  totpLastStep : Option Int
  isSuperAdmin : Bool
  version : Nat
  sessions : List Session
  challenges : List AuthChallenge
  credentials : List TempCredential
  reauthAttempts : List String
  totpHistory : List TotpEvent
  sessionCap : Int
  deriving DecidableEq

structure BackoffScope where
  employeeNo : String
  source : String
  deriving DecidableEq

-- The clock and the effective policy are read, never written, by the commands.
structure Database where
  clock : Instant
  policy : EffectiveIdentityPolicy
  accounts : List Account
  backoffs : List (BackoffScope × LoginBackoff)
  deriving DecidableEq

namespace Account

def initialized (account : Account) : Bool :=
  account.passwordHash.isSome ∧ account.totpConfirmedAt.isSome

def effective (account : Account) : Bool :=
  account.isSuperAdmin = true ∧ account.status = .enabled ∧ account.initialized = true

def updatePassword (account : Account) (hash : String) (now : Instant) : Account :=
  {account with passwordHash := some hash, passwordSetAt := some now, version := account.version + 1}

def resetPasswordState (account : Account) : Account :=
  {account with
    passwordHash := none, passwordSetAt := none, status := .pendingInit, version := account.version + 1}

def resetTotpState (account : Account) : Account :=
  {account with
    totpSealed := none, totpConfirmedAt := none, totpLastStep := none, status := .pendingInit,
    version := account.version + 1}

def resetRecoveryState (account : Account) : Account :=
  {account with
    passwordHash := none, passwordSetAt := none, totpSealed := none, totpConfirmedAt := none,
    totpLastStep := none, status := .pendingInit, version := account.version + 1}

def updateTotpEnrollment (account : Account) (sealedSecret : String) : Account :=
  {account with
    totpSealed := some sealedSecret, totpConfirmedAt := none, totpLastStep := none,
    version := account.version + 1}

def confirmTotp (account : Account) (step : Int) (now : Instant) : Account :=
  {account with
    totpConfirmedAt := some now, totpLastStep := some step, status := .enabled, version := account.version + 1}

-- The UPDATE asks for a password and a confirmed factor, and changes nothing
-- without them.
def restorePasswordReset (account : Account) (step : Int) : Account :=
  if account.initialized then
    {account with totpLastStep := some step, status := .enabled, version := account.version + 1}
  else account

def stepFresh (account : Account) (step : Int) : Bool := account.totpLastStep.all (· < step)

def updateTotpStep (account : Account) (step : Int) : Account := {account with totpLastStep := some step}

def updateStatus (account : Account) (status : AccountStatus) : Account :=
  {account with status, version := account.version + 1}

def updateSuperAdmin (account : Account) (isSuperAdmin : Bool) : Account :=
  {account with isSuperAdmin, version := account.version + 1}

def remember (account : Account) (event : TotpEvent) : Account :=
  {account with totpHistory := account.totpHistory ++ [event]}

def session (account : Account) (tokenHash : String) : Option Session :=
  account.sessions.find? fun row => row.tokenHash = tokenHash

def challenge (account : Account) (tokenHash : String) : Option AuthChallenge :=
  account.challenges.find? fun row => row.tokenHash = tokenHash

def updateSessions (account : Account) (chosen : Session → Bool) (change : Session → Session) : Account :=
  {account with sessions := account.sessions.map fun row => if chosen row then change row else row}

def updateChallenges (account : Account) (id : Uuid) (change : AuthChallenge → AuthChallenge) : Account :=
  {account with challenges := account.challenges.map fun row => if row.id = id then change row else row}

end Account

def Session.live (row : Session) : Bool := row.revokedAt = none

def Session.revoke (row : Session) (now : Instant) (reason : String) : Session :=
  {row with revokedAt := some now, revokeReason := some reason}

def Session.liveFull (row : Session) : Bool := row.live = true ∧ row.kind = .full

-- ORDER BY created_at DESC, id DESC
def Session.newer (one two : Session) : Bool :=
  two.createdAt < one.createdAt ∨ (one.createdAt = two.createdAt ∧ two.id < one.id)

namespace Account

def revokeSessions (account : Account) (now : Instant) (reason : String) (exceptSessionId : Option Uuid) : Account :=
  account.updateSessions (fun row => row.live ∧ some row.id ≠ exceptSessionId) (·.revoke now reason)

def revokeSession (account : Account) (id : Uuid) (now : Instant) (reason : String) : Account :=
  account.updateSessions (fun row => row.id = id ∧ row.live = true) (·.revoke now reason)

def touchSession (account : Account) (id : Uuid) (now expiresHint : Instant) : Account :=
  account.updateSessions (fun row => row.id = id ∧ row.live = true) fun row =>
    {row with lastSeenAt := now, expiresHint}

def incrementBootstrapTotpAttempts (account : Account) (id : Uuid) : Account :=
  account.updateSessions (fun row => row.id = id ∧ row.kind = .bootstrap ∧ row.live = true) fun row =>
    {row with bootstrapTotpAttemptCount := row.bootstrapTotpAttemptCount + 1}

-- row_number() over the live FULL sessions, newest first
def newestRank (account : Account) (row : Session) : Nat :=
  (account.sessions.filter fun other => other.liveFull ∧ other.newer row = true).length + 1

def evictOldFullSessions (account : Account) (cap : Int) (now : Instant) : Account :=
  account.updateSessions (fun row => row.liveFull ∧ cap < account.newestRank row) (·.revoke now "SESSION_CAP")

def failChallenge (account : Account) (id : Uuid) (now : Instant) : Account :=
  account.updateChallenges id fun row =>
    if row.consumedAt = none ∧ row.revokedAt = none then
      {row with
        attemptCount := min (row.attemptCount + 1) row.attemptLimit,
        revokedAt := if row.attemptLimit ≤ row.attemptCount + 1 then some now else row.revokedAt}
    else row

def consumeChallenge (account : Account) (id : Uuid) (now : Instant) : Account :=
  account.updateChallenges id fun row => {row with consumedAt := some now}

def adminChallengeAttempts (account : Account) (actorId : Uuid) (purpose : ChallengePurpose) (notBefore : Instant) : Int :=
  ((account.challenges.filter fun row =>
    row.actorId = some actorId ∧ row.purpose = purpose ∧ notBefore ≤ row.issuedAt).map (·.attemptCount)).sum

def invalidateTempCredentials (account : Account) (now : Instant) : Account :=
  {account with credentials := account.credentials.map fun row =>
    if row.consumedAt = none ∧ now < row.expiresAt then {row with consumedAt := some now} else row}

-- The newest unconsumed credential that has not expired.
def activeTempCredential (account : Account) (now : Instant) : Option TempCredential :=
  account.credentials.foldl
    (fun newest row =>
      if row.consumedAt = none ∧ now < row.expiresAt then
        match newest with
        | none => some row
        | some other =>
          if other.createdAt < row.createdAt ∨ (other.createdAt = row.createdAt ∧ other.id < row.id) then some row
          else some other
      else newest)
    none

def consumeTempCredential (account : Account) (id : Uuid) (now : Instant) : Account :=
  {account with credentials := account.credentials.map fun row =>
    if row.id = id then {row with consumedAt := some now} else row}

end Account

namespace Database

def accountById (db : Database) (id : Uuid) : Option Account := find Account.id db.accounts id

def accountIdByEmployeeNo (db : Database) (employeeNo : String) : Option Uuid :=
  (db.accounts.find? fun account => account.employeeNo = employeeNo).map (·.id)

def sessionOwner (db : Database) (tokenHash : String) : Option Uuid :=
  (db.accounts.find? fun account => (account.session tokenHash).isSome).map (·.id)

def challengeOwner (db : Database) (tokenHash : String) : Option Uuid :=
  (db.accounts.find? fun account => (account.challenge tokenHash).isSome).map (·.id)

def effectiveSuperAdminsExcept (db : Database) (id : Uuid) : Nat :=
  (db.accounts.filter fun account => account.id ≠ id ∧ account.effective = true).length

def anySuperAdmin (db : Database) : Bool := db.accounts.any (·.isSuperAdmin)

def put (db : Database) (account : Account) : Database :=
  {db with accounts := update Account.id db.accounts account.id fun _ => account}

def insert (db : Database) (account : Account) : Database := {db with accounts := db.accounts ++ [account]}

def backoff (db : Database) (scope : BackoffScope) : Option LoginBackoff := (find (·.1) db.backoffs scope).map (·.2)

def saveBackoff (db : Database) (scope : BackoffScope) (row : LoginBackoff) : Database :=
  {db with backoffs := upsert (·.1) db.backoffs scope (scope,row) fun _ => (scope,row)}

-- The UNIQUE constraints that an insert can violate.
def sessionUnused (db : Database) (id : Uuid) (tokenHash : String) : Bool :=
  db.accounts.all fun account => account.sessions.all fun row => row.id ≠ id ∧ row.tokenHash ≠ tokenHash

def challengeUnused (db : Database) (id : Uuid) (tokenHash : String) : Bool :=
  db.accounts.all fun account => account.challenges.all fun row => row.id ≠ id ∧ row.tokenHash ≠ tokenHash

def credentialUnused (db : Database) (id : Uuid) : Bool :=
  db.accounts.all fun account => account.credentials.all fun row => row.id ≠ id

def accountUnused (db : Database) (id : Uuid) (employeeNo : String) : Bool :=
  db.accounts.all fun account => account.id ≠ id ∧ account.employeeNo ≠ employeeNo

end Database
end EngineeringPlatform.Identity
