import EngineeringPlatform.IdentityAuth
namespace EngineeringPlatform.Identity
open Checked PythonTime

inductive SuperAdminOperation where
  | add
  | remove
  | policyPublish
  | policyRollback
  deriving DecidableEq

def SuperAdminOperation.purpose : SuperAdminOperation → ChallengePurpose
  | .add => .superAdminAdd
  | .remove => .superAdminRemove
  | .policyPublish => .policyPublish
  | .policyRollback => .policyRollback

def recoveryScope : String := "SUPER_ADMIN_AUTHENTICATION"

def bootstrapSuperAdmin (security : Security) (id : Uuid) (employeeNo displayName : String) (fresh : FreshRow)
    (salt : String) (anySuperAdmin : Bool) (reading : Reading) (db : Database) :
    Except IdentityError (Database × Response) := do
  require (anySuperAdmin = false) .superAdminBootstrapConflict
  let (db,account) ← createAccount security id employeeNo displayName none fresh salt reading db
  let account := account.updateSuperAdmin true
  pure (db.put account,.temporaryPassword account.id fresh.rawToken)

-- Refusals are answers: the transaction around them commits what it counted.
def issueSuperAdminChallenge (security : Security) (db : Database) (account : Account) (operation : SuperAdminOperation)
    (fresh : FreshRow) (reading : Reading) : Except IdentityError (Except IdentityError Account) := do
  if account.effective = false then pure (.error .superAdminPermissionDenied)
  else
    -- The source subtracts five minutes from a clock of this century.
    let attempts := account.adminChallengeAttempts account.id operation.purpose (reading.now - challengeTtl)
    if reading.policy.totpAttemptCap ≤ attempts then pure (.error .totpChallengeFailed)
    else
      let account ← insertChallenge security db account fresh operation.purpose (some account.id) none reading
      pure (.ok account)

-- The account after the challenge was answered, and whether it was verified.
def consumeSuperAdminChallenge (security : Security) (account : Account) (operation : SuperAdminOperation)
    (challengeHash code : String) (started verified : Reading) : Except IdentityError (Account × Bool) := do
  match account.challenge challengeHash with
  | none => pure (account,false)
  | some challenge =>
    let active : Bool := challenge.actorId = some account.id ∧ challenge.purpose = operation.purpose ∧
      challengeActive challenge started.now = true ∧ account.effective = true
    match ← answeredStep security account active code verified.now with
    | none => pure (account.failChallenge challenge.id started.now,false)
    | some step =>
      if ¬account.stepFresh step then pure (account.failChallenge challenge.id started.now,false)
      else
        let account := (account.updateTotpStep step).remember (.accepted step)
        pure (account.consumeChallenge challenge.id started.now,true)

-- Issuing and answering a challenge in one transaction, as both routes do.
def verifyAdminTotp (security : Security) (operation : SuperAdminOperation) (code : String) (fresh : FreshRow)
    (issued started verified : Reading) (db : Database) (account : Account) :
    Except IdentityError (Account × Except IdentityError Unit) := do
  match ← issueSuperAdminChallenge security db account operation fresh issued with
  | .error refused => pure (account,.error refused)
  | .ok account =>
    let (account,passed) ← consumeSuperAdminChallenge security account operation
      (security.tokenHash fresh.rawToken) code started verified
    pure (account,if passed then .ok () else .error .totpChallengeFailed)

-- The second factor of a policy command. What a refusal counted is kept.
def verifyPolicyTotp (security : Security) (operation : SuperAdminOperation) (code : String) (fresh : FreshRow)
    (issued started verified : Reading) (db : Database) (account : Account) :
    Except IdentityError (Account × Response) := do
  let (account,outcome) ← verifyAdminTotp security operation code fresh issued started verified db account
  match outcome with
  | .ok _ => pure (account,.verified account.id)
  | .error refused => pure (account,.denied refused)

def changeTarget (desired : Bool) (expectedVersion : Nat) (others : Nat) (reading : Reading) (target : Account) :
    Except IdentityError Account := do
  require (target.version = expectedVersion) .staleAccountVersion
  require (target.isSuperAdmin ≠ desired) .superAdminConflict
  require (desired = true → target.status = .enabled ∧ target.initialized = true) .superAdminConflict
  if desired = false then ensureEffectiveSuperAdminRemains target others
  let reason := if desired then "SUPER_ADMIN_ADD" else "SUPER_ADMIN_REMOVE"
  pure ((target.updateSuperAdmin desired).revokeSessions reading.now reason none)

structure SuperAdminChange where
  desired : Bool
  actorId : Uuid
  targetId : Uuid
  code : String
  reason : String
  expectedVersion : Nat
  deriving DecidableEq

def SuperAdminChange.operation (change : SuperAdminChange) : SuperAdminOperation :=
  if change.desired then .add else .remove

-- The request that adds or removes a Super Admin. The factor is consumed, and the
-- failed attempt counted, also when the change itself is denied.
def changeSuperAdmin (security : Security) (change : SuperAdminChange) (target : Option Uuid) (fresh : FreshRow)
    (others : Nat) (issued started verified changed : Reading) (db : Database) : Except IdentityError (Database × Response) := do
  match db.accountById change.actorId with
  | none => pure (db,.denied .superAdminPermissionDenied)
  | some actor =>
    let (actor,outcome) ← verifyAdminTotp security change.operation change.code fresh issued started verified db actor
    require (blank change.reason = false) (.invalidValue "reason must not be blank")
    let db := db.put actor
    match outcome with
    | .error refused => pure (db,.denied refused)
    | .ok _ =>
      match target.bind db.accountById with
      | none => pure (db,.denied .accountNotFound)
      | some target =>
        match changeTarget change.desired change.expectedVersion others changed target with
        | .error refused => pure (db,.denied refused)
        | .ok target => pure (db.put target,.account target.id target.version)

-- The reauthentication of a policy command: a FULL session of the Super Admin and
-- a fresh code, once for each attempt.
def consumePolicyReauthentication (security : Security) (sessionHash code attemptId : String)
    (operation : SuperAdminOperation) (fresh : FreshRow) (opened issued started verified : Reading) (db : Database)
    (account : Account) : Except IdentityError (Account × Response) := do
  let (account,response) ← validateSession sessionHash false false opened db account
  match response with
  | .principal principal =>
    if principal.sessionKind ≠ .full ∨ principal.isSuperAdmin = false then
      pure (account,.denied .policyReauthenticationDenied)
    else if account.reauthAttempts.contains attemptId then pure (account,.denied .policyReauthenticationDenied)
    else
      let (account,outcome) ← verifyAdminTotp security operation code fresh issued started verified db account
      match outcome with
      | .error _ => pure (account,.denied .policyReauthenticationDenied)
      | .ok _ => pure ({account with reauthAttempts := account.reauthAttempts ++ [attemptId]},.verified account.id)
  | _ => pure (account,.denied .policyReauthenticationDenied)

structure Recovery where
  employeeNo : String
  reason : String
  scope : String
  expiresAt : Instant
  aware : Bool
  credentialsLost : Bool
  deriving DecidableEq

def recoverSuperAdmin (security : Security) (recovery : Recovery) (fresh : FreshRow) (salt : String) (others : Nat)
    (started : Reading) (db : Database) (account : Account) : Except IdentityError (Account × Response) := do
  require (blank recovery.reason = false) (.superAdminRecoveryDenied "INVALID_REASON")
  require (recovery.scope = recoveryScope) (.superAdminRecoveryDenied "INVALID_SCOPE")
  require (recovery.aware = true ∧ started.now < recovery.expiresAt) (.superAdminRecoveryDenied "INVALID_EXPIRY")
  let latest ← policyOk (tempCredentialExpiry started.policy started.now)
  require (recovery.expiresAt ≤ latest) (.superAdminRecoveryDenied "INVALID_EXPIRY")
  require (account.isSuperAdmin = true) (.superAdminRecoveryDenied "TARGET_NOT_SUPER_ADMIN")
  require (account.status = .disabled ∨ recovery.credentialsLost = true)
    (.superAdminRecoveryDenied "TARGET_STILL_USABLE")
  require (recovery.credentialsLost = true ∨ others = 0)
    (.superAdminRecoveryDenied "OTHER_SUPER_ADMIN_AUTHENTICATING")
  let account ← issueTemp security db account fresh salt (some recovery.expiresAt) started
  let account := account.resetRecoveryState.revokeSessions started.now "SUPER_ADMIN_RECOVERY" none
  pure (account,.temporaryPassword account.id fresh.rawToken)

end EngineeringPlatform.Identity
