import EngineeringPlatform.IdentityStore
namespace EngineeringPlatform.Identity
open Checked PythonTime

inductive IdentityError where
  | accountConflict
  | accountNotFound
  | staleAccountVersion
  | invalidAccountTransition
  | lastEffectiveSuperAdmin
  | authenticationFailed
  | passwordFloorViolation (violations : List String)
  | superAdminBootstrapConflict
  | superAdminConflict
  | superAdminPermissionDenied
  | superAdminRecoveryDenied (code : String)
  | totpChallengeFailed
  | policyReauthenticationDenied
  | invalidValue (text : String)
  | integrity
  | unsealable
  | policy (failure : PolicyFailure)
  deriving DecidableEq

-- What the platform's own security helpers compute. Hashing takes a salt; a secret
-- that is not base32 has no codes.
structure Security where
  tokenHash : String → String
  hashPassword : String → String → String
  verifyPassword : String → String → Bool
  passwordFloor : String → List String → List String
  sealSecret : String → String
  unsealSecret : String → Option String
  codeAt : String → Int → Option String

structure SessionPrincipal where
  accountId : Uuid
  employeeNo : String
  displayName : String
  sessionKind : SessionKind
  bootstrapPurpose : Option BootstrapPurpose
  isSuperAdmin : Bool
  sessionReference : Uuid
  accountVersion : Nat
  deriving DecidableEq

inductive Response where
  | account (id : Uuid) (version : Nat)
  | temporaryPassword (accountId : Uuid) (secret : String)
  | issued (accountId sessionId : Uuid) (kind : SessionKind) (purpose : Option BootstrapPurpose)
  | challenge (accountId : Uuid) (rawToken : String)
  | passwordSet
  | enrolled (secret : String)
  | principal (principal : SessionPrincipal)
  | invalid
  | loggedOut (revoked : Bool)
  | verified (accountId : Uuid)
  | bootstrapDenial
  | invalidCredentials
  | backoffActive (retryAfterSeconds : Int)
  | invalidChallenge (retryAllowed : Bool)
  | denied (error : IdentityError)
  deriving DecidableEq

-- One reading of the clock and of the effective policy.
structure Reading where
  now : Instant
  policy : EffectiveIdentityPolicy
  deriving DecidableEq

-- The random values of one command.
structure FreshRow where
  id : Uuid
  rawToken : String
  deriving DecidableEq

def policyOk {α : Type} : Except PolicyFailure α → Except IdentityError α
  | .ok value => .ok value
  | .error failure => .error (.policy failure)

def ensureAccountTransitionAllowed (account : Account) (target : AccountStatus) : Except IdentityError Unit := do
  require (target ≠ account.status ∧ target ≠ .pendingInit) .invalidAccountTransition
  require (target = .enabled → account.status ≠ .pendingInit ∧ account.initialized = true)
    .invalidAccountTransition

def ensureEffectiveSuperAdminRemains (account : Account) (otherEffectiveSuperAdmins : Nat) :
    Except IdentityError Unit :=
  require (account.effective = true → otherEffectiveSuperAdmins ≠ 0) .lastEffectiveSuperAdmin

-- A command of one account, given the database it commits to.
def onAccount (id : Uuid) (command : Database → Account → Except IdentityError (Account × Response))
    (db : Database) : Except IdentityError (Database × Response) := do
  let account ← orRaise (db.accountById id) .accountNotFound
  let (account,response) ← command db account
  pure (db.put account,response)

-- The instant a caller asks for, or the lifetime of the policy.
def temporaryExpiry (expiresAt : Option Instant) (reading : Reading) : Except IdentityError Instant :=
  match expiresAt with
  | some instant => pure instant
  | none => policyOk (tempCredentialExpiry reading.policy reading.now)

def issueTemp (security : Security) (db : Database) (account : Account) (fresh : FreshRow) (salt : String)
    (expiresAt : Option Instant) (reading : Reading) : Except IdentityError Account := do
  let expiry ← temporaryExpiry expiresAt reading
  require (db.credentialUnused fresh.id = true) .integrity
  let account := account.invalidateTempCredentials reading.now
  pure {account with credentials := account.credentials ++
    [⟨fresh.id,security.hashPassword fresh.rawToken salt,expiry,none,reading.now⟩]}

def freshAccount (id : Uuid) (employeeNo displayName : String) (profession : Option String) : Account :=
  ⟨id,employeeNo,displayName,profession,.pendingInit,none,none,none,none,none,false,1,[],[],[],[],[],0⟩

def validEmployeeNo (employeeNo : String) : Bool :=
  employeeNo.length = 8 ∧ employeeNo.toList.all Char.isDigit

def createAccount (security : Security) (id : Uuid) (employeeNo displayName : String) (profession : Option String)
    (fresh : FreshRow) (salt : String) (reading : Reading) (db : Database) :
    Except IdentityError (Database × Account) := do
  require (validEmployeeNo employeeNo = true) (.invalidValue "employee number must be an eight-digit string")
  require (db.accountUnused id employeeNo = true) .accountConflict
  let account ← issueTemp security db (freshAccount id employeeNo displayName profession) fresh salt none reading
  pure (db.insert account,account)

def issueTempPassword (security : Security) (expectedVersion : Option Nat) (fresh : FreshRow) (salt : String)
    (others : Nat) (reading : Reading) (db : Database) (account : Account) :
    Except IdentityError (Account × Response) := do
  require (expectedVersion.all (· = account.version) = true) .staleAccountVersion
  ensureEffectiveSuperAdminRemains account others
  let account ← issueTemp security db account fresh salt none reading
  let account := account.resetPasswordState.revokeSessions reading.now "PASSWORD_RESET" none
  pure (account,.temporaryPassword account.id fresh.rawToken)

def resetTotp (expectedVersion : Nat) (others : Nat) (reading : Reading) (_db : Database) (account : Account) :
    Except IdentityError (Account × Response) := do
  require (account.version = expectedVersion) .staleAccountVersion
  ensureEffectiveSuperAdminRemains account others
  let account := account.resetTotpState.revokeSessions reading.now "TOTP_RESET" none
  pure (account,.account account.id account.version)

def statusReason : AccountStatus → String
  | .pendingInit => "ACCOUNT_PENDING_INIT"
  | .enabled => "ACCOUNT_ENABLED"
  | .disabled => "ACCOUNT_DISABLED"
  | .restricted => "ACCOUNT_RESTRICTED"

def setAccountStatus (status : AccountStatus) (expectedVersion : Nat) (others : Nat) (reading : Reading)
    (_db : Database) (account : Account) : Except IdentityError (Account × Response) := do
  require (account.version = expectedVersion) .staleAccountVersion
  ensureAccountTransitionAllowed account status
  if status = .enabled then
    let account := account.updateStatus status
    pure (account,.account account.id account.version)
  else
    ensureEffectiveSuperAdminRemains account others
    let account := (account.updateStatus status).revokeSessions reading.now (statusReason status) none
    pure (account,.account account.id account.version)

def issueSession (security : Security) (db : Database) (account : Account) (fresh : FreshRow) (kind : SessionKind)
    (purpose : Option BootstrapPurpose) (now : Instant) : Except IdentityError (Account × Response) := do
  let expiresHint ← policyOk (Identity.advance now (365 * day))
  require (db.sessionUnused fresh.id (security.tokenHash fresh.rawToken) = true) .integrity
  let session : Session :=
    ⟨fresh.id,security.tokenHash fresh.rawToken,kind,purpose,now,now,expiresHint,none,none,0⟩
  pure ({account with sessions := account.sessions ++ [session]},.issued account.id fresh.id kind purpose)

-- The newest credential, when the password is the one it was issued for.
def consumeTempPassword (security : Security) (db : Database) (account : Account) (tempPassword : String)
    (fresh : FreshRow) (consumed issued : Instant) : Except IdentityError (Option (Account × Response)) := do
  match account.activeTempCredential consumed with
  | none => pure none
  | some credential =>
    if security.verifyPassword tempPassword credential.secretHash then
      let account := account.consumeTempCredential credential.id consumed
      let purpose := if account.totpConfirmedAt.isSome then .passwordReset else .initialSetup
      let result ← issueSession security db account fresh .bootstrap (some purpose) issued
      pure (some result)
    else pure none

def allowed (account : Account) (session : Session) : Bool :=
  (session.kind = .bootstrap ∧ (account.status = .pendingInit ∨ account.status = .enabled)) ∨
    (session.kind = .full ∧ account.status = .enabled ∧ account.initialized = true)

def sessionPrincipal (account : Account) (session : Session) : SessionPrincipal :=
  ⟨account.id,account.employeeNo,account.displayName,session.kind,session.bootstrapPurpose,account.isSuperAdmin,
    session.id,account.version⟩

def validateSession (tokenHash : String) (touchActivity readOnly : Bool) (reading : Reading) (_db : Database)
    (account : Account) : Except IdentityError (Account × Response) := do
  match account.session tokenHash with
  | none => pure (account,.invalid)
  | some session =>
    if ¬session.live ∨ ¬allowed account session then pure (account,.invalid)
    else
      let idle ← policyOk (sessionIdle reading.policy session.lastSeenAt reading.now)
      if idle then
        if readOnly then pure (account,.invalid)
        else pure (account.revokeSession session.id reading.now "IDLE_TIMEOUT",.invalid)
      else if touchActivity ∧ ¬readOnly then
        let hint ← policyOk (sessionExpiresHint reading.policy reading.now)
        pure (account.touchSession session.id reading.now hint,.principal (sessionPrincipal account session))
      else pure (account,.principal (sessionPrincipal account session))

def logout (tokenHash : String) (reading : Reading) (_db : Database) (account : Account) :
    Except IdentityError (Account × Response) :=
  match account.session tokenHash with
  | none => pure (account,.loggedOut false)
  | some session => pure (account.revokeSession session.id reading.now "LOGOUT",.loggedOut session.live)

end EngineeringPlatform.Identity
