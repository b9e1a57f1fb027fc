import EngineeringPlatform.RowLocks
import EngineeringPlatform.SuperAdmin
namespace EngineeringPlatform.Identity
open Checked PythonTime RowLocks

-- `account` stands for the row of an account and the rows that every command
-- locks together with it.
inductive LockKey where
  | superAdminInvariant
  | backoff (scope : BackoffScope)
  | account (id : Uuid)
  deriving DecidableEq

inductive Command where
  | createAccount (id : Uuid) (employeeNo displayName : String) (profession : Option String) (fresh : FreshRow)
    (salt : String)
  | issueTempPassword (id : Uuid) (expectedVersion : Option Nat) (fresh : FreshRow) (salt : String)
  | resetTotp (id : Uuid) (expectedVersion : Nat)
  | setAccountStatus (id : Uuid) (status : AccountStatus) (expectedVersion : Nat)
  | validateSession (rawToken : String) (touchActivity : Bool)
  | inspectSession (rawToken : String) (reading : Reading)
  | logout (rawToken : String)
  | completePasswordSetup (bootstrapToken password salt : String)
  | enrollTotp (bootstrapToken secret : String)
  | confirmTotp (bootstrapToken code : String) (fresh : FreshRow)
  | loginPasswordStep (scope : BackoffScope) (password : String) (fresh : FreshRow)
  | loginTotpStep (challengeToken code : String) (fresh : FreshRow)
  | bootstrapSuperAdmin (id : Uuid) (employeeNo displayName : String) (fresh : FreshRow) (salt : String)
  | changeSuperAdmin (change : SuperAdminChange) (fresh : FreshRow)
  | verifyPolicyTotp (actorId : Uuid) (operation : SuperAdminOperation) (code : String) (fresh : FreshRow)
  | consumePolicyReauthentication (rawSession code attemptId : String) (operation : SuperAdminOperation)
    (fresh : FreshRow)
  | recoverSuperAdmin (recovery : Recovery) (fresh : FreshRow) (salt : String)
  deriving DecidableEq

def Database.reading (db : Database) : Reading := ⟨db.clock,db.policy⟩

abbrev IdentityTransaction := Transaction Database LockKey (Body Database IdentityError Response)

def Database.present (id : Uuid) (db : Database) : Option Uuid := (db.accountById id).map (·.id)

-- SELECT … FOR UPDATE: the row is found first and locked then.
def locked (owner : Database → Option Uuid) (absent : Except IdentityError Response)
    (rest : Uuid → IdentityTransaction) : IdentityTransaction := do
  match ← see owner with
  | none => pure fun db => absent.map fun response => (db,response)
  | some id =>
    acquire (.account id)
    rest id

def lockFound : Option Uuid → Transaction Database LockKey Unit
  | none => pure ()
  | some id => acquire (.account id)

def created : Except IdentityError (Database × Account) → String → Except IdentityError (Database × Response)
  | .ok (db,account),secret => .ok (db,.temporaryPassword account.id secret)
  | .error error,_ => .error error

-- The locks, the looks at other accounts and the clock readings of each command,
-- in the order in which it makes them.
def transaction (security : Security) : Command → IdentityTransaction
  | .createAccount id employeeNo displayName profession fresh salt => do
    let reading ← see Database.reading
    pure fun db =>
      created (createAccount security id employeeNo displayName profession fresh salt reading db) fresh.rawToken
  | .issueTempPassword id expectedVersion fresh salt => do
    acquire .superAdminInvariant
    locked (Database.present id) (.error .accountNotFound) fun id => do
      let others ← see (·.effectiveSuperAdminsExcept id)
      let reading ← see Database.reading
      pure (onAccount id (issueTempPassword security expectedVersion fresh salt others reading))
  | .resetTotp id expectedVersion => do
    acquire .superAdminInvariant
    locked (Database.present id) (.error .accountNotFound) fun id => do
      let others ← see (·.effectiveSuperAdminsExcept id)
      let reading ← see Database.reading
      pure (onAccount id (resetTotp expectedVersion others reading))
  | .setAccountStatus id status expectedVersion => do
    acquire .superAdminInvariant
    locked (Database.present id) (.error .accountNotFound) fun id => do
      let others ← see (·.effectiveSuperAdminsExcept id)
      let reading ← see Database.reading
      pure (onAccount id (setAccountStatus status expectedVersion others reading))
  | .validateSession rawToken touchActivity =>
    locked (·.sessionOwner (security.tokenHash rawToken)) (.ok .invalid) fun id => do
      let reading ← see Database.reading
      pure (onAccount id (validateSession (security.tokenHash rawToken) touchActivity false reading))
  -- Read-only: the row is read once, without a lock, and the clock and the policy
  -- are whatever they are after that.
  | .inspectSession rawToken reading => pure fun db =>
    match db.sessionOwner (security.tokenHash rawToken) with
    | none => .ok (db,.invalid)
    | some id => onAccount id (validateSession (security.tokenHash rawToken) false true reading) db
  | .logout rawToken =>
    locked (·.sessionOwner (security.tokenHash rawToken)) (.ok (.loggedOut false)) fun id => do
      let reading ← see Database.reading
      pure (onAccount id (logout (security.tokenHash rawToken) reading))
  | .completePasswordSetup bootstrapToken password salt =>
    locked (·.sessionOwner (security.tokenHash bootstrapToken)) (.ok .bootstrapDenial) fun id => do
      let opened ← see Database.reading
      let changed ← see Database.reading
      pure (onAccount id
        (completePasswordSetup security (security.tokenHash bootstrapToken) password salt opened changed))
  | .enrollTotp bootstrapToken secret =>
    locked (·.sessionOwner (security.tokenHash bootstrapToken)) (.ok .bootstrapDenial) fun id => do
      let opened ← see Database.reading
      pure (onAccount id (enrollTotp security (security.tokenHash bootstrapToken) secret opened))
  | .confirmTotp bootstrapToken code fresh =>
    locked (·.sessionOwner (security.tokenHash bootstrapToken)) (.ok .bootstrapDenial) fun id => do
      let opened ← see Database.reading
      let capped ← see Database.reading
      let confirmed ← see Database.reading
      let issued ← see Database.reading
      pure (onAccount id
        (confirmTotp security (security.tokenHash bootstrapToken) code fresh opened capped confirmed issued))
  | .loginPasswordStep scope password fresh => do
    acquire (.backoff scope)
    let checked ← see Database.reading
    let owner ← see (·.accountIdByEmployeeNo scope.employeeNo)
    lockFound owner
    let consumed ← see Database.reading
    let issued ← see Database.reading
    pure (loginPasswordStep security scope password owner fresh checked consumed issued)
  -- The clock is read before the challenge is locked.
  | .loginTotpStep challengeToken code fresh => do
    let started ← see Database.reading
    locked (·.challengeOwner (security.tokenHash challengeToken)) (.ok (challengeDenial 0 0)) fun id => do
      let verified ← see Database.reading
      let issued ← see Database.reading
      pure (onAccount id
        (loginTotpStep security (security.tokenHash challengeToken) code fresh started verified issued))
  | .bootstrapSuperAdmin id employeeNo displayName fresh salt => do
    acquire .superAdminInvariant
    let anySuperAdmin ← see Database.anySuperAdmin
    let reading ← see Database.reading
    pure (bootstrapSuperAdmin security id employeeNo displayName fresh salt anySuperAdmin reading)
  -- The challenge of the actor is issued before the invariant is locked and
  -- answered after it.
  | .changeSuperAdmin change fresh =>
    locked (Database.present change.actorId) (.ok (.denied .superAdminPermissionDenied)) fun _ => do
      let issued ← see Database.reading
      acquire .superAdminInvariant
      let started ← see Database.reading
      let verified ← see Database.reading
      let target ← see (Database.present change.targetId)
      lockFound target
      let others ← see (·.effectiveSuperAdminsExcept change.targetId)
      let changed ← see Database.reading
      pure (changeSuperAdmin security change target fresh others issued started verified changed)
  | .verifyPolicyTotp actorId operation code fresh =>
    locked (Database.present actorId) (.ok (.denied .superAdminPermissionDenied)) fun id => do
      let issued ← see Database.reading
      let started ← see Database.reading
      let verified ← see Database.reading
      pure (onAccount id (verifyPolicyTotp security operation code fresh issued started verified))
  | .consumePolicyReauthentication rawSession code attemptId operation fresh =>
    locked (·.sessionOwner (security.tokenHash rawSession)) (.ok (.denied .policyReauthenticationDenied)) fun id => do
      let opened ← see Database.reading
      let issued ← see Database.reading
      let started ← see Database.reading
      let verified ← see Database.reading
      pure (onAccount id (consumePolicyReauthentication security (security.tokenHash rawSession) code attemptId
        operation fresh opened issued started verified))
  | .recoverSuperAdmin recovery fresh salt => do
    let started ← see Database.reading
    acquire .superAdminInvariant
    locked (·.accountIdByEmployeeNo recovery.employeeNo)
      (.error (.superAdminRecoveryDenied "TARGET_NOT_SUPER_ADMIN")) fun id => do
        let others ← see (·.effectiveSuperAdminsExcept id)
        pure (onAccount id (recoverSuperAdmin security recovery fresh salt others started))

inductive Event where
  | tick (length : Nat)
  | publish (schemaRevision : Int) (values : PolicyValues)

-- The clock does not go back, and a policy is published when it is accepted.
def elsewhere (db : Database) : Event → Option Database
  | .tick length => some {db with clock := db.clock + length}
  | .publish schemaRevision values =>
    match validateAndMaterializeIdentityPolicy schemaRevision values with
    | ([],some policy) => some {db with policy}
    | _ => none

def program (security : Security) : Program Database LockKey Command Response IdentityError Event :=
  ⟨transaction security,elsewhere⟩

def Database.start (clock : Instant) : Database := ⟨clock,defaultPolicy,[],[]⟩

abbrev IdentitySystem := System Database LockKey Command Response IdentityError

end EngineeringPlatform.Identity
