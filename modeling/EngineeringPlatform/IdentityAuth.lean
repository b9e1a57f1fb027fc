import EngineeringPlatform.IdentityAccounts
namespace EngineeringPlatform.Identity
open Checked PythonTime

def totpInterval : Duration := 30 * second

-- 1 January 1970
def unixEpoch : Instant := 719162 * day

def validCode (code : String) : Bool := code.length = 6 ∧ code.toList.all Char.isDigit

def matchedSteps (security : Security) (secret code : String) (now : Instant) : List Int :=
  let current := (now - unixEpoch) / totpInterval
  [current - 1,current,current + 1].filter fun step => security.codeAt secret step = some code

def verifyTotp (security : Security) (secret code : String) (lastUsedStep : Option Int) (now : Instant) : Option Int :=
  if validCode code then
    ((matchedSteps security secret code now).filter fun step => lastUsedStep.all (· < step)).max?
  else none

def challengeDenial (attemptCount attemptLimit : Int) : Response :=
  .invalidChallenge (0 < attemptCount ∧ attemptCount < attemptLimit)

-- The bootstrap session behind a token. Without one the answer is a denial, and
-- an idle session is revoked by it.
def bootstrapAccount (tokenHash : String) (touch : Bool) (reading : Reading) (account : Account) :
    Except IdentityError (Account × Option Session) := do
  match account.session tokenHash with
  | none => pure (account,none)
  | some session =>
    if ¬session.live ∨ session.kind ≠ .bootstrap then pure (account,none)
    else if account.status ≠ .pendingInit ∧ account.status ≠ .enabled then pure (account,none)
    else
      let idle ← policyOk (sessionIdle reading.policy session.lastSeenAt reading.now)
      if idle then pure (account.revokeSession session.id reading.now "IDLE_TIMEOUT",none)
      else if touch then
        let hint ← policyOk (sessionExpiresHint reading.policy reading.now)
        pure (account.touchSession session.id reading.now hint,some session)
      else pure (account,some session)

def completePasswordSetup (security : Security) (tokenHash password salt : String) (opened changed : Reading)
    (_db : Database) (account : Account) : Except IdentityError (Account × Response) := do
  let (account,found) ← bootstrapAccount tokenHash true opened account
  match found with
  | none => pure (account,.bootstrapDenial)
  | some session =>
    match session.bootstrapPurpose with
    | none => pure (account,.denied .authenticationFailed)
    | some purpose =>
      let violations := security.passwordFloor password [account.employeeNo,account.displayName]
      if violations ≠ [] then pure (account,.denied (.passwordFloorViolation violations))
      else
        let kept := if purpose = .passwordExpired then none else some session.id
        let account := account.updatePassword (security.hashPassword password salt) changed.now
        pure (account.revokeSessions changed.now "PASSWORD_CHANGED" kept,.passwordSet)

def enrollTotp (security : Security) (tokenHash secret : String) (opened : Reading) (_db : Database)
    (account : Account) : Except IdentityError (Account × Response) := do
  let (account,found) ← bootstrapAccount tokenHash true opened account
  match found with
  | none => pure (account,.bootstrapDenial)
  | some session =>
    if session.bootstrapPurpose ≠ some .initialSetup ∨ account.passwordHash = none then
      pure (account,.denied .authenticationFailed)
    else pure ((account.updateTotpEnrollment (security.sealSecret secret)).remember .enrolled,.enrolled secret)

-- INITIAL_SETUP confirms the factor it enrolled; a password reset asks for the
-- factor that was confirmed before.
def completeBootstrap (purpose : BootstrapPurpose) (step : Int) (now : Instant) (account : Account) : Option Account :=
  if purpose = .initialSetup then some (account.confirmTotp step now)
  else if account.totpConfirmedAt = none then none
  else some (account.restorePasswordReset step)

-- A FULL session, and the eviction of those beyond the cap.
def issueFullSession (security : Security) (db : Database) (account : Account) (fresh : FreshRow) (issued : Instant)
    (cap : Int) (evicted : Instant) : Except IdentityError (Account × Response) := do
  let (account,response) ← issueSession security db account fresh .full none issued
  pure ({account.evictOldFullSessions cap evicted with sessionCap := cap},response)

def refuseConfirmation (session : Session) (cap : Int) (revoked : Instant) (account : Account) : Account × Response :=
  let account := account.incrementBootstrapTotpAttempts session.id
  let count : Int := session.bootstrapTotpAttemptCount + 1
  (if cap ≤ count then account.revokeSession session.id revoked "TOTP_ATTEMPTS_EXHAUSTED" else account,
    challengeDenial count cap)

def confirmTotp (security : Security) (tokenHash code : String) (fresh : FreshRow)
    (opened capped confirmed issued : Reading) (db : Database) (account : Account) :
    Except IdentityError (Account × Response) := do
  let (account,found) ← bootstrapAccount tokenHash false opened account
  match found with
  | none => pure (account,.bootstrapDenial)
  | some session =>
    match session.bootstrapPurpose,account.passwordHash,account.totpSealed with
    | some purpose,some _,some sealedSecret =>
      if purpose = .passwordExpired then pure (account,.denied .authenticationFailed)
      else if capped.policy.totpAttemptCap ≤ session.bootstrapTotpAttemptCount then
        pure (account.revokeSession session.id capped.now "TOTP_ATTEMPTS_EXHAUSTED",
          challengeDenial session.bootstrapTotpAttemptCount capped.policy.totpAttemptCap)
      else
        let secret ← orRaise (security.unsealSecret sealedSecret) .unsealable
        match verifyTotp security secret code account.totpLastStep capped.now with
        | none => pure (refuseConfirmation session capped.policy.totpAttemptCap confirmed.now account)
        | some step =>
          match completeBootstrap purpose step confirmed.now account with
          | none => pure (account,.denied .authenticationFailed)
          | some account =>
            let account := (account.remember (.accepted step)).revokeSessions confirmed.now "BOOTSTRAP_COMPLETED" none
            issueFullSession security db account fresh issued.now issued.policy.sessionCap confirmed.now
    | _,_,_ => pure (account,.denied .authenticationFailed)

inductive BackoffCheck where
  | unlocked
  | reset
  | locked (retryAfterSeconds : Int)
  deriving DecidableEq

def checkBackoff (row : Option LoginBackoff) (reading : Reading) : BackoffCheck :=
  match row with
  | none => .unlocked
  | some row =>
    if row.lastFailureAt.any fun failedAt => reading.policy.backoffResetAfter ≤ reading.now - failedAt then .reset
    else
      match row.lockedUntil with
      | some locked =>
        if reading.now < locked then .locked (max 1 ((locked - reading.now) / second)) else .unlocked
      | none => .unlocked

def clearedBackoff : LoginBackoff := ⟨0,none,none⟩

def insertChallenge (security : Security) (db : Database) (account : Account) (fresh : FreshRow)
    (purpose : ChallengePurpose) (actorId : Option Uuid) (verifiedHash : Option String) (reading : Reading) :
    Except IdentityError Account := do
  let expiresAt ← policyOk (challengeExpiry reading.now)
  let attemptLimit ← policyOk (storedInteger reading.policy.totpAttemptCap)
  require (db.challengeUnused fresh.id (security.tokenHash fresh.rawToken) = true) .integrity
  pure {account with challenges := account.challenges ++
    [⟨fresh.id,security.tokenHash fresh.rawToken,purpose,actorId,reading.now,expiresAt,attemptLimit,0,none,none,
      verifiedHash⟩]}

-- Only an account that is not initialised takes a temporary password.
def restartSetup (security : Security) (db : Database) (account : Account) (password : String) (fresh : FreshRow)
    (consumed issued : Instant) : Except IdentityError (Option (Account × Response)) :=
  if account.status = .pendingInit then consumeTempPassword security db account password fresh consumed issued
  else pure none

-- The password step once its account is locked. Without a result the credentials
-- are invalid.
def verifyCredentials (security : Security) (password : String) (fresh : FreshRow) (consumed issued : Reading)
    (db : Database) (account : Account) : Except IdentityError (Option (Account × Response)) := do
  match ← restartSetup security db account password fresh consumed.now issued.now with
  | some result => pure (some result)
  | none =>
    match account.passwordHash with
    | none => pure none
    | some hash =>
      if ¬security.verifyPassword password hash then pure none
      else if account.status = .pendingInit ∧ account.totpSealed = none ∧ account.totpConfirmedAt = none then
        let result ← issueSession security db account fresh .bootstrap (some .initialSetup) issued.now
        pure (some result)
      else if account.status ≠ .enabled then pure none
      else
        let expired ← policyOk (passwordExpired consumed.policy account.passwordSetAt consumed.now)
        if expired then
          let result ← issueSession security db account fresh .bootstrap (some .passwordExpired) issued.now
          pure (some result)
        else
          let account ← insertChallenge security db account fresh .loginTotp none (some hash) consumed
          pure (some (account,.challenge account.id fresh.rawToken))

-- An old enough failure is forgotten.
def openBackoff (db : Database) (scope : BackoffScope) (check : BackoffCheck) : Database :=
  if check = .reset then db.saveBackoff scope clearedBackoff else db

def verifyOwner (security : Security) (password : String) (owner : Option Uuid) (fresh : FreshRow)
    (consumed issued : Reading) (db : Database) : Except IdentityError (Option (Account × Response)) :=
  match owner.bind db.accountById with
  | none => pure none
  | some account => verifyCredentials security password fresh consumed issued db account

def loginPasswordStep (security : Security) (scope : BackoffScope) (password : String) (owner : Option Uuid)
    (fresh : FreshRow) (checked consumed issued : Reading) (db : Database) :
    Except IdentityError (Database × Response) := do
  require (blank scope.source = false) (.invalidValue "login source must not be empty")
  match checkBackoff (db.backoff scope) checked with
  | .locked retryAfter => pure (db,.backoffActive retryAfter)
  | opened =>
    let db := openBackoff db scope opened
    match ← verifyOwner security password owner fresh consumed issued db with
    | some (account,response) => pure ((db.put account).saveBackoff scope clearedBackoff,response)
    | none =>
      let row ← policyOk (recordPasswordFailure issued.policy (db.backoff scope) issued.now)
      pure (db.saveBackoff scope row,.invalidCredentials)

def challengeActive (challenge : AuthChallenge) (now : Instant) : Bool :=
  challenge.consumedAt = none ∧ challenge.revokedAt = none ∧ now < challenge.expiresAt ∧
    challenge.attemptCount < challenge.attemptLimit

-- The count that fail_challenge returns: none is counted on a finished challenge.
def refuseChallenge (challenge : AuthChallenge) (now : Instant) (account : Account) : Account × Response :=
  (account.failChallenge challenge.id now,
    challengeDenial
      (if challenge.consumedAt = none ∧ challenge.revokedAt = none then
        min (challenge.attemptCount + 1) challenge.attemptLimit
      else 0)
      challenge.attemptLimit)

-- The step a code is accepted for, on an account with a sealed secret.
def verifyAccountTotp (security : Security) (account : Account) (code : String) (now : Instant) :
    Except IdentityError (Option Int) :=
  match account.totpSealed with
  | none => pure none
  | some sealedSecret => do
    let secret ← orRaise (security.unsealSecret sealedSecret) .unsealable
    pure (verifyTotp security secret code account.totpLastStep now)

-- The code is looked at only while the challenge can be answered.
def answeredStep (security : Security) (account : Account) (active : Bool) (code : String) (now : Instant) :
    Except IdentityError (Option Int) :=
  if active then verifyAccountTotp security account code now else pure none

def loginTotpStep (security : Security) (challengeHash code : String) (fresh : FreshRow)
    (started verified issued : Reading) (db : Database) (account : Account) :
    Except IdentityError (Account × Response) := do
  match account.challenge challengeHash with
  | none => pure (account,challengeDenial 0 0)
  | some challenge =>
    let active : Bool :=
      challenge.purpose = .loginTotp ∧ account.status = .enabled ∧ challengeActive challenge started.now = true
    match ← answeredStep security account active code verified.now with
    | none => pure (refuseChallenge challenge started.now account)
    | some step =>
      if ¬account.stepFresh step then pure (refuseChallenge challenge started.now account)
      else
        -- The challenge was active at this instant, so that the UPDATE consumes it.
        let account := (account.updateTotpStep step).remember (.accepted step)
        let account := account.consumeChallenge challenge.id started.now
        issueFullSession security db account fresh issued.now issued.policy.sessionCap started.now

end EngineeringPlatform.Identity
