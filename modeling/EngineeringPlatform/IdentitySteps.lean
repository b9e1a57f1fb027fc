import EngineeringPlatform.SuperAdmin
namespace EngineeringPlatform.Identity
open Checked PythonTime KeyedRows

-- A session row after a command that neither opened nor evicted it.
structure Session.Kept (old new : Session) : Prop where
  id : new.id = old.id
  tokenHash : new.tokenHash = old.tokenHash
  kind : new.kind = old.kind
  bootstrapPurpose : new.bootstrapPurpose = old.bootstrapPurpose
  createdAt : new.createdAt = old.createdAt
  revoked : ∀ instant, old.revokedAt = some instant →
    new.revokedAt = some instant ∧ new.revokeReason = old.revokeReason
  evicted : new.revokeReason = some "SESSION_CAP" → old.revokeReason = some "SESSION_CAP"

theorem Session.Kept.refl (row : Session) : row.Kept row :=
  ⟨rfl,rfl,rfl,rfl,rfl,fun _ gone => ⟨gone,rfl⟩,fun capped => capped⟩

theorem Session.Kept.trans {one two three : Session} (first : one.Kept two) (second : two.Kept three) :
    one.Kept three :=
  ⟨second.id.trans first.id,second.tokenHash.trans first.tokenHash,second.kind.trans first.kind,
    second.bootstrapPurpose.trans first.bootstrapPurpose,second.createdAt.trans first.createdAt,
    (fun instant gone =>
      have after := first.revoked instant gone
      ⟨(second.revoked instant after.1).1,(second.revoked instant after.1).2.trans after.2⟩),
    fun capped => first.evicted (second.evicted capped)⟩

theorem Session.Kept.live {old new : Session} (kept : old.Kept new) (live : new.live = true) : old.live = true := by
  unfold Session.live at live ⊢
  simp only [decide_eq_true_eq] at live ⊢
  cases gone : old.revokedAt with
  | none => rfl
  | some instant =>
    have after := (kept.revoked instant gone).1
    rw [live] at after
    cases after

theorem Session.kept_revoke {row : Session} (live : row.live = true) (uncapped : reason ≠ "SESSION_CAP") :
    row.Kept (row.revoke now reason) := by
  have none : row.revokedAt = none := of_decide_eq_true live
  refine ⟨rfl,rfl,rfl,rfl,rfl,?_,?_⟩
  · intro instant gone
    rw [none] at gone
    cases gone
  · intro capped
    exact absurd (Option.some.inj capped) uncapped

-- What happens to the sessions of an account whose other columns stay.
def Account.withSessions (account : Account) (change : Session → Session) : Account :=
  {account with sessions := account.sessions.map change}

def Keeps (change : Session → Session) : Prop := ∀ row : Session, row.Kept (change row)

theorem Keeps.comp {first second : Session → Session} (one : Keeps first) (two : Keeps second) :
    Keeps (second ∘ first) :=
  fun row => (one row).trans (two (first row))

theorem keeps_if {chosen : Session → Bool} {change : Session → Session}
    (kept : ∀ row, chosen row = true → row.Kept (change row)) :
    Keeps fun row => if chosen row then change row else row := by
  intro row
  dsimp only
  split
  · exact kept row (by assumption)
  · exact .refl row

theorem revokeSession_keeps (account : Account) (uncapped : reason ≠ "SESSION_CAP") :
    ∃ change, Keeps change ∧ account.revokeSession sessionId now reason = account.withSessions change := by
  refine ⟨_,keeps_if fun row chosen => ?_,rfl⟩
  simp only [decide_eq_true_eq] at chosen
  exact Session.kept_revoke chosen.2 uncapped

theorem revokeSessions_keeps (account : Account) (uncapped : reason ≠ "SESSION_CAP") :
    ∃ change, Keeps change ∧ account.revokeSessions now reason stays = account.withSessions change := by
  refine ⟨_,keeps_if fun row chosen => ?_,rfl⟩
  simp only [decide_eq_true_eq] at chosen
  exact Session.kept_revoke chosen.1 uncapped

theorem touchSession_keeps (account : Account) :
    ∃ change, Keeps change ∧ account.touchSession sessionId now hint = account.withSessions change := by
  refine ⟨_,keeps_if fun row _ => ?_,rfl⟩
  exact ⟨rfl,rfl,rfl,rfl,rfl,fun _ gone => ⟨gone,rfl⟩,fun capped => capped⟩

theorem incrementBootstrapTotpAttempts_keeps (account : Account) :
    ∃ change, Keeps change ∧ account.incrementBootstrapTotpAttempts sessionId = account.withSessions change := by
  refine ⟨_,keeps_if fun row _ => ?_,rfl⟩
  exact ⟨rfl,rfl,rfl,rfl,rfl,fun _ gone => ⟨gone,rfl⟩,fun capped => capped⟩

theorem withSessions_withSessions (account : Account) (first second : Session → Session) :
    (account.withSessions first).withSessions second = account.withSessions (second ∘ first) := by
  simp [Account.withSessions]

theorem keeps_id : Keeps id := Session.Kept.refl

theorem withSessions_id (account : Account) : account.withSessions id = account := by
  simp [Account.withSessions]

-- Every instant that a row of the account carries had passed.
structure Account.Dated (account : Account) (now : Instant) : Prop where
  sessions : ∀ row ∈ account.sessions, row.createdAt ≤ now
  challenges : ∀ row ∈ account.challenges, row.issuedAt ≤ now
  password : ∀ setAt, account.passwordSetAt = some setAt → setAt ≤ now

-- A clock reading made while the account was locked by its command.
def ReadUnderLock (db : Database) (account : Account) (now : Instant) : Prop :=
  account.Dated now ∧ now ≤ db.clock

structure Opened (db : Database) (session : Session) (kind : SessionKind) (purpose : Option BootstrapPurpose)
    (issued : Instant) : Prop where
  kind : session.kind = kind
  purpose : session.bootstrapPurpose = purpose
  createdAt : session.createdAt = issued
  live : session.revokedAt = none
  reason : session.revokeReason = none
  unused : db.sessionUnused session.id session.tokenHash = true

def Account.openFull (account : Account) (session : Session) (cap : Int) (now : Instant) : Account :=
  {({account with sessions := account.sessions ++ [session]}).evictOldFullSessions cap now with sessionCap := cap}

-- The resets, after which no session of the account is live.
inductive Reset : Account → Account → Prop where
  | password (credentials : List TempCredential) :
    Reset account {account with credentials}.resetPasswordState
  | totp : Reset account account.resetTotpState
  | recovery (credentials : List TempCredential) :
    Reset account {account with credentials}.resetRecoveryState
  | status (status : AccountStatus) (disabled : status ≠ .enabled) : Reset account (account.updateStatus status)
  | superAdmin (isSuperAdmin : Bool) (initialized : isSuperAdmin = true → account.effective = false) :
    Reset account (account.updateSuperAdmin isSuperAdmin)

-- A cap on attempts that a policy in force has set.
def PolicyCap (limit : Int) : Prop :=
  ∃ policy : EffectiveIdentityPolicy, policy.wellFormed = true ∧ limit = policy.totpAttemptCap

-- A new administrator challenge: fewer attempts were counted than it allows.
structure AskedAdmin (db : Database) (old : Account) (challenge : AuthChallenge) : Prop where
  actor : challenge.actorId = some old.id
  purpose : challenge.purpose ≠ .loginTotp
  read : ReadUnderLock db old challenge.issuedAt
  effective : old.effective = true
  counted : old.adminChallengeAttempts old.id challenge.purpose (challenge.issuedAt - challengeTtl) <
    challenge.attemptLimit
  capped : PolicyCap challenge.attemptLimit
  started : challenge.attemptCount = 0 ∧ challenge.consumedAt = none ∧ challenge.revokedAt = none
  unused : db.challengeUnused challenge.id challenge.tokenHash = true

-- What one command can do to one account.
inductive AccountStep (shown : Option String) (db : Database) (old : Account) : Account → Prop where
  | sessions (change : Session → Session) (keeps : Keeps change) : AccountStep shown db old (old.withSessions change)
  | password (change : Session → Session) (keeps : Keeps change) (hash : String) (now : Instant)
    (read : ReadUnderLock db old now) (stays : Option Uuid) :
    AccountStep shown db old
      (((old.withSessions change).updatePassword hash now).revokeSessions now "PASSWORD_CHANGED" stays)
  | enabled (started : old.status ≠ .pendingInit) (initialized : old.initialized = true) :
    AccountStep shown db old (old.updateStatus .enabled)
  | enrolled (change : Session → Session) (keeps : Keeps change) (session : Session) (member : session ∈ old.sessions)
    (live : session.live = true) (kind : session.kind = .bootstrap)
    (purpose : session.bootstrapPurpose = some .initialSetup) (sealedSecret : String) :
    AccountStep shown db old (((old.withSessions change).updateTotpEnrollment sealedSecret).remember .enrolled)
  | completed (session : Session) (member : session ∈ old.sessions) (live : session.live = true)
    (kind : session.kind = .bootstrap) (purpose : BootstrapPurpose) (named : session.bootstrapPurpose = some purpose)
    (unexpired : purpose ≠ .passwordExpired) (password : old.passwordHash.isSome = true)
    (sealedSecret : old.totpSealed.isSome = true) (step : Int) (fresh : old.stepFresh step = true) (now : Instant)
    (done : completeBootstrap purpose step now old = some middle) (issued : Instant)
    (read : ReadUnderLock db old issued) (opened : Session) (new : Opened db opened .full none issued) (cap : Int)
    (forward : 0 ≤ cap) :
    AccountStep shown db old
      (((middle.remember (.accepted step)).revokeSessions now "BOOTSTRAP_COMPLETED" none).openFull opened cap now)
  | restarted (credentials : List TempCredential) (purpose : BootstrapPurpose)
    (pending : purpose ≠ .passwordExpired → old.status = .pendingInit) (issued : Instant)
    (read : ReadUnderLock db old issued) (opened : Session) (new : Opened db opened .bootstrap (some purpose) issued) :
    AccountStep shown db old {old with credentials, sessions := old.sessions ++ [opened]}
  | challenged (challenge : AuthChallenge) (login : challenge.purpose = .loginTotp) (actor : challenge.actorId = none)
    (read : ReadUnderLock db old challenge.issuedAt) (verified : challenge.verifiedHash = old.passwordHash)
    (password : old.passwordHash.isSome = true)
    (unused : db.challengeUnused challenge.id challenge.tokenHash = true) :
    AccountStep shown db old {old with challenges := old.challenges ++ [challenge]}
  | refused (challenge : AuthChallenge) (member : challenge ∈ old.challenges)
    (presented : shown = some challenge.tokenHash) (now : Instant) :
    AccountStep shown db old (old.failChallenge challenge.id now)
  | loggedIn (challenge : AuthChallenge) (member : challenge ∈ old.challenges) (login : challenge.purpose = .loginTotp)
    (sealedSecret : old.totpSealed.isSome = true) (step : Int) (fresh : old.stepFresh step = true) (now issued : Instant)
    (read : ReadUnderLock db old issued) (opened : Session) (new : Opened db opened .full none issued) (cap : Int)
    (forward : 0 ≤ cap) :
    AccountStep shown db old
      ((((old.updateTotpStep step).remember (.accepted step)).consumeChallenge challenge.id now).openFull opened cap now)
  | adminRefused (challenge : AuthChallenge) (asked : AskedAdmin db old challenge) (now : Instant) :
    AccountStep shown db old ({old with challenges := old.challenges ++ [challenge]}.failChallenge challenge.id now)
  | adminVerified (challenge : AuthChallenge) (asked : AskedAdmin db old challenge)
    (sealedSecret : old.totpSealed.isSome = true) (step : Int) (fresh : old.stepFresh step = true) (now : Instant)
    (reauthAttempts : List String) :
    AccountStep shown db old {((({old with challenges := old.challenges ++ [challenge]}.updateTotpStep step).remember
      (.accepted step)).consumeChallenge challenge.id now) with reauthAttempts}

-- The answers that accept the session behind a token.
def Response.accepts : Response → Bool
  | .principal _ => true
  | .passwordSet => true
  | .enrolled _ => true
  | .issued _ _ _ _ => true
  | .verified _ => true
  | _ => false

theorem policyOk_ok {outcome : Except PolicyFailure α} : policyOk outcome = .ok value ↔ outcome = .ok value := by
  cases outcome <;> simp [policyOk]

variable {old new account : Account}

theorem session_found (found : account.session tokenHash = some session) :
    session ∈ account.sessions ∧ session.tokenHash = tokenHash :=
  ⟨List.mem_of_find?_eq_some found,by simpa using List.find?_some found⟩

theorem challenge_found (found : account.challenge tokenHash = some challenge) :
    challenge ∈ account.challenges ∧ challenge.tokenHash = tokenHash :=
  ⟨List.mem_of_find?_eq_some found,by simpa using List.find?_some found⟩

-- The bootstrap session that a token opens, as its account was before.
structure Presented (old : Account) (tokenHash : String) (session : Session) : Prop where
  found : old.session tokenHash = some session
  live : session.live = true
  kind : session.kind = .bootstrap
  status : old.status = .pendingInit ∨ old.status = .enabled

theorem bootstrapAccount_ok (ran : bootstrapAccount tokenHash touch reading old = .ok (new,found)) :
    (∃ change, Keeps change ∧ new = old.withSessions change) ∧
      ∀ session, found = some session → Presented old tokenHash session ∧ (touch = false → new = old) := by
  have unchanged : ∃ change, Keeps change ∧ old = old.withSessions change :=
    ⟨id,keeps_id,(withSessions_id old).symm⟩
  unfold bootstrapAccount at ran
  split at ran
  · cases pure_ok.mp ran
    exact ⟨unchanged,fun _ absurd => by cases absurd⟩
  · rename_i session there
    split at ran
    · cases pure_ok.mp ran
      exact ⟨unchanged,fun _ absurd => by cases absurd⟩
    · rename_i usable
      split at ran
      · cases pure_ok.mp ran
        exact ⟨unchanged,fun _ absurd => by cases absurd⟩
      · rename_i status
        have presented : Presented old tokenHash session :=
          ⟨there,by simp_all,by simp_all,by tauto⟩
        obtain ⟨idle,_,ran⟩ := bind_ok.mp ran
        split at ran
        · cases pure_ok.mp ran
          exact ⟨revokeSession_keeps old (by decide),fun _ absurd => by cases absurd⟩
        · split at ran
          · rename_i touched
            obtain ⟨hint,_,ran⟩ := bind_ok.mp ran
            cases pure_ok.mp ran
            refine ⟨touchSession_keeps old,fun session' same' => ?_⟩
            cases Option.some.inj same'
            exact ⟨presented,fun untouched => by rw [untouched] at touched; cases touched⟩
          · cases pure_ok.mp ran
            refine ⟨unchanged,fun session' same' => ?_⟩
            cases Option.some.inj same'
            exact ⟨presented,fun _ => rfl⟩

-- What a revocation in bulk leaves live.
theorem revokeSessions_gone (member : row ∈ (account.revokeSessions now reason stays).sessions)
    (other : some row.id ≠ stays) : row.live = false := by
  unfold Account.revokeSessions Account.updateSessions at member
  obtain ⟨old,_,rfl⟩ := List.mem_map.mp member
  split
  · rfl
  · rename_i spared
    simp only [decide_eq_true_eq,not_and] at spared
    rw [if_neg (by simpa using spared)] at other
    by_contra live
    simp only [Bool.not_eq_false] at live
    exact other (by simpa using spared live)

-- What an answer says about the bootstrap session that its command presented.
structure Bootstrapped (old : Account) (tokenHash : String) (response : Response) : Prop where
  unprincipled : ∀ principal, response ≠ .principal principal
  presented : response.accepts = true → ∃ session, Presented old tokenHash session

theorem Bootstrapped.refused (refuses : response.accepts = false) : Bootstrapped old tokenHash response := by
  refine ⟨fun principal same => ?_,fun accepts => ?_⟩
  · rw [same] at refuses
    cases refuses
  · rw [refuses] at accepts
    cases accepts

theorem completePasswordSetup_ok
    (ran : completePasswordSetup security tokenHash password salt opened changed db old = .ok (new,response))
    (read : ReadUnderLock db old changed.now) :
    AccountStep shown db old new ∧ Bootstrapped old tokenHash response ∧ (response = .passwordSet →
      ∃ session, Presented old tokenHash session ∧ ∀ row ∈ new.sessions, row.id ≠ session.id → row.live = false) := by
  unfold completePasswordSetup at ran
  obtain ⟨⟨touched,found⟩,began,ran⟩ := bind_ok.mp ran
  obtain ⟨⟨change,keeps,rfl⟩,presented⟩ := bootstrapAccount_ok began
  have bookkept : AccountStep shown db old (old.withSessions change) := .sessions change keeps
  dsimp only at ran
  split at ran
  · cases pure_ok.mp ran
    exact ⟨bookkept,.refused rfl,fun absurd => by cases absurd⟩
  · rename_i session
    obtain ⟨here,_⟩ := presented session rfl
    split at ran
    · cases pure_ok.mp ran
      exact ⟨bookkept,.refused rfl,fun absurd => by cases absurd⟩
    · split at ran
      · cases pure_ok.mp ran
        exact ⟨bookkept,.refused rfl,fun absurd => by cases absurd⟩
      · cases pure_ok.mp ran
        refine ⟨.password change keeps _ _ read _,⟨fun _ => by simp,fun _ => ⟨session,here⟩⟩,
          fun _ => ⟨session,here,fun row member other => revokeSessions_gone member ?_⟩⟩
        split
        · simp
        · simpa using other

theorem enrollTotp_ok (ran : enrollTotp security tokenHash secret opened db old = .ok (new,response)) :
    AccountStep shown db old new ∧ Bootstrapped old tokenHash response := by
  unfold enrollTotp at ran
  obtain ⟨⟨touched,found⟩,began,ran⟩ := bind_ok.mp ran
  obtain ⟨⟨change,keeps,rfl⟩,presented⟩ := bootstrapAccount_ok began
  dsimp only at ran
  split at ran
  · cases pure_ok.mp ran
    exact ⟨.sessions change keeps,.refused rfl⟩
  · rename_i session
    obtain ⟨here,_⟩ := presented session rfl
    split at ran
    · cases pure_ok.mp ran
      exact ⟨.sessions change keeps,.refused rfl⟩
    · rename_i initial
      cases pure_ok.mp ran
      have purpose : session.bootstrapPurpose = some .initialSetup := by simp_all
      exact ⟨.enrolled change keeps session (session_found here.found).1 here.live here.kind purpose _,
        fun _ => by simp,fun _ => ⟨session,here⟩⟩

theorem issueSession_ok (ran : issueSession security db old fresh kind purpose issued = .ok (new,response)) :
    ∃ session, Opened db session kind purpose issued ∧
      new = {old with sessions := old.sessions ++ [session]} ∧ response = .issued old.id fresh.id kind purpose := by
  unfold issueSession at ran
  obtain ⟨hint,_,ran⟩ := bind_ok.mp ran
  obtain ⟨unused,ran⟩ := require_bind_ok.mp ran
  cases pure_ok.mp ran
  exact ⟨_,⟨rfl,rfl,rfl,rfl,rfl,unused⟩,rfl,rfl⟩

theorem issueFullSession_ok (ran : issueFullSession security db old fresh issued cap evicted = .ok (new,response)) :
    ∃ session, Opened db session .full none issued ∧ new = old.openFull session cap evicted ∧
      response = .issued old.id fresh.id .full none := by
  unfold issueFullSession at ran
  obtain ⟨⟨account,answer⟩,issuedAs,ran⟩ := bind_ok.mp ran
  obtain ⟨session,opened,rfl,rfl⟩ := issueSession_ok issuedAs
  cases pure_ok.mp ran
  exact ⟨session,opened,rfl,rfl⟩

-- A verified code belongs to a step after the last one that was accepted.
theorem verifyTotp_fresh (verified : verifyTotp security secret code lastUsedStep now = some step) :
    lastUsedStep.all (· < step) = true := by
  unfold verifyTotp at verified
  split at verified
  · exact (List.mem_filter.mp (List.max?_mem verified)).2
  · cases verified

theorem verifyAccountTotp_ok (ran : verifyAccountTotp security account code now = .ok (some step)) :
    account.totpSealed.isSome = true ∧ account.stepFresh step = true := by
  unfold verifyAccountTotp at ran
  split at ran
  · cases pure_ok.mp ran
  · rename_i sealedSecret there
    obtain ⟨secret,_,ran⟩ := bind_ok.mp ran
    exact ⟨by rw [there]; rfl,verifyTotp_fresh (pure_ok.mp ran)⟩

theorem refuseConfirmation_keeps (session : Session) (cap : Int) (revoked : Instant) (account : Account) :
    ∃ change, Keeps change ∧ (refuseConfirmation session cap revoked account).1 = account.withSessions change := by
  obtain ⟨count,counts,counted⟩ := incrementBootstrapTotpAttempts_keeps account
  have exhausted : "TOTP_ATTEMPTS_EXHAUSTED" ≠ "SESSION_CAP" := by decide
  unfold refuseConfirmation
  rw [counted]
  dsimp only
  split
  · obtain ⟨revoke,revokes,gone⟩ := revokeSession_keeps (account.withSessions count) exhausted
    exact ⟨_,counts.comp revokes,gone.trans (withSessions_withSessions _ _ _)⟩
  · exact ⟨count,counts,rfl⟩

theorem confirmTotp_ok
    (ran : confirmTotp security tokenHash code fresh opened capped confirmed issued db old = .ok (new,response))
    (read : ReadUnderLock db old issued.now) (forward : 0 ≤ issued.policy.sessionCap) :
    AccountStep shown db old new ∧ Bootstrapped old tokenHash response := by
  unfold confirmTotp at ran
  obtain ⟨⟨account,found⟩,began,rest⟩ := bind_ok.mp ran
  clear ran
  obtain ⟨⟨change,keeps,same⟩,presented⟩ := bootstrapAccount_ok began
  dsimp only at rest
  split at rest
  · cases pure_ok.mp rest
    exact ⟨same ▸ .sessions change keeps,.refused rfl⟩
  · rename_i session
    obtain ⟨here,untouched⟩ := presented session rfl
    have same' : account = old := untouched rfl
    subst same'
    have unchanged : AccountStep shown db account account := by
      have bookkept : AccountStep shown db account (account.withSessions change) := .sessions change keeps
      rwa [←same] at bookkept
    split at rest
    · rename_i purpose password sealedSecret named hash enrolled
      split at rest
      · cases pure_ok.mp rest
        exact ⟨unchanged,.refused rfl⟩
      · rename_i unexpired
        split at rest
        · cases pure_ok.mp rest
          have exhausted : "TOTP_ATTEMPTS_EXHAUSTED" ≠ "SESSION_CAP" := by decide
          obtain ⟨revoke,revokes,gone⟩ := revokeSession_keeps account exhausted
          exact ⟨gone ▸ .sessions revoke revokes,.refused rfl⟩
        · obtain ⟨secret,_,rest⟩ := bind_ok.mp rest
          split at rest
          · obtain ⟨refuse,refuses,refused⟩ :=
              refuseConfirmation_keeps session capped.policy.totpAttemptCap confirmed.now account
            have step : AccountStep shown db account (account.withSessions refuse) := .sessions refuse refuses
            have answer : response.accepts = false := congrArg (fun result => result.2.accepts) (pure_ok.mp rest).symm
            rw [←refused] at step
            rw [pure_ok.mp rest] at step
            exact ⟨step,.refused answer⟩
          · rename_i step verified
            split at rest
            · cases pure_ok.mp rest
              exact ⟨unchanged,.refused rfl⟩
            · rename_i middle done
              obtain ⟨full,new,rfl,rfl⟩ := issueFullSession_ok rest
              exact ⟨.completed session (session_found here.found).1 here.live here.kind purpose named unexpired
                (by rw [hash]; rfl) (by rw [enrolled]; rfl) step (verifyTotp_fresh verified) confirmed.now done
                issued.now read full new _ forward,fun _ => by simp,fun _ => ⟨session,here⟩⟩
    · cases pure_ok.mp rest
      exact ⟨unchanged,.refused rfl⟩

theorem consumeTempPassword_ok
    (ran : consumeTempPassword security db old tempPassword fresh consumed issued = .ok (some (new,response))) :
    ∃ credentials purpose session, purpose ≠ .passwordExpired ∧
      Opened db session .bootstrap (some purpose) issued ∧
      new = {old with credentials, sessions := old.sessions ++ [session]} ∧
      response = .issued old.id fresh.id .bootstrap (some purpose) := by
  unfold consumeTempPassword at ran
  split at ran
  · cases pure_ok.mp ran
  · split at ran
    · obtain ⟨⟨account,answer⟩,issuedAs,ran⟩ := bind_ok.mp ran
      cases pure_ok.mp ran
      obtain ⟨session,opened,rfl,rfl⟩ := issueSession_ok issuedAs
      refine ⟨_,_,session,?_,opened,rfl,rfl⟩
      split <;> simp
    · cases pure_ok.mp ran

theorem insertChallenge_ok
    (ran : insertChallenge security db old fresh purpose actorId verifiedHash reading = .ok new) :
    ∃ challenge : AuthChallenge, new = {old with challenges := old.challenges ++ [challenge]} ∧
      challenge.tokenHash = security.tokenHash fresh.rawToken ∧ challenge.purpose = purpose ∧
      challenge.actorId = actorId ∧ challenge.issuedAt = reading.now ∧ challenge.verifiedHash = verifiedHash ∧
      challenge.attemptLimit = reading.policy.totpAttemptCap ∧
      (challenge.attemptCount = 0 ∧ challenge.consumedAt = none ∧ challenge.revokedAt = none) ∧
      db.challengeUnused challenge.id challenge.tokenHash = true := by
  unfold insertChallenge at ran
  obtain ⟨expiry,_,ran⟩ := bind_ok.mp ran
  obtain ⟨limit,stored,ran⟩ := bind_ok.mp ran
  obtain ⟨unused,ran⟩ := require_bind_ok.mp ran
  cases pure_ok.mp ran
  obtain ⟨_,same⟩ := require_bind_ok.mp (policyOk_ok.mp stored)
  exact ⟨_,rfl,rfl,rfl,rfl,rfl,rfl,(pure_ok.mp same).symm,⟨rfl,rfl,rfl⟩,unused⟩

end EngineeringPlatform.Identity
