import EngineeringPlatform.IdentitySteps
namespace EngineeringPlatform.Identity
open Checked PythonTime KeyedRows

variable {old new : Account}

theorem AccountStep.same : AccountStep shown db old old := by
  have step : AccountStep shown db old (old.withSessions id) := .sessions id keeps_id
  rwa [withSessions_id] at step

theorem verifyCredentials_ok {account : Account}
    (ran : verifyCredentials security password fresh consumed issued db account = .ok (some (new,response)))
    (first : ReadUnderLock db account consumed.now) (second : ReadUnderLock db account issued.now) :
    AccountStep shown db account new := by
  unfold verifyCredentials at ran
  obtain ⟨restarted,temporary,ran⟩ := bind_ok.mp ran
  split at ran
  · cases Option.some.inj (pure_ok.mp ran)
    unfold restartSetup at temporary
    split at temporary
    · rename_i pending
      obtain ⟨credentials,purpose,session,unexpired,opened,rfl,_⟩ := consumeTempPassword_ok temporary
      exact .restarted credentials purpose (fun _ => pending) _ second session opened
    · cases pure_ok.mp temporary
  · split at ran
    · cases pure_ok.mp ran
    · rename_i hash there
      split at ran
      · cases pure_ok.mp ran
      · split at ran
        · rename_i pending
          obtain ⟨⟨changed,answer⟩,issuedAs,ran⟩ := bind_ok.mp ran
          cases Option.some.inj (pure_ok.mp ran)
          obtain ⟨session,opened,rfl,_⟩ := issueSession_ok issuedAs
          exact .restarted account.credentials .initialSetup (fun _ => pending.1) _ second session opened
        · split at ran
          · cases pure_ok.mp ran
          · obtain ⟨expired,_,ran⟩ := bind_ok.mp ran
            split at ran
            · obtain ⟨⟨changed,answer⟩,issuedAs,ran⟩ := bind_ok.mp ran
              cases Option.some.inj (pure_ok.mp ran)
              obtain ⟨session,opened,rfl,_⟩ := issueSession_ok issuedAs
              exact .restarted account.credentials .passwordExpired (fun other => absurd rfl other) _ second session
                opened
            · obtain ⟨changed,inserted,ran⟩ := bind_ok.mp ran
              cases Option.some.inj (pure_ok.mp ran)
              obtain ⟨challenge,rfl,_,login,actor,issuedAt,verified,_,_,unused⟩ := insertChallenge_ok inserted
              exact .challenged challenge login actor (issuedAt ▸ first) (verified.trans there.symm)
                (by rw [there]; rfl) unused

-- The challenge that a second step answers with success.
structure Completed (old : Account) (challengeHash : String) (challenge : AuthChallenge) : Prop where
  found : old.challenge challengeHash = some challenge
  login : challenge.purpose = .loginTotp
  status : old.status = .enabled
  pending : challenge.consumedAt = none ∧ challenge.revokedAt = none

theorem loginTotpStep_ok
    (ran : loginTotpStep security challengeHash code fresh started verified issued db old = .ok (new,response))
    (read : ReadUnderLock db old issued.now) (forward : 0 ≤ issued.policy.sessionCap) :
    AccountStep (some challengeHash) db old new ∧
      ∀ accountId sessionId kind purpose, response = .issued accountId sessionId kind purpose →
        accountId = old.id ∧ kind = .full ∧ ∃ challenge, Completed old challengeHash challenge := by
  have denied (count limit : Int) : ∀ accountId sessionId kind purpose,
      challengeDenial count limit = .issued accountId sessionId kind purpose →
        accountId = old.id ∧ kind = .full ∧ ∃ challenge, Completed old challengeHash challenge :=
    fun _ _ _ _ absurd => by cases absurd
  unfold loginTotpStep at ran
  split at ran
  · cases pure_ok.mp ran
    exact ⟨.same,denied 0 0⟩
  · rename_i challenge there
    obtain ⟨member,hashed⟩ := challenge_found there
    have presented : some challengeHash = some challenge.tokenHash := congrArg some hashed.symm
    obtain ⟨step,answered,ran⟩ := bind_ok.mp ran
    dsimp only at ran
    split at ran
    · cases pure_ok.mp ran
      exact ⟨.refused challenge member presented _,denied _ _⟩
    · rename_i step
      split at ran
      · cases pure_ok.mp ran
        exact ⟨.refused challenge member presented _,denied _ _⟩
      · rename_i fresh
        obtain ⟨full,opened,rfl,rfl⟩ := issueFullSession_ok ran
        unfold answeredStep at answered
        split at answered
        · rename_i active
          obtain ⟨login,status,active⟩ := of_decide_eq_true active
          obtain ⟨sealedSecret,_⟩ := verifyAccountTotp_ok answered
          refine ⟨.loggedIn challenge member login sealedSecret step (by simpa using fresh) _ _ read full opened _
            forward,fun accountId sessionId kind purpose same => ?_⟩
          cases same
          have pending : challenge.consumedAt = none ∧ challenge.revokedAt = none := by
            unfold challengeActive at active
            simp only [decide_eq_true_eq] at active
            exact ⟨active.1,active.2.1⟩
          exact ⟨rfl,rfl,challenge,there,login,status,pending⟩
        · cases pure_ok.mp answered

-- A challenge is found under its token right after it was inserted.
theorem challenge_inserted {db : Database} {account : Account} {challenge : AuthChallenge} (member : account ∈ db.accounts)
    (unused : db.challengeUnused challenge.id challenge.tokenHash = true) :
    ({account with challenges := account.challenges ++ [challenge]} : Account).challenge challenge.tokenHash =
      some challenge := by
  have absent : account.challenges.find? (fun row => row.tokenHash = challenge.tokenHash) = none := by
    refine List.find?_eq_none.mpr fun row there same => ?_
    have others := List.all_eq_true.mp (List.all_eq_true.mp unused account member) row there
    simp only [decide_eq_true_eq] at others same
    exact others.2 same
  unfold Account.challenge
  rw [List.find?_append,absent]
  simp

theorem verifyAdminTotp_ok (member : old ∈ db.accounts)
    (ran : verifyAdminTotp security operation code fresh issued started verified db old = .ok (new,outcome))
    (read : ReadUnderLock db old issued.now) (formed : issued.policy.wellFormed = true) :
    AccountStep shown db old new ∧
      (outcome = .ok () → ∀ reauthAttempts, AccountStep shown db old {new with reauthAttempts}) := by
  unfold verifyAdminTotp at ran
  obtain ⟨asked,issuing,ran⟩ := bind_ok.mp ran
  unfold issueSuperAdminChallenge at issuing
  split at issuing
  · cases pure_ok.mp issuing
    cases pure_ok.mp ran
    exact ⟨.same,fun absurd => by cases absurd⟩
  · rename_i effective
    dsimp only at issuing
    split at issuing
    · cases pure_ok.mp issuing
      cases pure_ok.mp ran
      exact ⟨.same,fun absurd => by cases absurd⟩
    · rename_i below
      obtain ⟨account,inserted,issuing⟩ := bind_ok.mp issuing
      cases pure_ok.mp issuing
      obtain ⟨challenge,rfl,hashed,purpose,actor,issuedAt,_,limit,new,unused⟩ := insertChallenge_ok inserted
      have counted : AskedAdmin db old challenge := by
        refine ⟨actor,?_,issuedAt ▸ read,by simpa using effective,?_,⟨_,formed,limit⟩,new,unused⟩
        · rw [purpose]
          cases operation <;> decide
        · rw [purpose,issuedAt,limit]
          omega
      obtain ⟨⟨account,passed⟩,consumed,ran⟩ := bind_ok.mp ran
      unfold consumeSuperAdminChallenge at consumed
      rw [←hashed,challenge_inserted member unused] at consumed
      dsimp only at consumed
      obtain ⟨step,answered,consumed⟩ := bind_ok.mp consumed
      split at consumed
      · cases pure_ok.mp consumed
        cases pure_ok.mp ran
        exact ⟨.adminRefused challenge counted _,fun absurd => by cases absurd⟩
      · rename_i step
        split at consumed
        · cases pure_ok.mp consumed
          cases pure_ok.mp ran
          exact ⟨.adminRefused challenge counted _,fun absurd => by cases absurd⟩
        · rename_i fresh
          cases pure_ok.mp consumed
          cases pure_ok.mp ran
          unfold answeredStep at answered
          split at answered
          · obtain ⟨sealedSecret,_⟩ := verifyAccountTotp_ok answered
            have stepped : old.stepFresh step = true := by simpa [Account.stepFresh] using fresh
            exact ⟨.adminVerified challenge counted sealedSecret step stepped started.now old.reauthAttempts,
              fun _ => .adminVerified challenge counted sealedSecret step stepped started.now⟩
          · cases pure_ok.mp answered

structure Validated (old : Account) (tokenHash : String) (principal : SessionPrincipal) (session : Session) : Prop where
  found : old.session tokenHash = some session
  live : session.live = true
  allowed : allowed old session = true
  principal : principal = sessionPrincipal old session

theorem validateSession_ok (ran : validateSession tokenHash touch readOnly reading db old = .ok (new,response)) :
    (∃ change, Keeps change ∧ new = old.withSessions change) ∧ (readOnly = true → new = old) ∧
      (response = .invalid ∨ ∃ principal, response = .principal principal ∧ (touch = false → new = old) ∧
        ∃ session, Validated old tokenHash principal session) := by
  have unchanged : ∃ change, Keeps change ∧ old = old.withSessions change :=
    ⟨id,keeps_id,(withSessions_id old).symm⟩
  unfold validateSession at ran
  split at ran
  · cases pure_ok.mp ran
    exact ⟨unchanged,fun _ => rfl,.inl rfl⟩
  · rename_i session there
    split at ran
    · cases pure_ok.mp ran
      exact ⟨unchanged,fun _ => rfl,.inl rfl⟩
    · rename_i usable
      have shown : Validated old tokenHash (sessionPrincipal old session) session :=
        ⟨there,by simp_all,by simp_all,rfl⟩
      obtain ⟨idle,_,ran⟩ := bind_ok.mp ran
      split at ran
      · split at ran
        · cases pure_ok.mp ran
          exact ⟨unchanged,fun _ => rfl,.inl rfl⟩
        · rename_i writable
          cases pure_ok.mp ran
          exact ⟨revokeSession_keeps old (by decide),fun locked => absurd locked writable,.inl rfl⟩
      · split at ran
        · rename_i touched
          obtain ⟨hint,_,ran⟩ := bind_ok.mp ran
          cases pure_ok.mp ran
          exact ⟨touchSession_keeps old,fun locked => absurd locked (by simp_all),
            .inr ⟨_,rfl,fun untouched => by simp_all,session,shown⟩⟩
        · cases pure_ok.mp ran
          exact ⟨unchanged,fun _ => rfl,.inr ⟨_,rfl,fun _ => rfl,session,shown⟩⟩

theorem logout_ok (ran : logout tokenHash reading db old = .ok (new,response)) :
    AccountStep shown db old new ∧ ∃ revoked, response = .loggedOut revoked := by
  unfold logout at ran
  split at ran
  · cases pure_ok.mp ran
    exact ⟨.same,_,rfl⟩
  · cases pure_ok.mp ran
    have left : "LOGOUT" ≠ "SESSION_CAP" := by decide
    obtain ⟨revoke,revokes,gone⟩ := revokeSession_keeps old left
    exact ⟨gone ▸ .sessions revoke revokes,_,rfl⟩

theorem consumePolicyReauthentication_ok (member : old ∈ db.accounts)
    (ran : consumePolicyReauthentication security sessionHash code attemptId operation fresh opened issued started
      verified db old = .ok (new,response))
    (read : ReadUnderLock db old issued.now) (formed : issued.policy.wellFormed = true) :
    AccountStep shown db old new ∧ (∀ principal, response ≠ .principal principal) ∧
      (response.accepts = true → ∃ principal session, Validated old sessionHash principal session) := by
  have refused : (∀ principal, Response.denied .policyReauthenticationDenied ≠ .principal principal) ∧
      ((Response.denied .policyReauthenticationDenied).accepts = true →
        ∃ principal session, Validated old sessionHash principal session) :=
    ⟨fun _ => by simp,fun absurd => by cases absurd⟩
  unfold consumePolicyReauthentication at ran
  obtain ⟨⟨account,answer⟩,validated,rest⟩ := bind_ok.mp ran
  clear ran
  obtain ⟨⟨change,keeps,same⟩,_,answers⟩ := validateSession_ok validated
  have bookkept : AccountStep shown db old account := same ▸ .sessions change keeps
  dsimp only at rest
  split at rest
  · rename_i principal
    obtain ⟨_,same',untouched,session,shown⟩ := answers.resolve_left (by simp)
    cases same'
    have here : account = old := untouched rfl
    subst here
    split at rest
    · cases pure_ok.mp rest
      exact ⟨bookkept,refused⟩
    · split at rest
      · cases pure_ok.mp rest
        exact ⟨bookkept,refused⟩
      · obtain ⟨⟨changed,outcome⟩,verifying,rest⟩ := bind_ok.mp rest
        obtain ⟨step,receipt⟩ := verifyAdminTotp_ok member verifying read formed
        dsimp only at rest
        split at rest
        · cases pure_ok.mp rest
          exact ⟨step,refused⟩
        · cases pure_ok.mp rest
          exact ⟨receipt rfl _,fun _ => by simp,fun _ => ⟨principal,session,shown⟩⟩
  · cases pure_ok.mp rest
    exact ⟨bookkept,refused⟩

-- A reset and the revocation of every session that follows it.
def Cleared (old new : Account) : Prop :=
  ∃ changed now reason, Reset old changed ∧ reason ≠ "SESSION_CAP" ∧ new = changed.revokeSessions now reason none

theorem Cleared.gone (cleared : Cleared old new) : ∀ row ∈ new.sessions, row.live = false := by
  obtain ⟨changed,now,reason,_,_,rfl⟩ := cleared
  exact fun row member => revokeSessions_gone member (by simp)

theorem remains_ok (ran : ensureEffectiveSuperAdminRemains account others = .ok ()) :
    account.effective = true → others ≠ 0 := by
  unfold ensureEffectiveSuperAdminRemains at ran
  exact require_ok.mp ran

theorem issueTemp_ok (ran : issueTemp security db account fresh salt expiresAt reading = .ok new) :
    ∃ credentials, new = {account with credentials} := by
  unfold issueTemp at ran
  obtain ⟨expiry,_,ran⟩ := bind_ok.mp ran
  obtain ⟨_,ran⟩ := require_bind_ok.mp ran
  cases pure_ok.mp ran
  exact ⟨_,rfl⟩

theorem issueTempPassword_ok
    (ran : issueTempPassword security expectedVersion fresh salt others reading db old = .ok (new,response)) :
    Cleared old new ∧ (old.effective = true → others ≠ 0) ∧ response = .temporaryPassword old.id fresh.rawToken := by
  unfold issueTempPassword at ran
  obtain ⟨_,ran⟩ := require_bind_ok.mp ran
  obtain ⟨_,guarded,ran⟩ := bind_ok.mp ran
  obtain ⟨account,issued,ran⟩ := bind_ok.mp ran
  obtain ⟨credentials,rfl⟩ := issueTemp_ok issued
  cases pure_ok.mp ran
  exact ⟨⟨_,_,_,.password credentials,by decide,rfl⟩,remains_ok guarded,rfl⟩

theorem resetTotp_ok (ran : resetTotp expectedVersion others reading db old = .ok (new,response)) :
    Cleared old new ∧ (old.effective = true → others ≠ 0) ∧ ∃ version, response = .account old.id version := by
  unfold resetTotp at ran
  obtain ⟨_,ran⟩ := require_bind_ok.mp ran
  obtain ⟨_,guarded,ran⟩ := bind_ok.mp ran
  cases pure_ok.mp ran
  exact ⟨⟨_,_,_,.totp,by decide,rfl⟩,remains_ok guarded,_,rfl⟩

theorem setAccountStatus_ok
    (ran : setAccountStatus status expectedVersion others reading db old = .ok (new,response)) :
    ((status = .enabled ∧ AccountStep shown db old new) ∨
      (status ≠ .enabled ∧ Cleared old new ∧ (old.effective = true → others ≠ 0))) ∧
      ∃ version, response = .account old.id version := by
  unfold setAccountStatus at ran
  obtain ⟨_,ran⟩ := require_bind_ok.mp ran
  obtain ⟨_,allowed,ran⟩ := bind_ok.mp ran
  unfold ensureAccountTransitionAllowed at allowed
  obtain ⟨_,allowed⟩ := require_bind_ok.mp allowed
  have started := require_ok.mp allowed
  split at ran
  · rename_i enabled
    cases pure_ok.mp ran
    subst enabled
    exact ⟨.inl ⟨rfl,.enabled (started rfl).1 (started rfl).2⟩,_,rfl⟩
  · rename_i disabled
    obtain ⟨_,guarded,ran⟩ := bind_ok.mp ran
    cases pure_ok.mp ran
    refine ⟨.inr ⟨disabled,⟨_,_,_,.status status disabled,?_,rfl⟩,remains_ok guarded⟩,_,rfl⟩
    cases status <;> decide

theorem changeTarget_ok (ran : changeTarget desired expectedVersion others reading old = .ok new) :
    Cleared old new ∧ (old.effective = true → others ≠ 0) := by
  unfold changeTarget at ran
  obtain ⟨_,ran⟩ := require_bind_ok.mp ran
  obtain ⟨differs,ran⟩ := require_bind_ok.mp ran
  obtain ⟨_,ran⟩ := require_bind_ok.mp ran
  have ordinary (adding : desired = true) : old.effective = false := by
    subst adding
    simp [Account.effective,differs]
  have uncapped : (if desired then "SUPER_ADMIN_ADD" else "SUPER_ADMIN_REMOVE") ≠ "SESSION_CAP" := by
    cases desired <;> decide
  cases desired with
  | false =>
    obtain ⟨_,guarded,ran⟩ := bind_ok.mp ran
    cases pure_ok.mp ran
    exact ⟨⟨_,_,_,.superAdmin false ordinary,uncapped,rfl⟩,remains_ok guarded⟩
  | true =>
    cases pure_ok.mp ran
    refine ⟨⟨_,_,_,.superAdmin true ordinary,uncapped,rfl⟩,fun effective => ?_⟩
    rw [ordinary rfl] at effective
    cases effective

theorem recoverSuperAdmin_ok
    (ran : recoverSuperAdmin security recovery fresh salt others started db old = .ok (new,response)) :
    Cleared old new ∧ response = .temporaryPassword old.id fresh.rawToken := by
  unfold recoverSuperAdmin at ran
  obtain ⟨_,ran⟩ := require_bind_ok.mp ran
  obtain ⟨_,ran⟩ := require_bind_ok.mp ran
  obtain ⟨_,ran⟩ := require_bind_ok.mp ran
  obtain ⟨_,_,ran⟩ := bind_ok.mp ran
  obtain ⟨_,ran⟩ := require_bind_ok.mp ran
  obtain ⟨_,ran⟩ := require_bind_ok.mp ran
  obtain ⟨_,ran⟩ := require_bind_ok.mp ran
  obtain ⟨_,ran⟩ := require_bind_ok.mp ran
  obtain ⟨account,issued,ran⟩ := bind_ok.mp ran
  obtain ⟨credentials,rfl⟩ := issueTemp_ok issued
  cases pure_ok.mp ran
  exact ⟨⟨_,_,_,.recovery credentials,by decide,rfl⟩,rfl⟩

end EngineeringPlatform.Identity
