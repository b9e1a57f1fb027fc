import EngineeringPlatform.SuperAdminPreservation
namespace EngineeringPlatform.Identity
open Checked PythonTime RowLocks TransitionRuns

-- The step commits a FULL session of `account` for `challenge`.
def IssuesFor (security : Security) (s : IdentitySystem) (label : IdentityLabel) (account : Account)
    (challenge : AuthChallenge) : Prop :=
  ∃ challengeToken code fresh next sessionId kind purpose,
    s.commits label = some (.loginTotpStep challengeToken code fresh,next,.issued account.id sessionId kind purpose) ∧
      s.store.accountById account.id = some account ∧
      account.challenge (security.tokenHash challengeToken) = some challenge

-- The password step behind the challenge verified the hash that the account has.
def ProvesPassword (account : Account) (challenge : AuthChallenge) : Prop :=
  account.passwordHash.isSome = true ∧ challenge.verifiedHash = account.passwordHash

-- No password was set from the instant on at which the challenge was issued.
def PasswordOlder (account : Account) (challenge : AuthChallenge) : Prop :=
  ∃ setAt, account.passwordSetAt = some setAt ∧ setAt < challenge.issuedAt

theorem login_proves_password {s : IdentitySystem} {label : IdentityLabel}
    (path : Runs (Enabled (program security).step) (.initial (.start clock)) labels s) :
    (∀ challengeToken code fresh next accountId sessionId kind purpose,
      s.commits label = some (.loginTotpStep challengeToken code fresh,next,.issued accountId sessionId kind purpose) →
        kind = .full ∧ ∃ account challenge, account.id = accountId ∧ IssuesFor security s label account challenge) ∧
      ∀ account challenge, IssuesFor security s label account challenge → PasswordOlder account challenge →
        ProvesPassword account challenge := by
  have valid := reached_valid path
  refine ⟨fun challengeToken code fresh next accountId sessionId kind purpose commits => ?_,?_⟩
  · obtain ⟨_,committed⟩ := (rules security).commits_ok valid commits
    obtain ⟨full,account,challenge,found,completed⟩ :=
      committed.outcome.loggedIn _ _ _ rfl accountId sessionId kind purpose rfl
    obtain ⟨_,rfl⟩ := account_found found
    exact ⟨full,account,challenge,rfl,_,_,_,_,_,_,_,commits,found,completed.found⟩
  · rintro account challenge ⟨challengeToken,code,fresh,next,sessionId,kind,purpose,commits,found,there⟩ ⟨setAt,password,older⟩
    obtain ⟨_,committed⟩ := (rules security).commits_ok valid commits
    obtain ⟨_,account',challenge',found',completed⟩ := committed.outcome.loggedIn _ _ _ rfl _ sessionId kind purpose rfl
    cases found'.symm.trans found
    cases completed.found.symm.trans there
    obtain ⟨sound,_⟩ := valid.store.accounts account (account_found found).1
    have initialized := sound.initialized completed.status
    simp only [Account.initialized,decide_eq_true_eq] at initialized
    exact ⟨initialized.1,sound.verified challenge (challenge_found there).1 completed.login setAt password older⟩

-- One account with a password and a factor, and an open login challenge.
def sampleChallenged : List IdentityLabel :=
  whole (.createAccount 1 "00000001" "one" none ⟨10,"temp"⟩ "salt") 2 ++
    sampleSetup "00000001" "temp" "boot" "full" 11 12 ++
    whole (.loginPasswordStep ⟨"00000001","web"⟩ "old" ⟨13,"challenge"⟩) 7

-- All of the second step but its commit.
def sampleSecondStep : List IdentityLabel :=
  [.elsewhere (.tick 60000000)] ++ whole (.loginTotpStep "challenge" "000000" ⟨19,"session"⟩) 5

def sampleLogin : IdentitySystem :=
  (execute (program sampleSecurity).step sampleStart (sampleChallenged ++ sampleSecondStep)).get (by decide +kernel)

-- The challenge of the sample, as its second step finds it.
theorem sample_issues {s : IdentitySystem} {test : Account → AuthChallenge → Bool}
    (commits : (s.commits (.advance 0 : IdentityLabel)).map (fun commit => (commit.1,commit.2.2)) =
      some (.loginTotpStep "challenge" "000000" ⟨19,"session"⟩,.issued 1 19 .full none))
    (tested : ((s.store.accountById 1).any fun account => (account.challenge "challenge").any (test account)) = true) :
    ∃ account challenge, IssuesFor sampleSecurity s (.advance 0) account challenge ∧ test account challenge = true := by
  obtain ⟨account,found,tested⟩ := (Option.any_eq_true _ _).mp tested
  obtain ⟨challenge,there,tested⟩ := (Option.any_eq_true _ _).mp tested
  obtain ⟨⟨request,next,response⟩,commits,same⟩ := Option.map_eq_some_iff.mp commits
  cases same
  have here : account.id = 1 := (account_found found).2
  exact ⟨account,challenge,⟨_,_,_,next,_,_,_,here ▸ commits,here ▸ found,there⟩,tested⟩

theorem login_proves_password_sample :
    ∃ account challenge, IssuesFor sampleSecurity sampleLogin (.advance 0) account challenge ∧
      ProvesPassword account challenge := by
  have path : Runs (Enabled (program sampleSecurity).step) (.initial (.start (800000 * day)))
      (sampleChallenged ++ sampleSecondStep) sampleLogin := execute_get (by decide +kernel)
  have older : ((sampleLogin.store.accountById 1).any fun account => (account.challenge "challenge").any
      fun challenge => account.passwordSetAt.any (· < challenge.issuedAt)) = true := by decide +kernel
  obtain ⟨account,challenge,issues,older⟩ := sample_issues (by decide +kernel) older
  obtain ⟨setAt,password,before⟩ := (Option.any_eq_true _ _).mp older
  exact ⟨account,challenge,issues,
    (login_proves_password path).2 account challenge issues ⟨setAt,password,of_decide_eq_true before⟩⟩

-- While the challenge is open the password is reset and set again.
def sampleReset : List IdentityLabel :=
  whole (.issueTempPassword 1 none ⟨14,"temp two"⟩ "salt") 6 ++
    whole (.loginPasswordStep ⟨"00000001","web"⟩ "temp two" ⟨15,"boot two"⟩) 7 ++
    whole (.completePasswordSetup "boot two" "new" "salt") 5 ++ [.elsewhere (.tick 60000000)] ++
    whole (.confirmTotp "boot two" "000000" ⟨16,"full two"⟩) 7

def sampleStale : IdentitySystem :=
  (execute (program sampleSecurity).step sampleStart (sampleChallenged ++ sampleReset ++ sampleSecondStep)).get
    (by decide +kernel)

theorem old_password_completes :
    ¬∀ labels s label account challenge,
      Runs (Enabled (program sampleSecurity).step) (.initial (.start (800000 * day))) labels s →
        IssuesFor sampleSecurity s label account challenge → ProvesPassword account challenge := by
  intro proves
  have path : Runs (Enabled (program sampleSecurity).step) (.initial (.start (800000 * day)))
      (sampleChallenged ++ sampleReset ++ sampleSecondStep) sampleStale := execute_get (by decide +kernel)
  have replaced : ((sampleStale.store.accountById 1).any fun account => (account.challenge "challenge").any
      fun challenge => challenge.verifiedHash ≠ account.passwordHash) = true := by decide +kernel
  obtain ⟨account,challenge,issues,replaced⟩ := sample_issues (by decide +kernel) replaced
  exact of_decide_eq_true replaced (proves _ _ _ account challenge path issues).2

end EngineeringPlatform.Identity
