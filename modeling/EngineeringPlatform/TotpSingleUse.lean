import EngineeringPlatform.SuperAdminPreservation
import EngineeringPlatform.WindowedCounts
namespace EngineeringPlatform.Identity
open Checked PythonTime KeyedRows RowLocks TransitionRuns WindowedCounts

def AuthChallenge.adminKey (row : AuthChallenge) : Option Uuid × ChallengePurpose := (row.actorId,row.purpose)

def Account.adminChallenges (account : Account) : List AuthChallenge :=
  account.challenges.filter fun row => row.purpose ≠ .loginTotp

-- The administrator challenges of an account are its own, and each was issued
-- while fewer attempts were counted than the policy allowed.
structure AdminCounted (account : Account) : Prop where
  actors : ∀ row ∈ account.adminChallenges, row.actorId = some account.id
  capped : ∀ row ∈ account.adminChallenges, PolicyCap row.attemptLimit
  bounded : Bounded AuthChallenge.adminKey AuthChallenge.issuedAt AuthChallenge.attemptCount
    AuthChallenge.attemptLimit challengeTtl account.adminChallenges

variable {old new account : Account} {db : Database}

theorem AdminCounted.same (counted : AdminCounted old) (here : new.id = old.id)
    (kept : new.adminChallenges = old.adminChallenges) : AdminCounted new :=
  ⟨kept ▸ here ▸ counted.actors,kept ▸ counted.capped,kept ▸ counted.bounded⟩

-- Answers to login challenges do not count.
theorem adminChallenges_update (logins : ∀ row ∈ account.challenges, row.id = challengeId →
    row.purpose = .loginTotp) (keeps : ∀ row, (change row).purpose = row.purpose) :
    (account.updateChallenges challengeId change).adminChallenges = account.adminChallenges := by
  have purposes (row : AuthChallenge) : (if row.id = challengeId then change row else row).purpose = row.purpose := by
    split
    · exact keeps row
    · rfl
  unfold Account.adminChallenges Account.updateChallenges
  rw [List.filter_map]
  conv_rhs => rw [←List.map_id (account.challenges.filter _)]
  simp only [Function.comp_def,purposes]
  refine List.map_congr_left fun row member => ?_
  obtain ⟨there,admin⟩ := List.mem_filter.mp member
  simp only [ne_eq,decide_eq_true_eq] at admin
  exact if_neg fun same => admin (logins row there same)

theorem adminChallenges_asked (member : old ∈ db.accounts) (asked : AskedAdmin db old challenge)
    (keeps : ∀ row, (change row).purpose = row.purpose) :
    (Account.updateChallenges {old with challenges := old.challenges ++ [challenge]} challenge.id change).adminChallenges =
      old.adminChallenges ++ [change challenge] := by
  have others : old.challenges.map (fun row => if row.id = challenge.id then change row else row) = old.challenges := by
    conv_rhs => rw [←List.map_id old.challenges]
    refine List.map_congr_left fun row there => if_neg ?_
    exact challenge_unused member asked.unused row there
  unfold Account.adminChallenges Account.updateChallenges
  rw [List.map_append,others,List.filter_append]
  simp [keeps,asked.purpose]

theorem counted_asked {purpose : ChallengePurpose} (admin : purpose ≠ .loginTotp) :
    account.adminChallengeAttempts account.id purpose start = countedSince AuthChallenge.adminKey AuthChallenge.issuedAt
      AuthChallenge.attemptCount account.adminChallenges (some account.id,purpose) start := by
  unfold Account.adminChallengeAttempts countedSince Account.adminChallenges
  rw [List.filter_filter]
  congr 2
  refine List.filter_congr fun row _ => ?_
  unfold AuthChallenge.adminKey
  simp only [Prod.mk.injEq,ne_eq,Bool.decide_and]
  by_cases same : row.purpose = purpose
  · simp [same,admin]
  · simp [same]

-- A challenge that was answered in the transaction that issued it.
theorem AdminCounted.asked (counted : AdminCounted old) (asked : AskedAdmin db old challenge)
    (here : new.id = old.id) (grown : new.adminChallenges = old.adminChallenges ++ [answered])
    (same : answered.actorId = challenge.actorId ∧ answered.purpose = challenge.purpose ∧
      answered.issuedAt = challenge.issuedAt ∧ answered.attemptLimit = challenge.attemptLimit)
    (once : 0 ≤ challenge.attemptLimit → 0 ≤ answered.attemptCount ∧ answered.attemptCount ≤ 1) : AdminCounted new := by
  obtain ⟨actor,purpose,issuedAt,limit⟩ := same
  have before := asked.counted
  have forward := countedSince_forward counted.bounded (some old.id,challenge.purpose) (challenge.issuedAt - challengeTtl)
  rw [counted_asked asked.purpose] at before
  obtain ⟨positive,single⟩ := once (by omega)
  refine ⟨fun row member => ?_,fun row member => ?_,?_⟩
  · rw [grown] at member
    rw [here]
    rcases List.mem_append.mp member with known | fresh
    · exact counted.actors row known
    · rw [List.mem_singleton.mp fresh,actor,asked.actor]
  · rw [grown] at member
    rcases List.mem_append.mp member with known | fresh
    · exact counted.capped row known
    · rw [List.mem_singleton.mp fresh,limit]
      exact asked.capped
  · rw [grown]
    refine .snoc counted.bounded (fun row member => ?_) positive ?_
    · rw [issuedAt]
      exact asked.read.1.challenges row (List.mem_of_mem_filter member)
    · have named : answered.adminKey = (some old.id,challenge.purpose) := by
        unfold AuthChallenge.adminKey
        rw [actor,purpose,asked.actor]
      rw [named,issuedAt,limit]
      omega

theorem AccountStep.adminCounted (step : AccountStep shown db old new)
    (member : old ∈ db.accounts) (valid : old.Valid) (counted : AdminCounted old)
    (unguessed : ∀ tokenHash, shown = some tokenHash → ∀ row ∈ old.challenges, row.tokenHash = tokenHash →
      row.purpose = .loginTotp) : AdminCounted new := by
  have only {challenge : AuthChallenge} (there : challenge ∈ old.challenges) (login : challenge.purpose = .loginTotp) :
      ∀ row ∈ old.challenges, row.id = challenge.id → row.purpose = .loginTotp := by
    intro row present same
    rw [List.inj_on_of_nodup_map valid.challengeIds present there same]
    exact login
  cases step with
  | sessions change keeps => exact counted.same rfl rfl
  | password change keeps hash now read stays => exact counted.same rfl rfl
  | enabled started initialized => exact counted.same rfl rfl
  | enrolled change keeps session there live kind purpose sealedSecret => exact counted.same rfl rfl
  | completed session there live kind purpose named unexpired password sealedSecret step fresh now done issued read
      opened new cap forward =>
    obtain ⟨same,_,challenges,_⟩ := completeBootstrap_same done
    exact counted.same same (congrArg (List.filter _) challenges)
  | restarted credentials purpose pending issued read opened new => exact counted.same rfl rfl
  | challenged challenge login actor read verified password unused =>
    refine counted.same rfl ?_
    unfold Account.adminChallenges
    rw [List.filter_append]
    simp [login]
  | refused challenge there presented now =>
    refine counted.same rfl (adminChallenges_update (only there (unguessed _ presented challenge there rfl)) fun row => ?_)
    split
    · rfl
    · rfl
  | loggedIn challenge there login sealedSecret step fresh now issued read opened new cap forward =>
    have kept : (old.consumeChallenge challenge.id now).adminChallenges = old.adminChallenges :=
      adminChallenges_update (only there login) fun _ => rfl
    exact counted.same rfl kept
  | adminRefused challenge asked now =>
    obtain ⟨count,consumed,revoked⟩ := asked.started
    refine counted.asked asked rfl (adminChallenges_asked member asked fun row => ?_) ?_ fun positive => ?_
    · split
      · rfl
      · rfl
    · simp [consumed,revoked]
    · simp only [consumed,revoked,count,and_self,if_true]
      omega
  | adminVerified challenge asked sealedSecret step fresh now reauthAttempts =>
    obtain ⟨count,_,_⟩ := asked.started
    refine counted.asked asked rfl (adminChallenges_asked member asked fun _ => rfl) ⟨rfl,rfl,rfl,rfl⟩ fun positive => ?_
    simp only [count]
    omega

theorem Cleared.adminCounted (cleared : Cleared old new) (counted : AdminCounted old) : AdminCounted new := by
  obtain ⟨changed,now,reason,reset,_,rfl⟩ := cleared
  cases reset with
  | password credentials => exact counted.same rfl rfl
  | totp => exact counted.same rfl rfl
  | recovery credentials => exact counted.same rfl rfl
  | status status disabled => exact counted.same rfl rfl
  | superAdmin isSuperAdmin ordinary => exact counted.same rfl rfl

theorem Blank.adminCounted (blank : Blank account) : AdminCounted account := by
  have none : account.adminChallenges = [] := by
    unfold Account.adminChallenges
    rw [blank.challenges]
    rfl
  refine ⟨fun row member => ?_,fun row member => ?_,none ▸ .nil⟩
  · rw [none] at member
    cases member
  · rw [none] at member
    cases member

def Database.AdminCounted (db : Database) : Prop := ∀ account ∈ db.accounts, Identity.AdminCounted account

theorem Database.AdminCounted.put {changed : Account} (counted : db.AdminCounted) (valid : db.Valid)
    (found : db.accountById accountId = some account) (grown : Grown db account changed)
    (kept : Identity.AdminCounted changed) : (db.put changed).AdminCounted := by
  obtain ⟨_,here⟩ := account_found found
  have known : db.accountById changed.id = some account := by rw [grown.id,here,found]
  intro row there
  rcases mem_update valid.ids known there with ⟨old,_⟩ | rfl
  · exact counted row old
  · exact kept

-- Whoever presents the token of a challenge presents the one of a login challenge.
def Database.Logins (db : Database) (shown : Option String) : Prop :=
  ∀ account ∈ db.accounts, ∀ row ∈ account.challenges, some row.tokenHash = shown → row.purpose = .loginTotp

instance (db : Database) (shown : Option String) : Decidable (db.Logins shown) :=
  inferInstanceAs (Decidable (∀ account ∈ db.accounts, ∀ row ∈ account.challenges, some row.tokenHash = shown →
    row.purpose = .loginTotp))

theorem DatabaseStep.adminCounted {old new : Database} (step : DatabaseStep security holds request old new)
    (valid : old.Valid) (unguessed : old.Logins (request.presented security)) (counted : old.AdminCounted) :
    new.AdminCounted := by
  induction step with
  | backoffs backoffs => exact counted
  | created account unused blank =>
    intro row member
    rcases List.mem_append.mp member with known | single
    · exact counted row known
    · exact List.mem_singleton.mp single ▸ blank.adminCounted
  | account found mine step =>
    obtain ⟨member,_⟩ := account_found found
    refine counted.put valid found step.grown ?_
    refine step.adminCounted member (valid.accounts _ member).1 (counted _ member) fun tokenHash shown row there same => ?_
    exact unguessed _ member row there (by rw [same,shown])
  | cleared found mine guarded cleared remains =>
    exact counted.put valid found cleared.grown (cleared.adminCounted (counted _ (account_found found).1))
  | andThen silent first second one two =>
    refine two (first.valid valid) (fun _ _ _ _ absurd => ?_) (one valid unguessed counted)
    rw [silent] at absurd
    cases absurd

-- The token of an administrator challenge never leaves the transaction that issues
-- and answers it: no login that commits presents one.
def Unguessed (security : Security) (s : IdentitySystem) (label : IdentityLabel) : Bool :=
  (s.commits label).all fun committed => s.store.Logins (committed.1.presented security)

theorem step_counted {s next : IdentitySystem} {label : IdentityLabel} (valid : (rules security).Valid s)
    (unguessed : Unguessed security s label = true) (taken : (program security).step s label = some next)
    (counted : s.store.AdminCounted) : next.store.AdminCounted := by
  rcases step_commits taken with same | ⟨request,result,commits⟩ | ⟨event,_,moved⟩
  · rw [same]
    exact counted
  · obtain ⟨_,committed⟩ := (rules security).commits_ok valid commits
    obtain ⟨holds,step⟩ := committed.step
    unfold Unguessed at unguessed
    rw [commits] at unguessed
    exact step.adminCounted valid.store (by simpa using unguessed) counted
  · unfold Database.AdminCounted
    rw [elsewhere_accounts moved]
    exact counted

theorem runs_counted {s : IdentitySystem}
    (path : Runs (Guarded (fun s label => Unguessed security s label = true) (Enabled (program security).step))
      (.initial (.start clock)) labels s) : s.store.AdminCounted := by
  have keeps : Preserves (Guarded (fun s label => Unguessed security s label = true) (Enabled (program security).step))
      fun s : IdentitySystem => (rules security).Valid s ∧ s.store.AdminCounted :=
    fun s label next inv taken => ⟨(rules security).step_valid (follows security) inv.1 taken.2,
      step_counted inv.1 taken.1 taken.2 inv.2⟩
  exact (path.invariant keeps ⟨initial_valid security clock,(fun _ absurd => by cases absurd)⟩).2

-- The administrator challenges of one actor and purpose in the window from an instant.
def adminWindow (account : Account) (purpose : ChallengePurpose) (start : Instant) : List AuthChallenge :=
  account.challenges.filter fun row => row.actorId = some account.id ∧ row.purpose = purpose ∧
    start ≤ row.issuedAt ∧ row.issuedAt ≤ start + challengeTtl

theorem adminWindow_within (admin : purpose ≠ .loginTotp) :
    adminWindow account purpose start = within AuthChallenge.adminKey AuthChallenge.issuedAt challengeTtl
      account.adminChallenges (some account.id,purpose) start := by
  unfold adminWindow within Account.adminChallenges
  rw [List.filter_filter]
  refine List.filter_congr fun row _ => ?_
  unfold AuthChallenge.adminKey
  by_cases same : row.purpose = purpose
  · simp [same,admin]
  · simp [same]

theorem totp_single_use {s : IdentitySystem}
    (path : Runs (Enabled (program security).step) (.initial (.start clock)) labels s) :
    (∀ account ∈ s.store.accounts, Increasing account.totpHistory) ∧
      (Runs (Guarded (fun s label => Unguessed security s label = true) (Enabled (program security).step))
          (.initial (.start clock)) labels s →
        ∀ account ∈ s.store.accounts, ∀ purpose, purpose ≠ .loginTotp →
          (∀ row ∈ account.challenges, row.purpose = purpose → row.actorId = some account.id ∧
            PolicyCap row.attemptLimit) ∧
          ∀ start, adminWindow account purpose start = [] ∨
            ∃ last ∈ adminWindow account purpose start,
              (∀ other ∈ adminWindow account purpose start, other.issuedAt ≤ last.issuedAt) ∧
                ((adminWindow account purpose start).map AuthChallenge.attemptCount).sum ≤ last.attemptLimit) := by
  refine ⟨fun account member => ((reached_valid path).store.accounts account member).1.history,fun guarded account member
    purpose admin => ?_⟩
  have counted := runs_counted guarded account member
  refine ⟨fun row there same => ?_,fun start => ?_⟩
  · have chosen : row ∈ account.adminChallenges := List.mem_filter.mpr ⟨there,by simpa [same] using admin⟩
    exact ⟨counted.actors row chosen,counted.capped row chosen⟩
  · rw [adminWindow_within admin]
    exact counted.bounded.window_le _ start

-- An administrator added another one and then missed two codes of a policy
-- change.
def sampleAttempts : List IdentityLabel :=
  sampleAdministrators ++ [.elsewhere (.tick 30000000)] ++
    whole (.verifyPolicyTotp 1 .policyPublish "111111" ⟨31,"first"⟩) 6 ++
    whole (.verifyPolicyTotp 1 .policyPublish "111111" ⟨32,"second"⟩) 6

def sampleAttempted : IdentitySystem :=
  (execute (restrict (Unguessed sampleSecurity) (program sampleSecurity).step) sampleStart sampleAttempts).get
    (by decide +kernel)

theorem totp_single_use_attempts :
    (∀ account ∈ sampleAttempted.store.accounts, Increasing account.totpHistory) ∧
      (∀ account ∈ sampleAttempted.store.accounts, ∀ row ∈ account.challenges, row.purpose = .policyPublish →
        row.actorId = some account.id) ∧
      sampleAttempted.store.accounts.map (fun account =>
        ((adminWindow account .policyPublish sampleAttempted.store.clock).map (·.attemptCount),account.totpHistory.length)) =
          [([1,1],3),([],2)] := by
  have guarded : Runs (Guarded (fun s label => Unguessed sampleSecurity s label = true)
      (Enabled (program sampleSecurity).step)) (.initial (.start (800000 * day))) sampleAttempts sampleAttempted :=
    restrict_runs (execute_get (by decide +kernel))
  obtain ⟨increasing,counted⟩ := totp_single_use guarded.unguarded
  exact ⟨increasing,fun account member row there same =>
    ((counted guarded account member _ (by decide)).1 row there same).1,by decide +kernel⟩

end EngineeringPlatform.Identity
