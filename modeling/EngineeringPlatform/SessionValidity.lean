import EngineeringPlatform.SuperAdminPreservation
namespace EngineeringPlatform.Identity
open Checked PythonTime KeyedRows RowLocks TransitionRuns

-- No command that commits in a state of a later run accepts the token.
def NeverOpens (security : Security) (s : IdentitySystem) (tokenHash : String) : Prop :=
  ∀ labels next, Runs (Enabled (program security).step) s labels next →
    ∀ (label : IdentityLabel) request store response, next.commits label = some (request,store,response) →
      request.opens security = some tokenHash → response.accepts = false

theorem dead_never_opens {s : IdentitySystem} {account : Account} {row : Session} (valid : (rules security).Valid s)
    (found : s.store.accountById account.id = some account) (member : row ∈ account.sessions) (dead : row.live = false) :
    NeverOpens security s row.tokenHash := by
  intro labels next path label request store response commits opens
  have last := (rules security).runs_valid (follows security) path valid
  have rely : Rely (fun _ => False) s.store next.store := (rules security).runs_rely (follows security) path valid
  obtain ⟨after,there,lasting⟩ := rely.accounts account.id account found
  obtain ⟨gone,present,later⟩ := lasting.later row member
  obtain ⟨_,committed⟩ := (rules security).commits_ok last commits
  by_contra accepts
  obtain ⟨owner,session,shown,_⟩ := committed.outcome.opened row.tokenHash opens (by simpa using accepts)
  obtain ⟨listed,hashed⟩ := session_found shown.found
  obtain ⟨kept,_⟩ := account_found there
  have same := last.store.owners owner shown.member after kept session listed gone present (hashed.trans later.tokenHash.symm)
  have here := last.store.found shown.member
  rw [same,last.store.found kept] at here
  cases here
  have equal : session = gone := List.inj_on_of_nodup_map (last.store.accounts after kept).1.sessions.tokens listed
    present (hashed.trans later.tokenHash.symm)
  have live := shown.live
  rw [equal,later.dead dead] at live
  cases live

-- A session of the account that a step commits to, once it is dead after the step.
theorem cleared_never_opens {s next : IdentitySystem} {account : Account} {row : Session} (valid : (rules security).Valid s)
    (taken : (program security).step s label = some next) (found : s.store.accountById account.id = some account)
    (member : row ∈ account.sessions)
    (gone : ∀ after, next.store.accountById account.id = some after → ∀ last ∈ after.sessions, last.id = row.id →
      last.live = false) : NeverOpens security next row.tokenHash := by
  have path : Runs (Enabled (program security).step) s [label] next := .cons taken .nil
  have rely : Rely (fun _ => False) s.store next.store := (rules security).runs_rely (follows security) path valid
  obtain ⟨after,there,lasting⟩ := rely.accounts account.id account found
  obtain ⟨last,present,later⟩ := lasting.later row member
  have kept : next.store.accountById after.id = some after := by rw [(account_found there).2,there]
  have dead : last.live = false := gone after there last present later.id
  rw [←later.tokenHash]
  exact dead_never_opens ((rules security).step_valid (follows security) valid taken) kept present dead

-- A step that commits leaves the state that it commits.
theorem commits_store {s next : IdentitySystem} {label : IdentityLabel}
    (commits : s.commits label = some (request,store,response)) (taken : (program security).step s label = some next) :
    next.store = store := by
  obtain ⟨slot,rfl,body,found,ran⟩ := commits_some.mp commits
  obtain ⟨flight,there,moved⟩ := Option.bind_eq_some_iff.mp taken
  cases found.symm.trans there
  simp only [System.progress,ran] at moved
  cases Option.some.inj moved
  rfl

theorem session_validity {s : IdentitySystem}
    (path : Runs (Enabled (program security).step) (.initial (.start clock)) labels s) :
    (∀ account ∈ s.store.accounts, ∀ row ∈ account.sessions, row.live = false →
      NeverOpens security s row.tokenHash) ∧
    (∀ label request store response next, s.commits label = some (request,store,response) →
      (program security).step s label = some next →
        ∀ accountId, request.clears response = some accountId → ∀ account, s.store.accountById accountId = some account →
          ∀ row ∈ account.sessions, NeverOpens security next row.tokenHash) ∧
    (∀ label bootstrapToken password salt store next,
      s.commits label = some (.completePasswordSetup bootstrapToken password salt,store,.passwordSet) →
      (program security).step s label = some next →
        ∃ account session, Authenticated s.store (security.tokenHash bootstrapToken) account session ∧
          ∀ row ∈ account.sessions, row.id ≠ session.id → NeverOpens security next row.tokenHash) ∧
    (∀ account ∈ s.store.accounts, (account.sessions.countP Session.liveFull : Int) ≤ account.sessionCap ∧
      ∀ gone ∈ account.sessions, gone.revokeReason = some "SESSION_CAP" →
        ∀ row ∈ account.sessions, row.liveFull = true → gone.createdAt ≤ row.createdAt) ∧
    (∀ account ∈ s.store.accounts, account.status = .enabled → ∀ row ∈ account.sessions,
      row.bootstrapPurpose = some .initialSetup → NeverOpens security s row.tokenHash) := by
  have valid := reached_valid path
  refine ⟨fun account member row listed dead => ?_,fun label request store response next commits taken accountId clears
    account found row listed => ?_,fun label bootstrapToken password salt store next commits taken => ?_,
    fun account member => ?_,fun account member enabled row listed setup => ?_⟩
  · exact dead_never_opens valid (valid.store.found member) listed dead
  · obtain ⟨_,committed⟩ := (rules security).commits_ok valid commits
    obtain ⟨_,rfl⟩ := account_found found
    refine cleared_never_opens valid taken found listed fun after there last present _ => ?_
    rw [commits_store commits taken] at there
    exact committed.outcome.cleared account.id clears after there last present
  · obtain ⟨_,committed⟩ := (rules security).commits_ok valid commits
    obtain ⟨account,session,shown,gone⟩ := committed.outcome.passwordSet _ _ _ rfl rfl
    refine ⟨account,session,shown,fun row listed differs => ?_⟩
    refine cleared_never_opens valid taken (valid.store.found shown.member) listed fun after there last present same => ?_
    rw [commits_store commits taken] at there
    exact gone after there last present (same ▸ differs)
  · have sessions := (valid.store.accounts account member).1.sessions
    exact ⟨sessions.capped,sessions.newest⟩
  · have dead : row.live = false := by
      by_contra live
      have pending := (valid.store.accounts account member).1.setup row listed (by simpa using live) _ setup (by decide)
      cases pending.symm.trans enabled
    exact dead_never_opens valid (valid.store.found member) listed dead

-- An account sets itself up and its FULL session logs out.
def sampleLogout : List IdentityLabel :=
  whole (.createAccount 1 "00000001" "one" none ⟨10,"temp"⟩ "salt") 2 ++
    sampleSetup "00000001" "temp" "boot" "full" 11 12 ++ whole (.validateSession "full" true) 4 ++
    whole (.logout "full") 4

def sampleLoggedOut : IdentitySystem :=
  (execute (program sampleSecurity).step sampleStart sampleLogout).get (by decide +kernel)

theorem session_validity_logout : NeverOpens sampleSecurity sampleLoggedOut "full" := by
  have path : Runs (Enabled (program sampleSecurity).step) (.initial (.start (800000 * day))) sampleLogout
      sampleLoggedOut := execute_get (by decide +kernel)
  have left : (sampleLoggedOut.store.accounts.any fun account => account.sessions.any fun row =>
      row.live = false ∧ row.tokenHash = "full") = true := by decide +kernel
  obtain ⟨account,member,left⟩ := List.any_eq_true.mp left
  obtain ⟨row,listed,left⟩ := List.any_eq_true.mp left
  obtain ⟨dead,hashed⟩ := of_decide_eq_true left
  exact hashed ▸ (session_validity path).1 account member row listed dead

end EngineeringPlatform.Identity
