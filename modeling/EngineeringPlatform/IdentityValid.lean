import EngineeringPlatform.IdentityInvariant
namespace EngineeringPlatform.Identity
open Checked PythonTime KeyedRows

-- What holds of every account between two transactions.
structure Account.Valid (account : Account) : Prop where
  sessions : SessionsValid account.sessions account.sessionCap
  challengeIds : KeyedRows.Unique AuthChallenge.id account.challenges
  initialized : account.status = .enabled → account.initialized = true
  factor : account.totpConfirmedAt.isSome = true → account.totpSealed.isSome = true
  setup : ∀ row ∈ account.sessions, row.live = true → ∀ purpose, row.bootstrapPurpose = some purpose →
    purpose ≠ .passwordExpired → account.status = .pendingInit
  history : Increasing account.totpHistory
  lastStep : account.totpSealed.isSome = true → UpTo account.totpHistory account.totpLastStep
  verified : ∀ challenge ∈ account.challenges, challenge.purpose = .loginTotp →
    ∀ setAt, account.passwordSetAt = some setAt → setAt < challenge.issuedAt →
      challenge.verifiedHash = account.passwordHash

variable {session : Session} {account middle old new : Account} {db : Database}

namespace Account.Valid
variable {account : Account}

theorem withSessions (valid : account.Valid) (keeps : Keeps change) : (account.withSessions change).Valid := by
  refine ⟨valid.sessions.kept keeps,valid.challengeIds,valid.initialized,valid.factor,?_,valid.history,
    valid.lastStep,valid.verified⟩
  intro row member live purpose named unexpired
  obtain ⟨before,there,rfl⟩ := List.mem_map.mp member
  exact valid.setup before there ((keeps before).live live) purpose ((keeps before).bootstrapPurpose ▸ named) unexpired

theorem revokeSessions (valid : account.Valid) (uncapped : reason ≠ "SESSION_CAP") :
    (account.revokeSessions now reason stays).Valid := by
  obtain ⟨revoke,revokes,gone⟩ : ∃ change, Keeps change ∧
      account.revokeSessions now reason stays = account.withSessions change := revokeSessions_keeps account uncapped
  exact gone ▸ valid.withSessions revokes

theorem updatePassword {hash : String} (valid : account.Valid) (dated : account.Dated now) : (account.updatePassword hash now).Valid := by
  refine ⟨valid.sessions,valid.challengeIds,?_,valid.factor,valid.setup,valid.history,valid.lastStep,?_⟩
  · intro enabled
    have before := valid.initialized enabled
    simp only [Account.initialized,decide_eq_true_eq] at before ⊢
    exact ⟨rfl,before.2⟩
  · intro challenge member login setAt same earlier
    cases same
    exact absurd (dated.challenges challenge member) (not_le.mpr earlier)

theorem updateChallenges (valid : account.Valid)
    (keeps : ∀ row, (change row).id = row.id ∧ (change row).purpose = row.purpose ∧
      (change row).issuedAt = row.issuedAt ∧ (change row).verifiedHash = row.verifiedHash) :
    (account.updateChallenges challengeId change).Valid := by
  have kept (row : AuthChallenge) : (if row.id = challengeId then change row else row).id = row.id := by
    split
    · exact (keeps row).1
    · rfl
  refine ⟨valid.sessions,?_,valid.initialized,valid.factor,valid.setup,valid.history,valid.lastStep,?_⟩
  · unfold KeyedRows.Unique Account.updateChallenges
    rw [List.map_map,show (AuthChallenge.id ∘ fun row => if row.id = challengeId then change row else row) =
      AuthChallenge.id from funext kept]
    exact valid.challengeIds
  · intro challenge member login setAt same earlier
    obtain ⟨before,there,rfl⟩ := List.mem_map.mp member
    by_cases chosen : before.id = challengeId
    · rw [if_pos chosen] at login earlier ⊢
      obtain ⟨_,purpose,issuedAt,verifiedHash⟩ := keeps before
      rw [verifiedHash]
      exact valid.verified before there (purpose ▸ login) setAt same (issuedAt ▸ earlier)
    · rw [if_neg chosen] at login earlier ⊢
      exact valid.verified before there login setAt same earlier

theorem failChallenge (valid : account.Valid) : (account.failChallenge challengeId now).Valid := by
  refine valid.updateChallenges fun row => ?_
  split
  · exact ⟨rfl,rfl,rfl,rfl⟩
  · exact ⟨rfl,rfl,rfl,rfl⟩

theorem consumeChallenge (valid : account.Valid) : (account.consumeChallenge challengeId now).Valid :=
  valid.updateChallenges fun _ => ⟨rfl,rfl,rfl,rfl⟩

theorem addChallenge {challenge : AuthChallenge} (valid : account.Valid) (unused : ∀ row ∈ account.challenges, row.id ≠ challenge.id)
    (verified : challenge.purpose = .loginTotp → challenge.verifiedHash = account.passwordHash) :
    ({account with challenges := account.challenges ++ [challenge]} : Account).Valid := by
  refine ⟨valid.sessions,concat_unique valid.challengeIds unused,valid.initialized,valid.factor,valid.setup,
    valid.history,valid.lastStep,?_⟩
  intro other member login setAt same earlier
  rcases List.mem_append.mp member with member | single
  · exact valid.verified other member login setAt same earlier
  · cases List.mem_singleton.mp single
    exact verified login

theorem acceptStep (valid : account.Valid) (sealedSecret : account.totpSealed.isSome = true)
    (fresh : account.stepFresh step = true) : ((account.updateTotpStep step).remember (.accepted step)).Valid :=
  ⟨valid.sessions,valid.challengeIds,valid.initialized,valid.factor,valid.setup,
    valid.history.accepted (valid.lastStep sealedSecret) fresh,
    (fun _ => (valid.lastStep sealedSecret).accepted fresh),valid.verified⟩

theorem openBootstrap (valid : account.Valid) (unused : Unused account.sessions session)
    (opened : Opened db session .bootstrap (some purpose) issued)
    (pending : purpose ≠ .passwordExpired → account.status = .pendingInit) (credentials : List TempCredential) :
    ({account with credentials, sessions := account.sessions ++ [session]} : Account).Valid := by
  refine ⟨valid.sessions.bootstrap unused opened,valid.challengeIds,valid.initialized,valid.factor,?_,valid.history,
    valid.lastStep,valid.verified⟩
  intro row member live other named unexpired
  rcases List.mem_append.mp member with member | single
  · exact valid.setup row member live other named unexpired
  · cases List.mem_singleton.mp single
    cases Option.some.inj (opened.purpose.symm.trans named)
    exact pending unexpired

theorem openFull (valid : account.Valid) (unused : Unused account.sessions session)
    (opened : Opened db session .full none issued) (dated : account.Dated issued) (forward : 0 ≤ cap) :
    (account.openFull session cap now).Valid := by
  refine ⟨valid.sessions.full unused opened dated.sessions forward,valid.challengeIds,valid.initialized,valid.factor,?_,
    valid.history,valid.lastStep,valid.verified⟩
  intro row member live other named unexpired
  unfold Account.openFull at member
  rw [evicted_row] at member
  obtain ⟨before,there,rfl⟩ := List.mem_map.mp member
  split at live
  · simp [Session.live,Session.revoke] at live
  · rename_i stays
    rw [if_neg stays] at named
    rcases List.mem_append.mp there with there | single
    · exact valid.setup before there live other named unexpired
    · rw [List.mem_singleton.mp single,opened.purpose] at named
      cases named

-- Both ways to complete a bootstrap enable an account that has a password.
theorem completed (valid : account.Valid) (password : account.passwordHash.isSome = true)
    (sealedSecret : account.totpSealed.isSome = true) (fresh : account.stepFresh step = true)
    (done : completeBootstrap purpose step now account = some middle) :
    ((middle.remember (.accepted step)).revokeSessions now "BOOTSTRAP_COMPLETED" none).Valid := by
  have sessions : (account.revokeSessions now "BOOTSTRAP_COMPLETED" none).Valid := valid.revokeSessions (by decide)
  have gone : ∀ row ∈ (account.revokeSessions now "BOOTSTRAP_COMPLETED" none).sessions, row.live = true → False := by
    intro row member live
    rw [revokeSessions_gone member (by simp)] at live
    cases live
  have history := valid.history.accepted (valid.lastStep sealedSecret) fresh
  have lastStep := (valid.lastStep sealedSecret).accepted fresh
  unfold completeBootstrap at done
  split at done
  · cases done
    exact ⟨sessions.sessions,valid.challengeIds,(fun _ => by
      simpa [Account.initialized,Account.remember,Account.confirmTotp,Account.revokeSessions,
        Account.updateSessions] using password),(fun _ => sealedSecret),
      (fun row member live => (gone row member live).elim),history,(fun _ => lastStep),valid.verified⟩
  · split at done
    · cases done
    · rename_i confirmed
      have initialized : account.initialized = true := by
        simp only [Account.initialized,decide_eq_true_eq]
        exact ⟨password,Option.isSome_iff_ne_none.mpr confirmed⟩
      cases done
      unfold Account.restorePasswordReset
      rw [if_pos initialized]
      exact ⟨sessions.sessions,valid.challengeIds,(fun _ => initialized),valid.factor,
        (fun row member live => (gone row member live).elim),history,(fun _ => lastStep),valid.verified⟩

theorem enrolled (valid : account.Valid) (pending : account.status = .pendingInit) :
    ((account.updateTotpEnrollment sealedSecret).remember .enrolled).Valid := by
  refine ⟨valid.sessions,valid.challengeIds,?_,?_,valid.setup,valid.history.enrolled,(fun _ => .enrolled),
    valid.verified⟩
  · intro enabled
    cases pending.symm.trans enabled
  · intro confirmed
    cases confirmed

end Account.Valid

theorem completeBootstrap_same (done : completeBootstrap purpose step now account = some middle) :
    middle.id = account.id ∧ middle.sessions = account.sessions ∧ middle.challenges = account.challenges ∧
      middle.passwordSetAt = account.passwordSetAt ∧ middle.isSuperAdmin = account.isSuperAdmin := by
  unfold completeBootstrap at done
  split at done
  · cases done
    exact ⟨rfl,rfl,rfl,rfl,rfl⟩
  · split at done
    · cases done
    · cases done
      unfold Account.restorePasswordReset
      split
      · exact ⟨rfl,rfl,rfl,rfl,rfl⟩
      · exact ⟨rfl,rfl,rfl,rfl,rfl⟩

theorem Account.Dated.withSessions (dated : account.Dated now) (keeps : Keeps change) :
    (account.withSessions change).Dated now := by
  refine ⟨fun row member => ?_,dated.challenges,dated.password⟩
  obtain ⟨before,there,rfl⟩ := List.mem_map.mp member
  exact (keeps before).createdAt ▸ dated.sessions before there

theorem Account.Dated.updateChallenges (dated : account.Dated now)
    (keeps : ∀ row, (change row).issuedAt = row.issuedAt) : (account.updateChallenges challengeId change).Dated now := by
  refine ⟨dated.sessions,fun row member => ?_,dated.password⟩
  obtain ⟨before,there,rfl⟩ := List.mem_map.mp member
  split
  · exact keeps before ▸ dated.challenges before there
  · exact dated.challenges before there

theorem Account.Dated.completed (dated : account.Dated issued)
    (done : completeBootstrap purpose step now account = some middle) (uncapped : reason ≠ "SESSION_CAP") :
    ((middle.remember event).revokeSessions now reason stays).Dated issued := by
  obtain ⟨_,sessions,challenges,password,_⟩ := completeBootstrap_same done
  have same : (middle.remember event).Dated issued :=
    ⟨sessions ▸ dated.sessions,challenges ▸ dated.challenges,password ▸ dated.password⟩
  obtain ⟨revoke,revokes,gone⟩ : ∃ change, Keeps change ∧ (middle.remember event).revokeSessions now reason stays =
      (middle.remember event).withSessions change := revokeSessions_keeps (middle.remember event) uncapped
  exact gone ▸ same.withSessions revokes

theorem Unused.completed (unused : Unused account.sessions session)
    (done : completeBootstrap purpose step now account = some middle) (uncapped : reason ≠ "SESSION_CAP") :
    Unused ((middle.remember event).revokeSessions now reason stays).sessions session := by
  obtain ⟨_,sessions,_⟩ := completeBootstrap_same done
  obtain ⟨revoke,revokes,gone⟩ : ∃ change, Keeps change ∧ (middle.remember event).revokeSessions now reason stays =
      (middle.remember event).withSessions change := revokeSessions_keeps (middle.remember event) uncapped
  rw [gone]
  refine ⟨fun row member => ?_,fun row member => ?_⟩
  · obtain ⟨before,there,rfl⟩ := List.mem_map.mp member
    exact (revokes before).id ▸ unused.id before (sessions ▸ there)
  · obtain ⟨before,there,rfl⟩ := List.mem_map.mp member
    exact (revokes before).tokenHash ▸ unused.tokenHash before (sessions ▸ there)

theorem challenge_unused (member : account ∈ db.accounts)
    (unused : db.challengeUnused challengeId tokenHash = true) : ∀ row ∈ account.challenges, row.id ≠ challengeId := by
  intro row there
  have others := List.all_eq_true.mp (List.all_eq_true.mp unused account member) row there
  simp only [decide_eq_true_eq] at others
  exact others.1

theorem AccountStep.valid (step : AccountStep shown db old new)
    (member : old ∈ db.accounts) (valid : old.Valid) : new.Valid := by
  cases step with
  | sessions change keeps => exact valid.withSessions keeps
  | password change keeps hash now read stays =>
    have changed : "PASSWORD_CHANGED" ≠ "SESSION_CAP" := by decide
    exact ((valid.withSessions keeps).updatePassword (read.1.withSessions keeps)).revokeSessions changed
  | enabled started initialized =>
    exact ⟨valid.sessions,valid.challengeIds,(fun _ => initialized),valid.factor,
      (fun row there live purpose named unexpired => absurd (valid.setup row there live purpose named unexpired) started),
      valid.history,valid.lastStep,valid.verified⟩
  | enrolled change keeps session there live kind purpose sealedSecret =>
    exact (valid.withSessions keeps).enrolled (valid.setup session there live _ purpose (by decide))
  | completed session there live kind purpose named unexpired password sealedSecret step fresh now done issued read
      opened new cap forward =>
    have bootstrapped : "BOOTSTRAP_COMPLETED" ≠ "SESSION_CAP" := by decide
    exact (valid.completed password sealedSecret fresh done).openFull ((new.fresh member).completed done bootstrapped) new
      (read.1.completed done bootstrapped) forward
  | restarted credentials purpose pending issued read opened new =>
    exact valid.openBootstrap (new.fresh member) new pending credentials
  | challenged challenge login actor read verified password unused =>
    exact valid.addChallenge (challenge_unused member unused) fun _ => verified
  | refused challenge there presented now => exact valid.failChallenge
  | loggedIn challenge there login sealedSecret step fresh now issued read opened new cap forward =>
    have unused : Unused old.sessions opened := new.fresh member
    have accepted : Account.Valid (Account.consumeChallenge _ challenge.id now) :=
      (valid.acceptStep sealedSecret fresh).consumeChallenge
    have dated : (old.consumeChallenge challenge.id now).Dated issued := read.1.updateChallenges fun _ => rfl
    exact accepted.openFull unused new ⟨dated.sessions,dated.challenges,dated.password⟩ forward
  | adminRefused challenge asked now =>
    exact (valid.addChallenge (challenge_unused member asked.unused) fun login => absurd login asked.purpose).failChallenge
  | adminVerified challenge asked sealedSecret step fresh now reauthAttempts =>
    have added := valid.addChallenge (challenge_unused member asked.unused) fun login => absurd login asked.purpose
    have accepted := added.acceptStep sealedSecret fresh
    have done : Account.Valid (Account.consumeChallenge _ challenge.id now) := accepted.consumeChallenge
    exact ⟨done.sessions,done.challengeIds,done.initialized,done.factor,done.setup,done.history,done.lastStep,done.verified⟩

theorem Reset.valid {changed : Account} (reset : Reset old changed) (valid : old.Valid) (uncapped : reason ≠ "SESSION_CAP") :
    (changed.revokeSessions now reason none).Valid := by
  have sessions : (old.revokeSessions now reason none).Valid := valid.revokeSessions uncapped
  have gone : ∀ row ∈ (old.revokeSessions now reason none).sessions, row.live = true → False := by
    intro row member live
    rw [revokeSessions_gone member (by simp)] at live
    cases live
  cases reset with
  | password credentials =>
    exact ⟨sessions.sessions,valid.challengeIds,(fun enabled => by cases enabled),valid.factor,
      (fun row member live => (gone row member live).elim),valid.history,valid.lastStep,
      fun _ _ _ _ absurd => by cases absurd⟩
  | totp =>
    exact ⟨sessions.sessions,valid.challengeIds,(fun enabled => by cases enabled),(fun absurd => by cases absurd),
      (fun row member live => (gone row member live).elim),valid.history,(fun absurd => by cases absurd),valid.verified⟩
  | recovery credentials =>
    exact ⟨sessions.sessions,valid.challengeIds,(fun enabled => by cases enabled),(fun absurd => by cases absurd),
      (fun row member live => (gone row member live).elim),valid.history,(fun absurd => by cases absurd),
      fun _ _ _ _ absurd => by cases absurd⟩
  | status status disabled =>
    exact ⟨sessions.sessions,valid.challengeIds,(fun enabled => absurd enabled disabled),valid.factor,
      (fun row member live => (gone row member live).elim),valid.history,valid.lastStep,valid.verified⟩
  | superAdmin isSuperAdmin ordinary =>
    exact ⟨sessions.sessions,valid.challengeIds,valid.initialized,valid.factor,
      (fun row member live => (gone row member live).elim),valid.history,valid.lastStep,valid.verified⟩

theorem Cleared.valid (cleared : Cleared old new) (valid : old.Valid) : new.Valid := by
  obtain ⟨changed,now,reason,reset,uncapped,rfl⟩ := cleared
  exact reset.valid valid uncapped

-- How the sessions of an account look after a command: none is forgotten, none
-- comes back, and at most one that no account had is new.
structure Session.Later (old new : Session) : Prop where
  id : new.id = old.id
  tokenHash : new.tokenHash = old.tokenHash
  dead : old.live = false → new.live = false

structure Grown (db : Database) (old new : Account) : Prop where
  id : new.id = old.id
  later : ∀ row ∈ old.sessions, ∃ after ∈ new.sessions, row.Later after
  known : ∀ row ∈ new.sessions, (∃ before ∈ old.sessions, before.Later row) ∨ db.sessionUnused row.id row.tokenHash = true

theorem Session.Kept.later {old new : Session} (kept : old.Kept new) : old.Later new := by
  refine ⟨kept.id,kept.tokenHash,fun dead => ?_⟩
  by_contra live
  rw [kept.live (by simpa using live)] at dead
  cases dead

theorem Session.Later.refl (row : Session) : row.Later row := ⟨rfl,rfl,fun dead => dead⟩

theorem Session.Later.trans {one two three : Session} (first : one.Later two) (second : two.Later three) :
    one.Later three :=
  ⟨second.id.trans first.id,second.tokenHash.trans first.tokenHash,fun dead => second.dead (first.dead dead)⟩

theorem Grown.untouched (same : new.id = old.id) (sessions : new.sessions = old.sessions) :
    Grown db old new := by
  refine ⟨same,fun row member => ⟨row,sessions ▸ member,.refl row⟩,fun row member => ?_⟩
  exact .inl ⟨row,sessions ▸ member,.refl row⟩

theorem Grown.map {next : Account} {change : Session → Session} (grown : Grown db old new)
    (same : next.id = new.id) (changed : next.sessions = new.sessions.map change)
    (later : ∀ row : Session, row.Later (change row)) : Grown db old next := by
  refine ⟨same.trans grown.id,fun row member => ?_,fun row member => ?_⟩
  · obtain ⟨after,there,moved⟩ := grown.later row member
    exact ⟨change after,changed ▸ List.mem_map_of_mem there,moved.trans (later after)⟩
  · rw [changed] at member
    obtain ⟨before,there,rfl⟩ := List.mem_map.mp member
    rcases grown.known before there with ⟨first,known,earlier⟩ | unused
    · exact .inl ⟨first,known,earlier.trans (later before)⟩
    · exact .inr (by rw [(later before).id,(later before).tokenHash]; exact unused)

theorem Grown.open {next : Account} (grown : Grown db old new) (same : next.id = new.id)
    (opened : next.sessions = new.sessions ++ [session])
    (unused : db.sessionUnused session.id session.tokenHash = true) : Grown db old next := by
  refine ⟨same.trans grown.id,fun row member => ?_,fun row member => ?_⟩
  · obtain ⟨after,there,moved⟩ := grown.later row member
    exact ⟨after,opened ▸ List.mem_append_left _ there,moved⟩
  · rw [opened] at member
    rcases List.mem_append.mp member with known | fresh
    · exact grown.known row known
    · cases List.mem_singleton.mp fresh
      exact .inr unused

theorem Grown.openFull (grown : Grown db old new) (opened : Opened db session shape why issued) :
    Grown db old (new.openFull session cap now) := by
  have asked : Grown db old {new with sessions := new.sessions ++ [session]} := grown.open rfl rfl opened.unused
  refine asked.map rfl (evicted_row _ cap now) fun row => ?_
  split
  · exact ⟨rfl,rfl,fun _ => rfl⟩
  · exact .refl row

theorem Grown.revokeSessions (grown : Grown db old new) :
    Grown db old (new.revokeSessions now reason stays) := by
  refine grown.map rfl rfl fun row => ?_
  split
  · exact ⟨rfl,rfl,fun _ => rfl⟩
  · exact .refl row

theorem AccountStep.grown (step : AccountStep shown db old new) : Grown db old new := by
  have unchanged : Grown db old old := .untouched rfl rfl
  cases step with
  | sessions change keeps => exact unchanged.map rfl rfl fun row => (keeps row).later
  | password change keeps hash now read stays =>
    have kept : Grown db old ((old.withSessions change).updatePassword hash now) :=
      unchanged.map rfl rfl fun row => (keeps row).later
    exact kept.revokeSessions
  | enabled started initialized => exact .untouched rfl rfl
  | enrolled change keeps session there live kind purpose sealedSecret =>
    exact unchanged.map rfl rfl fun row => (keeps row).later
  | completed session there live kind purpose named unexpired password sealedSecret step fresh now done issued read
      opened new cap forward =>
    obtain ⟨same,sessions,_⟩ := completeBootstrap_same done
    have remembered : Grown db old (Account.remember _ (.accepted step)) := .untouched same sessions
    exact remembered.revokeSessions.openFull new
  | restarted credentials purpose pending issued read opened new =>
    exact unchanged.open rfl rfl new.unused
  | challenged challenge login actor read verified password unused => exact .untouched rfl rfl
  | refused challenge there presented now => exact .untouched rfl rfl
  | loggedIn challenge there login sealedSecret step fresh now issued read opened new cap forward =>
    exact Grown.openFull (Grown.untouched rfl rfl) new
  | adminRefused challenge asked now => exact .untouched rfl rfl
  | adminVerified challenge asked sealedSecret step fresh now reauthAttempts => exact .untouched rfl rfl

theorem Cleared.grown (cleared : Cleared old new) : Grown db old new := by
  obtain ⟨changed,now,reason,reset,_,rfl⟩ := cleared
  cases reset with
  | password credentials => exact Grown.revokeSessions (.untouched rfl rfl)
  | totp => exact Grown.revokeSessions (.untouched rfl rfl)
  | recovery credentials => exact Grown.revokeSessions (.untouched rfl rfl)
  | status status disabled => exact Grown.revokeSessions (.untouched rfl rfl)
  | superAdmin isSuperAdmin ordinary => exact Grown.revokeSessions (.untouched rfl rfl)

theorem Account.Dated.revokeSessions (dated : account.Dated limit) :
    (account.revokeSessions now reason stays).Dated limit := by
  refine ⟨fun row member => ?_,dated.challenges,dated.password⟩
  obtain ⟨before,there,rfl⟩ := List.mem_map.mp member
  split
  · exact dated.sessions before there
  · exact dated.sessions before there

theorem Account.Dated.openFull (dated : account.Dated limit)
    (opened : Opened db session shape why issued) (past : issued ≤ limit) : (account.openFull session cap now).Dated limit := by
  refine ⟨fun row member => ?_,dated.challenges,dated.password⟩
  unfold Account.openFull at member
  rw [evicted_row] at member
  obtain ⟨before,there,rfl⟩ := List.mem_map.mp member
  have created : before.createdAt ≤ limit := by
    rcases List.mem_append.mp there with there | single
    · exact dated.sessions before there
    · rw [List.mem_singleton.mp single,opened.createdAt]
      exact past
  split
  · exact created
  · exact created

theorem Account.Dated.addChallenge {challenge : AuthChallenge} (dated : account.Dated limit)
    (past : challenge.issuedAt ≤ limit) :
    ({account with challenges := account.challenges ++ [challenge]} : Account).Dated limit := by
  refine ⟨dated.sessions,fun row member => ?_,dated.password⟩
  rcases List.mem_append.mp member with there | single
  · exact dated.challenges row there
  · exact List.mem_singleton.mp single ▸ past

theorem Account.Dated.failChallenge (dated : account.Dated limit) :
    (account.failChallenge challengeId now).Dated limit := by
  refine dated.updateChallenges fun row => ?_
  split
  · rfl
  · rfl

theorem AccountStep.dated (step : AccountStep shown db old new)
    (dated : old.Dated db.clock) : new.Dated db.clock := by
  cases step with
  | sessions change keeps => exact dated.withSessions keeps
  | password change keeps hash now read stays =>
    have kept := dated.withSessions keeps
    have updated : ((old.withSessions change).updatePassword hash now).Dated db.clock :=
      ⟨kept.sessions,kept.challenges,fun setAt same => Option.some.inj same ▸ read.2⟩
    exact updated.revokeSessions
  | enabled started initialized => exact ⟨dated.sessions,dated.challenges,dated.password⟩
  | enrolled change keeps session there live kind purpose sealedSecret =>
    have kept := dated.withSessions keeps
    exact ⟨kept.sessions,kept.challenges,kept.password⟩
  | completed session there live kind purpose named unexpired password sealedSecret step fresh now done issued read
      opened new cap forward =>
    exact (dated.completed done (by decide : "BOOTSTRAP_COMPLETED" ≠ "SESSION_CAP")).openFull new read.2
  | restarted credentials purpose pending issued read opened new =>
    refine ⟨fun row member => ?_,dated.challenges,dated.password⟩
    rcases List.mem_append.mp member with there | single
    · exact dated.sessions row there
    · rw [List.mem_singleton.mp single,new.createdAt]
      exact read.2
  | challenged challenge login actor read verified password unused => exact dated.addChallenge read.2
  | refused challenge there presented now => exact dated.failChallenge
  | loggedIn challenge there login sealedSecret step fresh now issued read opened new cap forward =>
    have consumed : (old.consumeChallenge challenge.id now).Dated db.clock := dated.updateChallenges fun _ => rfl
    have accepted : (Account.consumeChallenge ((old.updateTotpStep step).remember (.accepted step)) challenge.id now).Dated
        db.clock := ⟨consumed.sessions,consumed.challenges,consumed.password⟩
    exact accepted.openFull new read.2
  | adminRefused challenge asked now => exact (dated.addChallenge asked.read.2).failChallenge
  | adminVerified challenge asked sealedSecret step fresh now reauthAttempts =>
    have consumed : (Account.consumeChallenge {old with challenges := old.challenges ++ [challenge]} challenge.id now).Dated
        db.clock := (dated.addChallenge asked.read.2).updateChallenges fun _ => rfl
    exact ⟨consumed.sessions,consumed.challenges,consumed.password⟩

theorem Cleared.dated (cleared : Cleared old new) (dated : old.Dated limit) : new.Dated limit := by
  obtain ⟨changed,now,reason,reset,_,rfl⟩ := cleared
  have same : changed.Dated limit := by
    cases reset with
    | password credentials => exact ⟨dated.sessions,dated.challenges,fun _ absurd => by cases absurd⟩
    | totp => exact ⟨dated.sessions,dated.challenges,dated.password⟩
    | recovery credentials => exact ⟨dated.sessions,dated.challenges,fun _ absurd => by cases absurd⟩
    | status status disabled => exact ⟨dated.sessions,dated.challenges,dated.password⟩
    | superAdmin isSuperAdmin ordinary => exact ⟨dated.sessions,dated.challenges,dated.password⟩
  exact same.revokeSessions

theorem effective_iff : account.effective = true ↔
    account.isSuperAdmin = true ∧ account.status = .enabled ∧ account.passwordHash.isSome = true ∧
      account.totpConfirmedAt.isSome = true := by
  simp [Account.effective,Account.initialized]

-- A command that is no reset leaves an administrator effective.
theorem AccountStep.effective (step : AccountStep shown db old new)
    (valid : old.Valid) (effective : old.effective = true) : new.effective = true := by
  obtain ⟨admin,enabled,password,confirmed⟩ := effective_iff.mp effective
  have running (session : Session) (there : session ∈ old.sessions) (live : session.live = true) (purpose : BootstrapPurpose)
      (named : session.bootstrapPurpose = some purpose) (unexpired : purpose ≠ .passwordExpired) : False := by
    cases enabled.symm.trans (valid.setup session there live purpose named unexpired)
  cases step with
  | sessions change keeps => exact effective
  | password change keeps hash now read stays => exact effective_iff.mpr ⟨admin,enabled,rfl,confirmed⟩
  | enabled started initialized => exact effective_iff.mpr ⟨admin,rfl,password,confirmed⟩
  | enrolled change keeps session there live kind purpose sealedSecret =>
    exact (running session there live _ purpose (by decide)).elim
  | completed session there live kind purpose named unexpired password sealedSecret step fresh now done issued read
      opened new cap forward =>
    exact (running session there live purpose named unexpired).elim
  | restarted credentials purpose pending issued read opened new => exact effective
  | challenged challenge login actor read verified password unused => exact effective
  | refused challenge there presented now => exact effective
  | loggedIn challenge there login sealedSecret step fresh now issued read opened new cap forward => exact effective
  | adminRefused challenge asked now => exact effective
  | adminVerified challenge asked sealedSecret step fresh now reauthAttempts => exact effective

end EngineeringPlatform.Identity
