import EngineeringPlatform.IdentityCommits
namespace EngineeringPlatform.Identity
open Checked PythonTime KeyedRows RowLocks
variable {security : Security} {holds : LockKey → Prop} {request : Command} {s now : Database}
variable {one new db next : Database} {target : Option Uuid}

theorem Rely.locked {two : Database} (rely : Rely holds one two) (found : one.accountById accountId = some account)
    (mine : holds (.account accountId)) : two.accountById accountId = some account := by
  obtain ⟨after,there,moved⟩ := rely.accounts accountId account found
  rw [there,moved.mine ((account_found found).2 ▸ mine)]

theorem Rely.persists {two : Database} (rely : Rely holds one two) (found : (one.accountById accountId).isSome = true) :
    (two.accountById accountId).isSome = true := by
  obtain ⟨account,there⟩ := Option.isSome_iff_exists.mp found
  obtain ⟨after,present,_⟩ := rely.accounts accountId account there
  rw [present]
  rfl

-- A reading made after the row was locked comes after everything the row carries.
theorem readUnderLock (valid : one.Valid) (rely : Rely holds one now)
    (found : one.accountById accountId = some account) : ReadUnderLock now account one.reading.now :=
  ⟨(valid.accounts account (account_found found).1).2,rely.clock⟩

theorem others_remain (rely : Rely holds one now) (valid : one.Valid) (guarded : holds .superAdminInvariant)
    (counted : one.effectiveSuperAdminsExcept accountId ≠ 0) :
    ∃ other ∈ now.accounts, other.id ≠ accountId ∧ other.effective = true := by
  obtain ⟨other,listed⟩ := List.exists_mem_of_length_pos (Nat.pos_of_ne_zero counted)
  obtain ⟨member,chosen⟩ := List.mem_filter.mp listed
  simp only [decide_eq_true_eq] at chosen
  obtain ⟨after,there,moved⟩ := rely.accounts other.id other (valid.found member)
  obtain ⟨present,same⟩ := account_found there
  exact ⟨after,present,(fun equal => chosen.1 (same.symm.trans equal)),moved.effective guarded chosen.2⟩

-- An answer that accepts nothing says nothing.
theorem Outcome.refused {old : Database} (refuses : response.accepts = false) (spares : request.clears response = none) :
    Outcome security request old new response := by
  refine ⟨fun _ _ accepts => ?_,fun _ cleared => ?_,fun _ _ _ _ changed => ?_,fun _ _ _ _ _ _ _ _ issued => ?_⟩
  · rw [refuses] at accepts
    cases accepts
  · rw [spares] at cleared
    cases cleared
  · rw [changed] at refuses
    cases refuses
  · rw [issued] at refuses
    cases refuses

theorem DatabaseStep.unchanged : DatabaseStep security holds request db db := .backoffs db.backoffs

def Finishes (security : Security) (holds : LockKey → Prop) (request : Command) (now next : Database)
    (response : Response) : Prop :=
  DatabaseStep security holds request now next ∧ Outcome security request now next response

theorem sound_finish {body : Body Database IdentityError Response}
    (finishes : ∀ now next response, now.Valid → Rely holds s now → body now = .ok (next,response) →
      Finishes security holds request now next response) :
    (rules security).Sound request holds s (pure body) := by
  intro now next response valid rely ran
  obtain ⟨step,outcome⟩ := finishes now next response valid rely ran
  exact ⟨step.valid valid,⟨⟨holds,step⟩,outcome⟩,fun others apart => step.rely valid apart⟩

theorem onAccount_ok {command : Database → Account → Except IdentityError (Account × Response)}
    (ran : onAccount accountId command db = .ok (next,response)) :
    ∃ account changed, db.accountById accountId = some account ∧ command db account = .ok (changed,response) ∧
      next = db.put changed := by
  unfold onAccount at ran
  obtain ⟨account,found,ran⟩ := orRaise_bind_ok.mp ran
  obtain ⟨⟨changed,answer⟩,commanded,ran⟩ := bind_ok.mp ran
  cases pure_ok.mp ran
  exact ⟨account,changed,found,commanded,rfl⟩

-- The body of a command on one locked account.
theorem sound_account {command : Database → Account → Except IdentityError (Account × Response)}
    (finishes : ∀ now account changed response, now.Valid → Rely holds s now → now.accountById accountId = some account →
      command now account = .ok (changed,response) → Finishes security holds request now (now.put changed) response) :
    (rules security).Sound request holds s (pure (onAccount accountId command)) := by
  refine sound_finish fun now next response valid rely ran => ?_
  obtain ⟨account,changed,found,commanded,rfl⟩ := onAccount_ok ran
  exact finishes now account changed response valid rely found commanded

theorem sound_locked {owner : Database → Option Uuid} {absent : Except IdentityError Response}
    {rest : Uuid → IdentityTransaction}
    (owned : ∀ db : Database, db.Valid → ∀ accountId, owner db = some accountId → (db.accountById accountId).isSome = true)
    (refuses : ∀ response, absent = .ok response → response.accepts = false ∧ request.clears response = none)
    (sound : ∀ accountId account now, (∃ db, owner db = some accountId) → now.Valid →
      now.accountById accountId = some account →
      (rules security).Sound request (fun key => key = .account accountId ∨ holds key) now (rest accountId)) :
    (rules security).Sound request holds s (locked owner absent rest) := by
  unfold locked
  refine Rules.sound_see _ fun one valid _ => ?_
  cases owning : owner one with
  | none =>
    refine sound_finish fun now next response _ _ ran => ?_
    cases answer : absent with
    | error error =>
      rw [answer] at ran
      cases ran
    | ok reply =>
      rw [answer] at ran
      cases ran
      obtain ⟨refuses,spares⟩ := refuses response answer
      exact ⟨.unchanged,.refused refuses spares⟩
  | some accountId =>
    refine Rules.sound_acquire _ fun two valid2 moved => ?_
    obtain ⟨account,found⟩ := Option.isSome_iff_exists.mp (moved.persists (owned one valid accountId owning))
    exact sound accountId account two ⟨one,owning⟩ valid2 found

theorem present_found (found : db.present wanted = some accountId) :
    accountId = wanted ∧ (db.accountById accountId).isSome = true := by
  obtain ⟨account,there,rfl⟩ := Option.map_eq_some_iff.mp found
  have same := (account_found there).2
  rw [same,there]
  exact ⟨rfl,rfl⟩

theorem sessionOwner_found (valid : db.Valid) (found : db.sessionOwner tokenHash = some accountId) :
    (db.accountById accountId).isSome = true := by
  obtain ⟨account,there,rfl⟩ := Option.map_eq_some_iff.mp found
  rw [valid.found (List.mem_of_find?_eq_some there)]
  rfl

theorem challengeOwner_found (valid : db.Valid) (found : db.challengeOwner tokenHash = some accountId) :
    (db.accountById accountId).isSome = true := by
  obtain ⟨account,there,rfl⟩ := Option.map_eq_some_iff.mp found
  rw [valid.found (List.mem_of_find?_eq_some there)]
  rfl

theorem accountIdByEmployeeNo_found (valid : db.Valid)
    (found : db.accountIdByEmployeeNo employeeNo = some accountId) : (db.accountById accountId).isSome = true := by
  obtain ⟨account,there,rfl⟩ := Option.map_eq_some_iff.mp found
  rw [valid.found (List.mem_of_find?_eq_some there)]
  rfl

-- The three ways to reset an account under the invariant.
theorem cleared_finishes {account changed : Account} (found : now.accountById accountId = some account)
    (mine : holds (.account accountId)) (guarded : holds .superAdminInvariant) (cleared : Cleared account changed)
    (seen : one.Valid) (rely : Rely holds one now)
    (remains : account.effective = true → one.effectiveSuperAdminsExcept accountId ≠ 0) :
    DatabaseStep security holds request now (now.put changed) :=
  .cleared found mine guarded cleared fun effective => .inr (others_remain rely seen guarded (remains effective))

theorem Cleared.outcome {account changed : Account} (cleared : Cleared account changed)
    (found : now.accountById accountId = some account) (clears : request.clears response = some accountId)
    (silent : response.accepts = false) : Outcome security request now (now.put changed) response := by
  obtain ⟨_,here⟩ := account_found found
  have grown : Grown now account changed := cleared.grown
  have known : now.accountById changed.id = some account := by rw [grown.id,here,found]
  refine ⟨fun _ _ accepts => ?_,fun other same after there => ?_,fun _ _ _ _ set => ?_,fun _ _ _ _ _ _ _ _ issued => ?_⟩
  · rw [silent] at accepts
    cases accepts
  · cases Option.some.inj (clears.symm.trans same)
    rw [put_found known,if_pos (here.symm.trans grown.id.symm)] at there
    cases there
    exact cleared.gone
  · rw [set] at silent
    cases silent
  · rw [issued] at silent
    cases silent

theorem issueTempPassword_sound :
    (rules security).Sound (.issueTempPassword accountId expectedVersion fresh salt) (fun _ => False) s
      (transaction security (.issueTempPassword accountId expectedVersion fresh salt)) := by
  refine Rules.sound_acquire _ fun zero _ _ => ?_
  refine sound_locked (fun db _ id found => (present_found found).2) (fun _ absurd => by cases absurd) ?_
  intro owner account one ⟨db,owned⟩ valid found
  obtain ⟨rfl,_⟩ := present_found owned
  refine Rules.sound_see _ fun two seen moved => Rules.sound_see _ fun three _ again => ?_
  refine sound_account fun now account changed response _ rely there ran => ?_
  obtain ⟨cleared,remains,rfl⟩ := issueTempPassword_ok ran
  exact ⟨cleared_finishes there (by simp) (by simp) cleared seen (again.trans rely) remains,
    cleared.outcome there rfl rfl⟩

theorem resetTotp_sound :
    (rules security).Sound (.resetTotp accountId expectedVersion) (fun _ => False) s
      (transaction security (.resetTotp accountId expectedVersion)) := by
  refine Rules.sound_acquire _ fun zero _ _ => ?_
  refine sound_locked (fun db _ id found => (present_found found).2) (fun _ absurd => by cases absurd) ?_
  intro owner account one ⟨db,owned⟩ valid found
  obtain ⟨rfl,_⟩ := present_found owned
  refine Rules.sound_see _ fun two seen moved => Rules.sound_see _ fun three _ again => ?_
  refine sound_account fun now account changed response _ rely there ran => ?_
  obtain ⟨cleared,remains,version,rfl⟩ := resetTotp_ok ran
  exact ⟨cleared_finishes there (by simp) (by simp) cleared seen (again.trans rely) remains,
    cleared.outcome there rfl rfl⟩

theorem setAccountStatus_sound :
    (rules security).Sound (.setAccountStatus accountId status expectedVersion) (fun _ => False) s
      (transaction security (.setAccountStatus accountId status expectedVersion)) := by
  refine Rules.sound_acquire _ fun zero _ _ => ?_
  refine sound_locked (fun db _ id found => (present_found found).2) (fun _ absurd => by cases absurd) ?_
  intro owner account one ⟨db,owned⟩ valid found
  obtain ⟨rfl,_⟩ := present_found owned
  refine Rules.sound_see _ fun two seen moved => Rules.sound_see _ fun three _ again => ?_
  refine sound_account fun now account changed response _ rely there ran => ?_
  obtain ⟨done,version,rfl⟩ := setAccountStatus_ok ran
  rcases done with ⟨enabled,step⟩ | ⟨disabled,cleared,remains⟩
  · exact ⟨.account there (by simp) step,.refused rfl (if_pos enabled)⟩
  · exact ⟨cleared_finishes there (by simp) (by simp) cleared seen (again.trans rely) remains,
      cleared.outcome there (if_neg disabled) rfl⟩

theorem recoverSuperAdmin_sound :
    (rules security).Sound (.recoverSuperAdmin recovery fresh salt) (fun _ => False) s
      (transaction security (.recoverSuperAdmin recovery fresh salt)) := by
  refine Rules.sound_see _ fun zero _ _ => Rules.sound_acquire _ fun one _ _ => ?_
  refine sound_locked (fun db valid id found => accountIdByEmployeeNo_found valid found) (fun _ absurd => by cases absurd) ?_
  intro owner account two _ _ _
  refine Rules.sound_see _ fun three _ _ => ?_
  refine sound_account fun now account changed response _ _ there ran => ?_
  obtain ⟨cleared,rfl⟩ := recoverSuperAdmin_ok ran
  exact ⟨.cleared there (by simp) (by simp) cleared fun _ => .inl rfl,
    cleared.outcome there (congrArg some (account_found there).2) rfl⟩

theorem Presented.authenticated {account : Account} {session : Session}
    (presented : Presented account tokenHash session) (member : account ∈ db.accounts) :
    Authenticated db tokenHash account session := ⟨member,presented.found,presented.live⟩

theorem Validated.authenticated {account : Account} {shown : SessionPrincipal} {session : Session}
    (validated : Validated account tokenHash shown session) (member : account ∈ db.accounts) :
    Authenticated db tokenHash account session := ⟨member,validated.found,validated.live⟩

-- A command that opens a session and neither sets a password nor revokes in bulk.
theorem Outcome.opening {old : Database} (opens : request.opens security = some tokenHash)
    (shown : response.accepts = true → ∃ account session, Authenticated old tokenHash account session ∧
      ∀ principal, response = .principal principal →
        allowed account session = true ∧ principal = sessionPrincipal account session)
    (spares : request.clears response = none)
    (unset : ∀ bootstrapToken password salt, request ≠ .completePasswordSetup bootstrapToken password salt) :
    Outcome security request old new response := by
  refine ⟨fun hash same accepts => ?_,fun _ cleared => ?_,fun token password salt same => absurd same (unset _ _ _),?_⟩
  · cases Option.some.inj (opens.symm.trans same)
    exact shown accepts
  · rw [spares] at cleared
    cases cleared
  · intro token code fresh same
    subst same
    cases opens

theorem Bootstrapped.outcome {account : Account} (bootstrapped : Bootstrapped account tokenHash response)
    (opens : request.opens security = some tokenHash) (member : account ∈ now.accounts)
    (spares : request.clears response = none)
    (unset : ∀ bootstrapToken password salt, request ≠ .completePasswordSetup bootstrapToken password salt) :
    Outcome security request now new response := by
  refine .opening opens (fun accepts => ?_) spares unset
  obtain ⟨session,presented⟩ := bootstrapped.presented accepts
  exact ⟨account,session,presented.authenticated member,fun principal same => absurd same (bootstrapped.unprincipled _)⟩

-- The answer to a validation, whatever became of the row.
theorem validation_outcome {account : Account} {untouched : Prop}
    (opens : request.opens security = some tokenHash) (member : account ∈ now.accounts)
    (spares : request.clears response = none)
    (unset : ∀ bootstrapToken password salt, request ≠ .completePasswordSetup bootstrapToken password salt)
    (answers : response = .invalid ∨ ∃ principal, response = .principal principal ∧ untouched ∧
      ∃ session, Validated account tokenHash principal session) : Outcome security request now new response := by
  rcases answers with rfl | ⟨principal,rfl,_,session,validated⟩
  · exact .refused rfl spares
  · refine .opening opens (fun _ => ⟨account,session,validated.authenticated member,fun other same => ?_⟩) spares unset
    cases same
    exact ⟨validated.allowed,validated.principal⟩

theorem validateSession_sound :
    (rules security).Sound (.validateSession rawToken touchActivity) (fun _ => False) s
      (transaction security (.validateSession rawToken touchActivity)) := by
  refine sound_locked (fun db valid id found => sessionOwner_found valid found) (fun _ same => by cases same; exact ⟨rfl,rfl⟩) ?_
  intro owner account one _ _ _
  refine Rules.sound_see _ fun two _ _ => ?_
  refine sound_account fun now account changed response _ _ there ran => ?_
  obtain ⟨⟨change,keeps,rfl⟩,_,answers⟩ := validateSession_ok ran
  exact ⟨.account there (by simp) (.sessions change keeps),
    validation_outcome rfl (account_found there).1 rfl (fun _ _ _ absurd => by cases absurd) answers⟩

theorem put_same (valid : db.Valid) (found : db.accountById accountId = some account) :
    db.put account = db := by
  have kept : update Account.id db.accounts account.id (fun _ => account) = db.accounts := by
    unfold update
    conv_rhs => rw [←List.map_id db.accounts]
    refine List.map_congr_left fun row member => ?_
    split
    · rename_i same
      have here := valid.found member
      rw [same,valid.found (account_found found).1] at here
      exact Option.some.inj here
    · rfl
  unfold Database.put
  rw [kept]

theorem inspectSession_sound :
    (rules security).Sound (.inspectSession rawToken reading) (fun _ => False) s
      (transaction security (.inspectSession rawToken reading)) := by
  refine sound_finish fun now next response valid _ ran => ?_
  split at ran
  · cases ran
    exact ⟨.unchanged,.refused rfl rfl⟩
  · obtain ⟨account,changed,there,validated,rfl⟩ := onAccount_ok ran
    obtain ⟨_,untouched,answers⟩ := validateSession_ok validated
    have same : changed = account := untouched rfl
    subst same
    rw [put_same valid there]
    exact ⟨.unchanged,validation_outcome rfl (account_found there).1 rfl (fun _ _ _ absurd => by cases absurd)
      answers⟩

theorem logout_sound :
    (rules security).Sound (.logout rawToken) (fun _ => False) s (transaction security (.logout rawToken)) := by
  refine sound_locked (fun db valid id found => sessionOwner_found valid found) (fun _ same => by cases same; exact ⟨rfl,rfl⟩) ?_
  intro owner account one _ _ _
  refine Rules.sound_see _ fun two _ _ => ?_
  refine sound_account fun now account changed response _ _ there ran => ?_
  obtain ⟨step,revoked,rfl⟩ := logout_ok ran
  exact ⟨.account there (by simp) step,.refused rfl rfl⟩

-- The commands of a bootstrap session.
theorem completePasswordSetup_sound :
    (rules security).Sound (.completePasswordSetup bootstrapToken password salt) (fun _ => False) s
      (transaction security (.completePasswordSetup bootstrapToken password salt)) := by
  refine sound_locked (fun db valid id found => sessionOwner_found valid found) (fun _ same => by cases same; exact ⟨rfl,rfl⟩) ?_
  intro owner account one _ _ found
  refine Rules.sound_see _ fun two _ moved => Rules.sound_see _ fun three seen again => ?_
  refine sound_account fun now account' changed response _ rely there ran => ?_
  have still := (moved.trans again).locked found (by simp)
  cases (rely.locked still (by simp)).symm.trans there
  obtain ⟨step,bootstrapped,set⟩ := completePasswordSetup_ok ran (readUnderLock seen rely still)
  obtain ⟨member,here⟩ := account_found there
  refine ⟨.account there (by simp) step,fun hash same accepts => ?_,(fun _ absurd => by cases absurd),?_,
    (fun _ _ _ absurd => by cases absurd)⟩
  · cases same
    obtain ⟨session,presented⟩ := bootstrapped.presented accepts
    exact ⟨account,session,presented.authenticated member,fun principal same => absurd same (bootstrapped.unprincipled _)⟩
  · intro token password salt same passwordSet
    cases same
    obtain ⟨session,presented,gone⟩ := set passwordSet
    refine ⟨account,session,presented.authenticated member,fun after present => ?_⟩
    have known : now.accountById changed.id = some account := by rw [step.grown.id,here,there]
    rw [put_found known,if_pos step.grown.id.symm] at present
    cases present
    exact gone

theorem enrollTotp_sound :
    (rules security).Sound (.enrollTotp bootstrapToken secret) (fun _ => False) s
      (transaction security (.enrollTotp bootstrapToken secret)) := by
  refine sound_locked (fun db valid id found => sessionOwner_found valid found) (fun _ same => by cases same; exact ⟨rfl,rfl⟩) ?_
  intro owner account one _ _ _
  refine Rules.sound_see _ fun two _ _ => ?_
  refine sound_account fun now account changed response _ _ there ran => ?_
  obtain ⟨step,bootstrapped⟩ := enrollTotp_ok ran
  exact ⟨.account there (by simp) step,
    bootstrapped.outcome rfl (account_found there).1 rfl fun _ _ _ absurd => by cases absurd⟩

theorem Database.Valid.forward (valid : db.Valid) : 0 ≤ db.policy.sessionCap := by
  have formed := valid.policy
  unfold EffectiveIdentityPolicy.wellFormed at formed
  simp only [decide_eq_true_eq] at formed
  omega

theorem confirmTotp_sound :
    (rules security).Sound (.confirmTotp bootstrapToken code fresh) (fun _ => False) s
      (transaction security (.confirmTotp bootstrapToken code fresh)) := by
  refine sound_locked (fun db valid id found => sessionOwner_found valid found) (fun _ same => by cases same; exact ⟨rfl,rfl⟩) ?_
  intro owner account one _ _ found
  refine Rules.sound_see _ fun two _ moved => Rules.sound_see _ fun three _ again => ?_
  refine Rules.sound_see _ fun four _ third => Rules.sound_see _ fun five seen last => ?_
  refine sound_account fun now account' changed response _ rely there ran => ?_
  have still := (((moved.trans again).trans third).trans last).locked found (by simp)
  cases (rely.locked still (by simp)).symm.trans there
  obtain ⟨step,bootstrapped⟩ := confirmTotp_ok ran (readUnderLock seen rely still) seen.forward
  exact ⟨.account there (by simp) step,
    bootstrapped.outcome rfl (account_found there).1 rfl fun _ _ _ absurd => by cases absurd⟩

theorem verifyPolicyTotp_sound :
    (rules security).Sound (.verifyPolicyTotp actorId operation code fresh) (fun _ => False) s
      (transaction security (.verifyPolicyTotp actorId operation code fresh)) := by
  refine sound_locked (fun db _ id found => (present_found found).2) (fun _ same => by cases same; exact ⟨rfl,rfl⟩) ?_
  intro owner account one _ _ found
  refine Rules.sound_see _ fun two seen moved => Rules.sound_see _ fun three _ again => ?_
  refine Rules.sound_see _ fun four _ third => ?_
  refine sound_account fun now account' changed response _ rely there ran => ?_
  have still := moved.locked found (by simp)
  have later := (again.trans third).trans rely
  cases (later.locked still (by simp)).symm.trans there
  unfold verifyPolicyTotp at ran
  obtain ⟨⟨verified,outcome⟩,verifying,ran⟩ := bind_ok.mp ran
  obtain ⟨step,_⟩ := verifyAdminTotp_ok (account_found there).1 verifying (readUnderLock seen later still)
    seen.policy
  refine ⟨?_,(fun _ absurd => by cases absurd),(fun _ absurd => by cases absurd),(fun _ _ _ absurd => by cases absurd),
    (fun _ _ _ absurd => by cases absurd)⟩
  dsimp only at ran
  split at ran
  · cases pure_ok.mp ran
    exact .account there (by simp) step
  · cases pure_ok.mp ran
    exact .account there (by simp) step

theorem consumePolicyReauthentication_sound :
    (rules security).Sound (.consumePolicyReauthentication rawSession code attemptId operation fresh) (fun _ => False) s
      (transaction security (.consumePolicyReauthentication rawSession code attemptId operation fresh)) := by
  refine sound_locked (fun db valid id found => sessionOwner_found valid found) (fun _ same => by cases same; exact ⟨rfl,rfl⟩) ?_
  intro owner account one _ _ found
  refine Rules.sound_see _ fun two _ moved => Rules.sound_see _ fun three seen again => ?_
  refine Rules.sound_see _ fun four _ third => Rules.sound_see _ fun five _ last => ?_
  refine sound_account fun now account' changed response _ rely there ran => ?_
  have still := (moved.trans again).locked found (by simp)
  have later := (third.trans last).trans rely
  cases (later.locked still (by simp)).symm.trans there
  obtain ⟨member,_⟩ := account_found there
  obtain ⟨step,unprincipled,verified⟩ := consumePolicyReauthentication_ok member ran (readUnderLock seen later still)
    seen.policy
  refine ⟨.account there (by simp) step,.opening rfl (fun accepts => ?_) rfl fun _ _ _ absurd => by cases absurd⟩
  obtain ⟨principal,session,validated⟩ := verified accepts
  exact ⟨account,session,validated.authenticated member,fun principal same => absurd same (unprincipled _)⟩

theorem loginTotpStep_sound :
    (rules security).Sound (.loginTotpStep challengeToken code fresh) (fun _ => False) s
      (transaction security (.loginTotpStep challengeToken code fresh)) := by
  refine Rules.sound_see _ fun zero _ _ => ?_
  refine sound_locked (fun db valid id found => challengeOwner_found valid found) (fun _ same => by cases same; exact ⟨rfl,rfl⟩) ?_
  intro owner account one _ _ found
  refine Rules.sound_see _ fun two _ moved => Rules.sound_see _ fun three seen again => ?_
  refine sound_account fun now account' changed response _ rely there ran => ?_
  have still := (moved.trans again).locked found (by simp)
  cases (rely.locked still (by simp)).symm.trans there
  obtain ⟨step,issued⟩ := loginTotpStep_ok ran (readUnderLock seen rely still) seen.forward
  refine ⟨.account there (by simp) step,(fun _ absurd => by cases absurd),(fun _ absurd => by cases absurd),
    (fun _ _ _ absurd => by cases absurd),fun token code fresh same accountId sessionId kind purpose answer => ?_⟩
  cases same
  obtain ⟨rfl,full,challenge,completed⟩ := issued accountId sessionId kind purpose answer
  exact ⟨full,account,challenge,(account_found there).2 ▸ there,completed⟩

theorem lockFound_sound {rest : Unit → IdentityTransaction}
    (absent : target = none → (rules security).Sound request holds s (rest ()))
    (sound : ∀ accountId now, target = some accountId → now.Valid → Rely holds s now →
      (rules security).Sound request (fun key => key = .account accountId ∨ holds key) now (rest ())) :
    (rules security).Sound request holds s (lockFound target >>= rest) := by
  cases target with
  | none => exact absent rfl
  | some accountId => exact Rules.sound_acquire _ fun now valid rely => sound accountId now rfl valid rely

-- The password step once the account that it found is locked, or none is.
theorem passwordStep_finishes
    (reads : ∀ accountId account, target = some accountId → now.accountById accountId = some account →
      holds (.account accountId) ∧ ReadUnderLock now account consumed.now ∧ ReadUnderLock now account issued.now)
    (ran : loginPasswordStep security scope password target fresh checked consumed issued now = .ok (next,response)) :
    Finishes security holds (.loginPasswordStep scope password fresh) now next response := by
  refine ⟨?_,(fun _ absurd => by cases absurd),(fun _ absurd => by cases absurd),(fun _ _ _ absurd => by cases absurd),
    (fun _ _ _ absurd => by cases absurd)⟩
  unfold loginPasswordStep at ran
  obtain ⟨_,ran⟩ := require_bind_ok.mp ran
  split at ran
  · cases pure_ok.mp ran
    exact .unchanged
  · obtain ⟨backoffs,same⟩ : ∃ backoffs,
        openBackoff now scope (checkBackoff (now.backoff scope) checked) = {now with backoffs} := by
      unfold openBackoff
      split
      · exact ⟨_,rfl⟩
      · exact ⟨now.backoffs,rfl⟩
    dsimp only at ran
    rw [same] at ran
    refine .andThen rfl (.backoffs backoffs) ?_
    obtain ⟨result,owned,ran⟩ := bind_ok.mp ran
    unfold verifyOwner at owned
    split at ran
    · cases pure_ok.mp ran
      split at owned
      · cases pure_ok.mp owned
      · rename_i account there
        obtain ⟨accountId,targeted,found⟩ := Option.bind_eq_some_iff.mp there
        obtain ⟨mine,first,second⟩ := reads accountId account targeted found
        exact .andThen rfl (.account found mine (verifyCredentials_ok owned first second)) (.backoffs _)
    · obtain ⟨row,_,ran⟩ := bind_ok.mp ran
      cases pure_ok.mp ran
      exact .backoffs _

theorem loginPasswordStep_sound :
    (rules security).Sound (.loginPasswordStep scope password fresh) (fun _ => False) s
      (transaction security (.loginPasswordStep scope password fresh)) := by
  refine Rules.sound_acquire _ fun zero _ _ => Rules.sound_see _ fun one _ _ => Rules.sound_see _ fun two valid _ => ?_
  refine lockFound_sound (fun absent => ?_) fun owner three owned _ moved => ?_
  · refine Rules.sound_see _ fun four _ _ => Rules.sound_see _ fun five _ _ => ?_
    refine sound_finish fun now next response _ _ ran => ?_
    exact passwordStep_finishes (fun owner _ targeted => by rw [absent] at targeted; cases targeted) ran
  · refine Rules.sound_see _ fun four seen again => Rules.sound_see _ fun five seen5 third => ?_
    refine sound_finish fun now next response _ rely ran => ?_
    refine passwordStep_finishes (fun other account targeted there => ?_) ran
    cases Option.some.inj (owned.symm.trans targeted)
    have here := moved.persists (accountIdByEmployeeNo_found valid owned)
    obtain ⟨account',found⟩ := Option.isSome_iff_exists.mp here
    have found4 := again.locked found (by simp)
    have found5 := third.locked found4 (by simp)
    cases (rely.locked found5 (by simp)).symm.trans there
    exact ⟨by simp,readUnderLock seen (third.trans rely) found4,readUnderLock seen5 rely found5⟩

theorem createAccount_ok
    (ran : createAccount security accountId employeeNo displayName profession fresh salt reading db = .ok (next,account)) :
    db.accountUnused account.id account.employeeNo = true ∧ Blank account ∧ next = db.insert account := by
  unfold createAccount at ran
  obtain ⟨_,ran⟩ := require_bind_ok.mp ran
  obtain ⟨unused,ran⟩ := require_bind_ok.mp ran
  obtain ⟨made,issued,ran⟩ := bind_ok.mp ran
  cases pure_ok.mp ran
  obtain ⟨credentials,rfl⟩ := issueTemp_ok issued
  exact ⟨unused,⟨rfl,rfl,rfl,rfl,rfl,rfl,rfl,rfl⟩,rfl⟩

theorem createAccount_sound :
    (rules security).Sound (.createAccount accountId employeeNo displayName profession fresh salt) (fun _ => False) s
      (transaction security (.createAccount accountId employeeNo displayName profession fresh salt)) := by
  refine Rules.sound_see _ fun one _ _ => sound_finish fun now next response _ _ ran => ?_
  refine ⟨?_,(fun _ absurd => by cases absurd),(fun _ absurd => by cases absurd),(fun _ _ _ absurd => by cases absurd),
    (fun _ _ _ absurd => by cases absurd)⟩
  cases made : createAccount security accountId employeeNo displayName profession fresh salt one.reading now with
  | error error =>
    rw [made] at ran
    cases ran
  | ok result =>
    rw [made] at ran
    cases ran
    obtain ⟨unused,blank,same⟩ := createAccount_ok made
    rw [same]
    exact .created _ unused blank

-- The first administrator: an account that nobody had, replaced by itself.
theorem insert_put {account changed : Account} (unused : db.accountUnused account.id account.employeeNo = true)
    (same : changed.id = account.id) : (db.insert account).put changed = db.insert changed := by
  have others : update Account.id db.accounts account.id (fun _ => changed) = db.accounts := by
    unfold update
    conv_rhs => rw [←List.map_id db.accounts]
    refine List.map_congr_left fun row member => ?_
    have differs := List.all_eq_true.mp unused row member
    simp only [decide_eq_true_eq] at differs
    rw [if_neg differs.1]
    rfl
  unfold Database.put Database.insert
  unfold update at others ⊢
  rw [same,List.map_append,others]
  simp

theorem bootstrapSuperAdmin_sound :
    (rules security).Sound (.bootstrapSuperAdmin accountId employeeNo displayName fresh salt) (fun _ => False) s
      (transaction security (.bootstrapSuperAdmin accountId employeeNo displayName fresh salt)) := by
  refine Rules.sound_acquire _ fun one _ _ => Rules.sound_see _ fun two _ _ => Rules.sound_see _ fun three _ _ => ?_
  refine sound_finish fun now next response _ _ ran => ?_
  refine ⟨?_,(fun _ absurd => by cases absurd),(fun _ absurd => by cases absurd),(fun _ _ _ absurd => by cases absurd),
    (fun _ _ _ absurd => by cases absurd)⟩
  unfold bootstrapSuperAdmin at ran
  obtain ⟨_,ran⟩ := require_bind_ok.mp ran
  obtain ⟨⟨db,account⟩,made,ran⟩ := bind_ok.mp ran
  cases pure_ok.mp ran
  obtain ⟨unused,blank,rfl⟩ := createAccount_ok made
  have same : (account.updateSuperAdmin true).id = account.id := rfl
  rw [insert_put unused same]
  exact .created _ unused ⟨blank.sessions,blank.challenges,blank.status,blank.password,blank.confirmed,
    blank.sealedSecret,blank.history,blank.cap⟩

-- Adding or removing an administrator: the actor first, then the target, under
-- both locks and the invariant.
theorem changeSuperAdmin_finishes {actor : Account} (valid : now.Valid)
    (found : now.accountById change.actorId = some actor) (mine : holds (.account change.actorId))
    (guarded : holds .superAdminInvariant) (read : ReadUnderLock now actor issued.now) (formed : issued.policy.wellFormed = true)
    (targeted : ∀ accountId, target = some accountId → accountId = change.targetId ∧ holds (.account accountId))
    (seen : one.Valid) (rely : Rely holds one now)
    (ran : changeSuperAdmin security change target fresh (one.effectiveSuperAdminsExcept change.targetId) issued started
      verified changed now = .ok (next,response)) :
    Finishes security holds (.changeSuperAdmin change fresh) now next response := by
  unfold changeSuperAdmin at ran
  rw [found] at ran
  obtain ⟨⟨actor',outcome⟩,verifying,ran⟩ := bind_ok.mp ran
  obtain ⟨_,ran⟩ := require_bind_ok.mp ran
  obtain ⟨member,_⟩ := account_found found
  obtain ⟨step,_⟩ := verifyAdminTotp_ok member verifying read formed
  have counted : DatabaseStep security holds (.changeSuperAdmin change fresh) now (now.put actor') :=
    .account found mine step
  have denied (error : IdentityError) : Outcome security (.changeSuperAdmin change fresh) now (now.put actor')
      (.denied error) := .refused rfl rfl
  split at ran
  · cases pure_ok.mp ran
    exact ⟨counted,denied _⟩
  · dsimp only at ran
    split at ran
    · cases pure_ok.mp ran
      exact ⟨counted,denied _⟩
    · rename_i account there
      obtain ⟨accountId,known,there⟩ := Option.bind_eq_some_iff.mp there
      obtain ⟨rfl,mine⟩ := targeted accountId known
      split at ran
      · cases pure_ok.mp ran
        exact ⟨counted,denied _⟩
      · rename_i changed ran'
        cases pure_ok.mp ran
        obtain ⟨cleared,remains⟩ := changeTarget_ok ran'
        refine ⟨.andThen rfl counted (.cleared there mine guarded cleared fun effective => .inr ?_),?_⟩
        · obtain ⟨other,present,differs,still⟩ := others_remain rely seen guarded (remains effective)
          have kept (same : other = actor) : actor'.effective = true :=
            step.effective (valid.accounts actor member).1 (same ▸ still)
          obtain ⟨after,listed,same,effective⟩ := put_effective valid found step.grown.id present still kept
          exact ⟨after,listed,(fun equal => differs (same.symm.trans equal)),effective⟩
        · have replaced : Outcome security (.changeSuperAdmin change fresh) (now.put actor')
              ((now.put actor').put changed) (.account changed.id changed.version) := cleared.outcome there rfl rfl
          obtain ⟨_,gone,_,_⟩ := replaced
          exact ⟨(fun _ absurd => by cases absurd),gone,(fun _ _ _ absurd => by cases absurd),
            (fun _ _ _ absurd => by cases absurd)⟩

theorem changeSuperAdmin_sound :
    (rules security).Sound (.changeSuperAdmin change fresh) (fun _ => False) s
      (transaction security (.changeSuperAdmin change fresh)) := by
  refine sound_locked (fun db _ id found => (present_found found).2) (fun _ same => by cases same; exact ⟨rfl,rfl⟩) ?_
  intro owner actor one ⟨db,owned⟩ _ found
  obtain ⟨rfl,_⟩ := present_found owned
  refine Rules.sound_see _ fun two seen moved => Rules.sound_acquire _ fun three _ third => ?_
  refine Rules.sound_see _ fun four _ fourth => Rules.sound_see _ fun five _ fifth => ?_
  refine Rules.sound_see _ fun six _ sixth => ?_
  have found3 := third.locked (moved.locked found (by simp)) (by simp)
  have found6 := (fourth.trans (fifth.trans sixth)).locked found3 (by simp)
  have read {now : Database} (clock : six.clock ≤ now.clock) : ReadUnderLock now actor two.reading.now :=
    ⟨(readUnderLock seen (.refl (fun _ => False) two) (moved.locked found (by simp))).1,
      le_trans third.clock (le_trans fourth.clock (le_trans fifth.clock (le_trans sixth.clock clock)))⟩
  refine lockFound_sound (fun absent => ?_) fun target seven targeted _ moved7 => ?_
  · refine Rules.sound_see _ fun eight seen8 moved8 => Rules.sound_see _ fun nine _ moved9 => ?_
    refine sound_finish fun now next response valid rely ran => ?_
    have later := moved8.trans (moved9.trans rely)
    refine changeSuperAdmin_finishes valid (later.locked found6 (by simp)) (by simp) (by simp) (read later.clock) seen.policy
      (fun target same => ?_) seen8 (moved9.trans rely) ran
    rw [absent] at same
    cases same
  · refine Rules.sound_see _ fun eight seen8 moved8 => Rules.sound_see _ fun nine _ moved9 => ?_
    refine sound_finish fun now next response valid rely ran => ?_
    have later := moved8.trans (moved9.trans rely)
    have found7 := moved7.locked found6 (by simp)
    refine changeSuperAdmin_finishes valid (later.locked found7 (by simp)) (by simp) (by simp)
      (read (le_trans moved7.clock later.clock)) seen.policy (fun other same => ?_) seen8 (moved9.trans rely) ran
    cases Option.some.inj (targeted.symm.trans same)
    exact ⟨(present_found targeted).1,by simp⟩

theorem elsewhere_accounts (moved : elsewhere db event = some next) : next.accounts = db.accounts := by
  cases event with
  | tick length =>
    cases Option.some.inj moved
    rfl
  | publish schemaRevision values =>
    unfold elsewhere at moved
    dsimp only at moved
    split at moved
    · cases Option.some.inj moved
      rfl
    · cases moved

theorem elsewhere_keeps (valid : db.Valid) (moved : elsewhere db event = some next) :
    next.Valid ∧ ∀ others, Rely others db next := by
  cases event with
  | tick length =>
    cases Option.some.inj moved
    have later : db.clock ≤ db.clock + length := by
      have forward : (0 : Int) ≤ length := Int.natCast_nonneg length
      linarith
    refine ⟨⟨valid.ids,fun account member => ?_,valid.owners,valid.policy⟩,fun others =>
      ⟨later,fun _ account found => ⟨account,found,.refl others account⟩⟩⟩
    obtain ⟨sound,dated⟩ := valid.accounts account member
    exact ⟨sound,fun row there => le_trans (dated.sessions row there) later,
      (fun row there => le_trans (dated.challenges row there) later),
      fun setAt same => le_trans (dated.password setAt same) later⟩
  | publish schemaRevision values =>
    unfold elsewhere at moved
    dsimp only at moved
    split at moved
    · rename_i policy accepted
      cases Option.some.inj moved
      obtain ⟨_,_,made⟩ := accepted_materialized accepted
      exact ⟨⟨valid.ids,valid.accounts,valid.owners,made.wellFormed⟩,fun others =>
        ⟨le_refl _,fun _ account found => ⟨account,found,.refl others account⟩⟩⟩
    · cases moved

theorem follows (security : Security) : (rules security).Follows (program security) := by
  refine ⟨fun request s _ => ?_,fun s event next valid moved => ?_⟩
  · cases request with
    | createAccount id employeeNo displayName profession fresh salt => exact createAccount_sound
    | issueTempPassword id expectedVersion fresh salt => exact issueTempPassword_sound
    | resetTotp id expectedVersion => exact resetTotp_sound
    | setAccountStatus id status expectedVersion => exact setAccountStatus_sound
    | validateSession rawToken touchActivity => exact validateSession_sound
    | inspectSession rawToken reading => exact inspectSession_sound
    | logout rawToken => exact logout_sound
    | completePasswordSetup bootstrapToken password salt => exact completePasswordSetup_sound
    | enrollTotp bootstrapToken secret => exact enrollTotp_sound
    | confirmTotp bootstrapToken code fresh => exact confirmTotp_sound
    | loginPasswordStep scope password fresh => exact loginPasswordStep_sound
    | loginTotpStep challengeToken code fresh => exact loginTotpStep_sound
    | bootstrapSuperAdmin id employeeNo displayName fresh salt => exact bootstrapSuperAdmin_sound
    | changeSuperAdmin change fresh => exact changeSuperAdmin_sound
    | verifyPolicyTotp actorId operation code fresh => exact verifyPolicyTotp_sound
    | consumePolicyReauthentication rawSession code attemptId operation fresh => exact consumePolicyReauthentication_sound
    | recoverSuperAdmin recovery fresh salt => exact recoverSuperAdmin_sound
  · obtain ⟨stored,rely⟩ := elsewhere_keeps valid moved
    exact ⟨stored,fun others _ => rely others⟩

theorem start_valid (clock : Instant) : (Database.start clock).Valid :=
  ⟨List.nodup_nil,(fun _ absurd => by cases absurd),(fun _ absurd => by cases absurd),by
    show defaultPolicy.wellFormed = true
    decide⟩

theorem initial_valid (security : Security) (clock : Instant) :
    (rules security).Valid (.initial (Database.start clock) : IdentitySystem) :=
  (rules security).initial_valid (start_valid clock)

-- What holds of every state of every run.
theorem reached_valid {system : IdentitySystem}
    (path : TransitionRuns.Runs (TransitionRuns.Enabled (program security).step) (.initial (.start clock)) labels system) :
    (rules security).Valid system :=
  (rules security).runs_valid (follows security) path (initial_valid security clock)

end EngineeringPlatform.Identity
