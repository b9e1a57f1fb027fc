import EngineeringPlatform.IdentityTransactions
import EngineeringPlatform.IdentityValid
namespace EngineeringPlatform.Identity
open Checked PythonTime KeyedRows RowLocks

-- The token of a login challenge that a command presents.
def Command.presented (security : Security) : Command → Option String
  | .loginTotpStep challengeToken _ _ => some (security.tokenHash challengeToken)
  | _ => none

-- Break-glass recovery.
def Command.recovers : Command → Bool
  | .recoverSuperAdmin _ _ _ => true
  | _ => false

-- An account as it is created.
structure Blank (account : Account) : Prop where
  sessions : account.sessions = []
  challenges : account.challenges = []
  status : account.status = .pendingInit
  password : account.passwordSetAt = none
  confirmed : account.totpConfirmedAt = none
  sealedSecret : account.totpSealed = none
  history : account.totpHistory = []
  cap : account.sessionCap = 0

-- What one command commits while it holds its locks.
inductive DatabaseStep (security : Security) (holds : LockKey → Prop) (request : Command) :
    Database → Database → Prop where
  | backoffs (backoffs : List (BackoffScope × LoginBackoff)) :
    DatabaseStep security holds request old {old with backoffs}
  | created (account : Account) (unused : old.accountUnused account.id account.employeeNo = true) (blank : Blank account) :
    DatabaseStep security holds request old (old.insert account)
  | account (found : old.accountById accountId = some account) (mine : holds (.account accountId))
    (step : AccountStep (request.presented security) old account changed) :
    DatabaseStep security holds request old (old.put changed)
  | cleared (found : old.accountById accountId = some account) (mine : holds (.account accountId))
    (guarded : holds .superAdminInvariant) (cleared : Cleared account changed)
    (remains : account.effective = true → request.recovers = true ∨
      ∃ other ∈ old.accounts, other.id ≠ accountId ∧ other.effective = true) :
    DatabaseStep security holds request old (old.put changed)
  | andThen (silent : request.presented security = none) (first : DatabaseStep security holds request old middle)
    (second : DatabaseStep security holds request middle new) : DatabaseStep security holds request old new

structure Database.Valid (db : Database) : Prop where
  ids : KeyedRows.Unique Account.id db.accounts
  accounts : ∀ account ∈ db.accounts, account.Valid ∧ account.Dated db.clock
  owners : ∀ one ∈ db.accounts, ∀ two ∈ db.accounts, ∀ mine ∈ one.sessions, ∀ yours ∈ two.sessions,
    mine.tokenHash = yours.tokenHash → one.id = two.id
  policy : db.policy.wellFormed = true

-- The sessions of an account at a later moment.
def Account.Later (old new : Account) : Prop := ∀ row ∈ old.sessions, ∃ after ∈ new.sessions, row.Later after

theorem Account.Later.refl (account : Account) : account.Later account := fun row member => ⟨row,member,.refl row⟩

theorem Account.Later.trans {one two three : Account} (first : one.Later two) (second : two.Later three) :
    one.Later three := by
  intro row member
  obtain ⟨after,there,moved⟩ := first row member
  obtain ⟨last,present,again⟩ := second after there
  exact ⟨last,present,moved.trans again⟩

-- What a command can rely on while others commit: the rows it has locked, and that
-- no administrator loses effect while it holds the invariant.
structure Lasting (holds : LockKey → Prop) (account after : Account) : Prop where
  later : account.Later after
  mine : holds (.account account.id) → after = account
  effective : holds .superAdminInvariant → account.effective = true → after.effective = true

structure Rely (holds : LockKey → Prop) (old new : Database) : Prop where
  clock : old.clock ≤ new.clock
  accounts : ∀ id account, old.accountById id = some account →
    ∃ after, new.accountById id = some after ∧ Lasting holds account after

theorem Lasting.refl (holds : LockKey → Prop) (account : Account) : Lasting holds account account :=
  ⟨.refl account,fun _ => rfl,fun _ effective => effective⟩

theorem Rely.refl (holds : LockKey → Prop) (db : Database) : Rely holds db db :=
  ⟨le_refl _,fun _ account found => ⟨account,found,.refl holds account⟩⟩

variable {db old new : Database} {changed account : Account}

theorem account_found (found : db.accountById accountId = some account) :
    account ∈ db.accounts ∧ account.id = accountId := find_some found

theorem Rely.trans {one two three : Database} (first : Rely holds one two) (second : Rely holds two three) :
    Rely holds one three := by
  refine ⟨le_trans first.clock second.clock,fun id account found => ?_⟩
  obtain ⟨after,there,moved⟩ := first.accounts id account found
  obtain ⟨last,present,again⟩ := second.accounts id after there
  refine ⟨last,present,moved.later.trans again.later,fun mine => ?_,fun guarded effective => ?_⟩
  · have same := moved.mine mine
    exact (again.mine (same ▸ mine)).trans same
  · exact again.effective guarded (moved.effective guarded effective)

theorem Database.Valid.found (valid : db.Valid) (member : account ∈ db.accounts) :
    db.accountById account.id = some account := find_of_mem valid.ids member

theorem Database.Valid.put (valid : db.Valid) (found : db.accountById accountId = some account)
    (grown : Grown db account changed) (sound : changed.Valid) (dated : changed.Dated db.clock) : (db.put changed).Valid := by
  obtain ⟨member,here⟩ := account_found found
  have known := found
  rw [←here,←grown.id] at known
  have owned (one : Account) (there : one ∈ db.accounts) (mine : Session) (present : mine ∈ one.sessions)
      (yours : Session) (listed : yours ∈ changed.sessions) (same : mine.tokenHash = yours.tokenHash) :
      one.id = changed.id := by
    rcases grown.known yours listed with ⟨before,old,later⟩ | unused
    · rw [grown.id]
      exact valid.owners one there account member mine present before old (same.trans later.tokenHash)
    · have absent := List.all_eq_true.mp (List.all_eq_true.mp unused one there) mine present
      simp only [decide_eq_true_eq] at absent
      exact absurd same absent.2
  refine ⟨unique_replace rfl valid.ids,fun row there => ?_,fun one there two also mine present yours listed same => ?_,
    valid.policy⟩
  · rcases mem_update valid.ids known there with ⟨old,_⟩ | rfl
    · exact valid.accounts row old
    · exact ⟨sound,dated⟩
  · rcases mem_update valid.ids known there with ⟨old,_⟩ | rfl
    · rcases mem_update valid.ids known also with ⟨other,_⟩ | rfl
      · exact valid.owners one old two other mine present yours listed same
      · exact owned one old mine present yours listed same
    · rcases mem_update valid.ids known also with ⟨other,_⟩ | rfl
      · exact (owned two other yours listed mine present same.symm).symm
      · rfl

theorem put_found (found : db.accountById changed.id = some account) (other : Uuid) :
    (db.put changed).accountById other = if other = changed.id then some changed else db.accountById other := by
  unfold Database.put Database.accountById at *
  rw [find_replace rfl]
  split
  · rename_i same
    rw [same,found]
    rfl
  · rfl

theorem Blank.valid (blank : Blank account) : account.Valid := by
  refine ⟨?_,?_,fun enabled => ?_,fun confirmed => ?_,fun row member => ?_,?_,fun absurd => ?_,fun challenge member => ?_⟩
  · rw [blank.sessions,blank.cap]
    exact ⟨List.nodup_nil,List.nodup_nil,by simp,fun _ absurd => by cases absurd⟩
  · rw [blank.challenges]
    exact List.nodup_nil
  · cases blank.status.symm.trans enabled
  · rw [blank.confirmed] at confirmed
    cases confirmed
  · rw [blank.sessions] at member
    cases member
  · rw [blank.history]
    exact .nil
  · rw [blank.sealedSecret] at absurd
    cases absurd
  · rw [blank.challenges] at member
    cases member

theorem Blank.dated (blank : Blank account) (now : Instant) : account.Dated now := by
  refine ⟨fun row member => ?_,fun row member => ?_,fun setAt same => ?_⟩
  · rw [blank.sessions] at member
    cases member
  · rw [blank.challenges] at member
    cases member
  · rw [blank.password] at same
    cases same

theorem Database.Valid.insert (valid : db.Valid)
    (unused : db.accountUnused account.id account.employeeNo = true) (blank : Blank account) : (db.insert account).Valid := by
  have fresh (row : Account) (member : row ∈ db.accounts) : row.id ≠ account.id := by
    have differs := List.all_eq_true.mp unused row member
    simp only [decide_eq_true_eq] at differs
    exact differs.1
  refine ⟨concat_unique valid.ids fresh,fun row member => ?_,fun one there two also mine present yours listed same => ?_,
    valid.policy⟩
  · rcases List.mem_append.mp member with known | single
    · exact valid.accounts row known
    · cases List.mem_singleton.mp single
      exact ⟨blank.valid,blank.dated _⟩
  · rcases List.mem_append.mp there with known | single
    · rcases List.mem_append.mp also with other | single
      · exact valid.owners one known two other mine present yours listed same
      · rw [List.mem_singleton.mp single,blank.sessions] at listed
        cases listed
    · rw [List.mem_singleton.mp single,blank.sessions] at present
      cases present

variable {security : Security} {holds : LockKey → Prop} {request : Command}

theorem DatabaseStep.valid (step : DatabaseStep security holds request old new) (valid : old.Valid) :
    new.Valid := by
  induction step with
  | backoffs backoffs => exact ⟨valid.ids,valid.accounts,valid.owners,valid.policy⟩
  | created account unused blank => exact valid.insert unused blank
  | account found mine step =>
    obtain ⟨member,_⟩ := account_found found
    obtain ⟨sound,dated⟩ := valid.accounts _ member
    exact valid.put found step.grown (step.valid member sound) (step.dated dated)
  | cleared found mine guarded cleared remains =>
    obtain ⟨sound,dated⟩ := valid.accounts _ (account_found found).1
    exact valid.put found cleared.grown (cleared.valid sound) (cleared.dated dated)
  | andThen silent first second one two => exact two (one valid)

-- Replacing one account leaves the others, and is seen by whoever did not lock it.
theorem put_rely (found : old.accountById accountId = some account)
    (grown : Grown old account changed) (apart : ¬others (.account accountId))
    (effective : others .superAdminInvariant → account.effective = true → changed.effective = true) :
    Rely others old (old.put changed) := by
  obtain ⟨_,here⟩ := account_found found
  have known : old.accountById changed.id = some account := by rw [grown.id,here,found]
  refine ⟨le_refl _,fun id other there => ?_⟩
  rw [put_found known]
  split
  · rename_i same
    rw [same,known] at there
    cases there
    exact ⟨changed,rfl,grown.later,(fun mine => absurd (here ▸ mine) apart),effective⟩
  · exact ⟨other,there,.refl others other⟩

theorem DatabaseStep.rely (step : DatabaseStep security holds request old new) (valid : old.Valid)
    (apart : ∀ key, others key → ¬holds key) : Rely others old new := by
  induction step with
  | backoffs backoffs => exact ⟨le_refl _,fun _ account found => ⟨account,found,.refl others account⟩⟩
  | created account unused blank =>
    refine ⟨le_refl _,fun id other found => ⟨other,?_,.refl others other⟩⟩
    unfold Database.accountById Database.insert find at *
    rw [List.find?_append,found]
    rfl
  | account found mine step =>
    obtain ⟨sound,_⟩ := valid.accounts _ (account_found found).1
    exact put_rely found step.grown (fun yours => apart _ yours mine) fun _ => step.effective sound
  | cleared found mine guarded cleared remains =>
    exact put_rely found cleared.grown (fun yours => apart _ yours mine) fun yours => absurd guarded (apart _ yours)
  | andThen silent first second one two => exact (one valid).trans (two (first.valid valid))

-- Replacing one account leaves the effective ones that differ from it.
theorem put_effective {other : Account} (valid : old.Valid)
    (found : old.accountById accountId = some account) (same : changed.id = account.id) (member : other ∈ old.accounts)
    (effective : other.effective = true) (kept : other = account → changed.effective = true) :
    ∃ after ∈ (old.put changed).accounts, after.id = other.id ∧ after.effective = true := by
  obtain ⟨_,here⟩ := account_found found
  have known : old.accountById changed.id = some account := by rw [same,here,found]
  have after := put_found known other.id
  split at after
  · rename_i equal
    have itself : other = account := Option.some.inj ((valid.found member).symm.trans (equal ▸ known))
    exact ⟨changed,(account_found after).1,equal.symm,kept itself⟩
  · rw [valid.found member] at after
    exact ⟨other,(account_found after).1,rfl,effective⟩

-- Outside of recovery an effective administrator remains.
theorem DatabaseStep.remains (step : DatabaseStep security holds request old new) (valid : old.Valid)
    (ordinary : request.recovers = false) (some : ∃ account ∈ old.accounts, account.effective = true) :
    ∃ account ∈ new.accounts, account.effective = true := by
  induction step with
  | backoffs backoffs => exact some
  | created account unused blank =>
    obtain ⟨other,member,effective⟩ := some
    exact ⟨other,List.mem_append_left _ member,effective⟩
  | account found mine step =>
    obtain ⟨sound,_⟩ := valid.accounts _ (account_found found).1
    obtain ⟨other,there,effective⟩ := some
    obtain ⟨after,present,_,still⟩ := put_effective valid found step.grown.id there effective fun same =>
      step.effective sound (same ▸ effective)
    exact ⟨after,present,still⟩
  | cleared found mine guarded cleared remains =>
    rename_i account accountId changed old
    have another : ∃ other ∈ old.accounts, other ≠ account ∧ other.effective = true := by
      obtain ⟨other,there,effective⟩ := some
      by_cases same : other = account
      · rcases remains (same ▸ effective) with recovery | ⟨second,present,differs,remaining⟩
        · rw [ordinary] at recovery
          cases recovery
        · exact ⟨second,present,(fun equal => differs (equal ▸ (account_found found).2)),remaining⟩
      · exact ⟨other,there,same,effective⟩
    obtain ⟨other,there,differs,effective⟩ := another
    have grown : Grown old account changed := cleared.grown
    obtain ⟨after,present,_,still⟩ := put_effective valid found grown.id there effective fun same =>
      absurd same differs
    exact ⟨after,present,still⟩
  | andThen silent first second one two => exact two (first.valid valid) (one valid some)

-- The session token that a command presents.
def Command.opens (security : Security) : Command → Option String
  | .validateSession rawToken _ => some (security.tokenHash rawToken)
  | .inspectSession rawToken _ => some (security.tokenHash rawToken)
  | .completePasswordSetup bootstrapToken _ _ => some (security.tokenHash bootstrapToken)
  | .enrollTotp bootstrapToken _ => some (security.tokenHash bootstrapToken)
  | .confirmTotp bootstrapToken _ _ => some (security.tokenHash bootstrapToken)
  | .consumePolicyReauthentication rawSession _ _ _ _ => some (security.tokenHash rawSession)
  | _ => none

-- The account whose sessions a command has all revoked.
def Command.clears : Command → Response → Option Uuid
  | .issueTempPassword accountId _ _ _,.temporaryPassword _ _ => some accountId
  | .resetTotp accountId _,.account _ _ => some accountId
  | .setAccountStatus accountId status _,.account _ _ => if status = .enabled then none else some accountId
  | .changeSuperAdmin change _,.account _ _ => some change.targetId
  | .recoverSuperAdmin _ _ _,.temporaryPassword accountId _ => some accountId
  | _,_ => none

-- The session behind a token, as a command has found it.
structure Authenticated (db : Database) (tokenHash : String) (account : Account) (session : Session) : Prop where
  member : account ∈ db.accounts
  found : account.session tokenHash = some session
  live : session.live = true

-- What the answer to a command says about the state it was committed in.
structure Outcome (security : Security) (request : Command) (old new : Database) (response : Response) : Prop where
  opened : ∀ tokenHash, request.opens security = some tokenHash → response.accepts = true →
    ∃ account session, Authenticated old tokenHash account session ∧
      ∀ principal, response = .principal principal →
        allowed account session = true ∧ principal = sessionPrincipal account session
  cleared : ∀ accountId, request.clears response = some accountId →
    ∀ account, new.accountById accountId = some account → ∀ row ∈ account.sessions, row.live = false
  passwordSet : ∀ bootstrapToken password salt, request = .completePasswordSetup bootstrapToken password salt →
    response = .passwordSet → ∃ account session, Authenticated old (security.tokenHash bootstrapToken) account session ∧
      ∀ after, new.accountById account.id = some after → ∀ row ∈ after.sessions, row.id ≠ session.id → row.live = false
  loggedIn : ∀ challengeToken code fresh, request = .loginTotpStep challengeToken code fresh →
    ∀ accountId sessionId kind purpose, response = .issued accountId sessionId kind purpose →
      kind = .full ∧ ∃ account challenge, old.accountById accountId = some account ∧
        Completed account (security.tokenHash challengeToken) challenge

structure Committed (security : Security) (request : Command) (old new : Database) (response : Response) : Prop where
  step : ∃ holds, DatabaseStep security holds request old new
  outcome : Outcome security request old new response

def rules (security : Security) : Rules Database LockKey Command Response where
  valid := Database.Valid
  rely := Rely
  commits := Committed security
  refl := Rely.refl
  trans := fun _ _ _ _ => Rely.trans

end EngineeringPlatform.Identity
