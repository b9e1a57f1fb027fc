import EngineeringPlatform.IdentityPolicy
namespace EngineeringPlatform.Identity
open Checked PythonTime

inductive PolicyFailure where
  | overflow
  | integerOutOfRange
  deriving DecidableEq

structure LoginBackoff where
  failureCount : Nat
  lastFailureAt : Option Instant
  lockedUntil : Option Instant
  deriving DecidableEq

def challengeTtl : Duration := 5 * minute

-- The INTEGER columns hold 32 bits.
def storedInteger (number : Int) : Except PolicyFailure Int := do
  require (number ≤ 2147483647) .integerOutOfRange
  pure number

def advance (instant : Instant) (duration : Duration) : Except PolicyFailure Instant :=
  orRaise (add instant duration) .overflow

def tempCredentialExpiry (policy : EffectiveIdentityPolicy) (now : Instant) : Except PolicyFailure Instant :=
  advance now policy.tempCredentialTtl

def passwordExpired (policy : EffectiveIdentityPolicy) (passwordSetAt : Option Instant) (now : Instant) :
    Except PolicyFailure Bool :=
  match policy.passwordMaxAge,passwordSetAt with
  | some age,some setAt => do
    let deadline ← advance setAt age
    pure (decide (deadline ≤ now))
  | _,_ => pure false

def sessionIdle (policy : EffectiveIdentityPolicy) (lastSeenAt now : Instant) : Except PolicyFailure Bool := do
  let deadline ← advance lastSeenAt policy.sessionIdleTimeout
  pure (decide (deadline ≤ now))

def sessionExpiresHint (policy : EffectiveIdentityPolicy) (now : Instant) : Except PolicyFailure Instant :=
  advance now policy.sessionIdleTimeout

def challengeExpiry (now : Instant) : Except PolicyFailure Instant := advance now challengeTtl

def archiveCutoff (policy : EffectiveIdentityPolicy) (now : Instant) : Except PolicyFailure Instant :=
  orRaise (subtract now policy.draftArchiveAfter) .overflow

def failureCount (resetAfter : Duration) (backoff : Option LoginBackoff) (now : Instant) : Nat :=
  match backoff with
  | none => 1
  | some row =>
    match row.lastFailureAt with
    | none => 1
    | some failedAt => if now - failedAt < resetAfter then row.failureCount + 1 else 1

def totalSeconds (duration : Duration) : Int := duration / second

def lockedUntil (policy : EffectiveIdentityPolicy) (count : Nat) (now : Instant) :
    Except PolicyFailure (Option Instant) := do
  if policy.backoffThreshold ≤ count then
    let seconds ← orRaise (doubled (totalSeconds policy.backoffInitialDelay)
      (count - policy.backoffThreshold).toNat) .overflow
    let instant ← advance now (min seconds (totalSeconds policy.backoffMaxDelay) * second)
    pure (some instant)
  else pure none

def recordPasswordFailure (policy : EffectiveIdentityPolicy) (backoff : Option LoginBackoff) (now : Instant) :
    Except PolicyFailure LoginBackoff := do
  let count := failureCount policy.backoffResetAfter backoff now
  let locked ← lockedUntil policy count now
  let _ ← storedInteger count
  pure ⟨count,some now,locked⟩

-- What a use of the policy reads besides it: the clock, and instants that are
-- stored and therefore lie in the calendar.
structure PolicyFacts where
  now : Instant
  passwordSetAt : Option Instant
  lastSeenAt : Instant
  backoff : Option LoginBackoff
  nowInside : Representable now
  setInside : ∀ setAt, passwordSetAt = some setAt → Representable setAt
  seenInside : Representable lastSeenAt

inductive PolicyUse where
  | issueTempCredential
  | checkPasswordAge
  | checkSessionIdle
  | touchSession
  | recordPasswordFailure
  | issueChallenge
  | archiveDrafts
  deriving DecidableEq

def PolicyUse.run (policy : EffectiveIdentityPolicy) (facts : PolicyFacts) : PolicyUse → Except PolicyFailure Unit
  | .issueTempCredential => do discard (tempCredentialExpiry policy facts.now)
  | .checkPasswordAge => do discard (passwordExpired policy facts.passwordSetAt facts.now)
  | .checkSessionIdle => do discard (sessionIdle policy facts.lastSeenAt facts.now)
  | .touchSession => do discard (sessionExpiresHint policy facts.now)
  | .recordPasswordFailure => do discard (Identity.recordPasswordFailure policy facts.backoff facts.now)
  | .issueChallenge => do
    discard (challengeExpiry facts.now)
    discard (storedInteger policy.totpAttemptCap)
  | .archiveDrafts => do discard (archiveCutoff policy facts.now)

-- When the integers of a snapshot leave every derived instant in the calendar.
structure PolicyNumbers.Usable (numbers : PolicyNumbers) (facts : PolicyFacts) : Prop where
  tempCredential : facts.now + numbers.tempCredentialHours * hour ≤ lastInstant
  passwordAge : ∀ days setAt, numbers.passwordMaxAgeDays = some days → facts.passwordSetAt = some setAt →
    setAt + days * day ≤ lastInstant
  sessionIdle : facts.lastSeenAt + numbers.sessionIdleMinutes * minute ≤ lastInstant
  sessionTouch : facts.now + numbers.sessionIdleMinutes * minute ≤ lastInstant
  failures : failureCount (numbers.resetAfterHours * hour) facts.backoff facts.now ≤ 2147483647
  lockout : numbers.failureThreshold ≤ failureCount (numbers.resetAfterHours * hour) facts.backoff facts.now →
    (failureCount (numbers.resetAfterHours * hour) facts.backoff facts.now : Int) <
        numbers.failureThreshold + 1024 ∧
      facts.now + min (numbers.initialDelaySeconds *
          2 ^ (failureCount (numbers.resetAfterHours * hour) facts.backoff facts.now -
            numbers.failureThreshold).toNat) numbers.maximumDelaySeconds * second ≤ lastInstant
  challenge : facts.now + challengeTtl ≤ lastInstant
  attemptCap : numbers.totpAttemptCap ≤ 2147483647
  archive : numbers.draftArchiveDays * day ≤ facts.now

theorem discard_ok {outcome : Except PolicyFailure α} :
    (∃ done, discard outcome = .ok done) ↔ ∃ result, outcome = .ok result := by
  cases outcome <;> simp [discard,Functor.discard,Functor.mapConst,Except.map]

theorem advance_ok {instant : Instant} {length : Duration} (inside : Representable instant) (forward : 0 ≤ length) :
    (∃ result, advance instant length = .ok result) ↔ instant + length ≤ lastInstant := by
  unfold advance
  simp only [orRaise_ok]
  exact add_exists inside forward

theorem bind_pure_ok {outcome : Except PolicyFailure α} {rest : α → β} :
    (∃ result, (do let found ← outcome; pure (rest found)) = Except.ok (ε := PolicyFailure) result) ↔
      ∃ found, outcome = .ok found := by
  cases outcome <;> simp [bind,Except.bind,pure,Except.pure]

theorem duration_ok {path : String} {value result : Duration} (ran : duration path value = .ok result) : result = value :=
  (timedelta_some.mp (orRaise_ok.mp ran)).1

theorem ageOf_ok {path : String} {days : Option Int} (ran : ageOf path days = .ok age) :
    age = days.map (· * day) := by
  cases days with
  | none =>
    cases pure_ok.mp ran
    rfl
  | some days =>
    obtain ⟨length,made,ran⟩ := bind_ok.mp ran
    cases pure_ok.mp ran
    rw [duration_ok made]
    rfl

-- What a materialized policy is: the integers in their units, inside the
-- constraints of the runtime type.
structure Materialized (numbers : PolicyNumbers) (policy : EffectiveIdentityPolicy) : Prop where
  tempCredentialTtl : policy.tempCredentialTtl = numbers.tempCredentialHours * hour
  passwordMaxAge : policy.passwordMaxAge = numbers.passwordMaxAgeDays.map (· * day)
  sessionIdleTimeout : policy.sessionIdleTimeout = numbers.sessionIdleMinutes * minute
  backoffThreshold : policy.backoffThreshold = numbers.failureThreshold
  backoffInitialDelay : policy.backoffInitialDelay = numbers.initialDelaySeconds * second
  backoffMaxDelay : policy.backoffMaxDelay = numbers.maximumDelaySeconds * second
  backoffResetAfter : policy.backoffResetAfter = numbers.resetAfterHours * hour
  totpAttemptCap : policy.totpAttemptCap = numbers.totpAttemptCap
  draftArchiveAfter : policy.draftArchiveAfter = numbers.draftArchiveDays * day
  wellFormed : policy.wellFormed = true

theorem identityPolicyFromCandidate_ok {numbers : PolicyNumbers}
    (ran : identityPolicyFromCandidate numbers = .ok policy) : Materialized numbers policy := by
  unfold identityPolicyFromCandidate at ran
  obtain ⟨ttl,ttlMade,ran⟩ := bind_ok.mp ran
  obtain ⟨age,ageMade,ran⟩ := bind_ok.mp ran
  obtain ⟨idle,idleMade,ran⟩ := bind_ok.mp ran
  obtain ⟨initial,initialMade,ran⟩ := bind_ok.mp ran
  obtain ⟨maximum,maximumMade,ran⟩ := bind_ok.mp ran
  obtain ⟨reset,resetMade,ran⟩ := bind_ok.mp ran
  obtain ⟨archive,archiveMade,ran⟩ := bind_ok.mp ran
  obtain ⟨wellFormed,ran⟩ := require_bind_ok.mp ran
  cases pure_ok.mp ran
  exact ⟨duration_ok ttlMade,ageOf_ok ageMade,duration_ok idleMade,rfl,duration_ok initialMade,
    duration_ok maximumMade,duration_ok resetMade,rfl,duration_ok archiveMade,wellFormed⟩

theorem accepted_materialized
    (accepted : validateAndMaterializeIdentityPolicy schemaRevision values = ([],some policy)) :
    ∃ numbers, policyNumbers values = some numbers ∧ Materialized numbers policy := by
  unfold validateAndMaterializeIdentityPolicy at accepted
  split at accepted
  · split at accepted
    · rename_i made
      cases accepted
      obtain ⟨numbers,read,made⟩ := bind_ok.mp made
      exact ⟨numbers,orRaise_ok.mp read,identityPolicyFromCandidate_ok made⟩
    · cases accepted
  · have refused := congrArg Prod.snd accepted
    cases refused

theorem tempCredential_usable {policy : EffectiveIdentityPolicy} (facts : PolicyFacts)
    (forward : 0 ≤ policy.tempCredentialTtl) :
    (∃ done, PolicyUse.issueTempCredential.run policy facts = .ok done) ↔
      facts.now + policy.tempCredentialTtl ≤ lastInstant :=
  discard_ok.trans (advance_ok facts.nowInside forward)

theorem passwordAge_usable {policy : EffectiveIdentityPolicy} (facts : PolicyFacts)
    (forward : ∀ age, policy.passwordMaxAge = some age → 0 ≤ age) :
    (∃ done, PolicyUse.checkPasswordAge.run policy facts = .ok done) ↔
      ∀ age setAt, policy.passwordMaxAge = some age → facts.passwordSetAt = some setAt → setAt + age ≤ lastInstant := by
  refine discard_ok.trans ?_
  unfold passwordExpired
  split
  · rename_i age setAt aged passwordSet
    refine bind_pure_ok.trans ((advance_ok (facts.setInside setAt passwordSet) (forward age aged)).trans ?_)
    constructor
    · intro bounded age' setAt' aged' passwordSet'
      cases aged.symm.trans aged'
      cases passwordSet.symm.trans passwordSet'
      exact bounded
    · exact fun bounded => bounded age setAt aged passwordSet
  · rename_i neither
    exact ⟨fun _ age setAt aged passwordSet => absurd passwordSet (neither age setAt aged),fun _ => ⟨_,rfl⟩⟩

theorem sessionIdle_usable {policy : EffectiveIdentityPolicy} (facts : PolicyFacts)
    (forward : 0 ≤ policy.sessionIdleTimeout) :
    (∃ done, PolicyUse.checkSessionIdle.run policy facts = .ok done) ↔
      facts.lastSeenAt + policy.sessionIdleTimeout ≤ lastInstant :=
  discard_ok.trans (bind_pure_ok.trans (advance_ok facts.seenInside forward))

theorem sessionTouch_usable {policy : EffectiveIdentityPolicy} (facts : PolicyFacts)
    (forward : 0 ≤ policy.sessionIdleTimeout) :
    (∃ done, PolicyUse.touchSession.run policy facts = .ok done) ↔
      facts.now + policy.sessionIdleTimeout ≤ lastInstant :=
  discard_ok.trans (advance_ok facts.nowInside forward)

theorem archive_usable {policy : EffectiveIdentityPolicy} (facts : PolicyFacts)
    (back : 0 ≤ policy.draftArchiveAfter) :
    (∃ done, PolicyUse.archiveDrafts.run policy facts = .ok done) ↔ policy.draftArchiveAfter ≤ facts.now := by
  refine discard_ok.trans ?_
  unfold archiveCutoff
  simp only [orRaise_ok]
  exact subtract_exists facts.nowInside back

theorem storedInteger_usable {number : Int} :
    (∃ stored, storedInteger number = .ok stored) ↔ number ≤ 2147483647 := by
  unfold storedInteger
  simp only [require_bind_ok]
  exact ⟨fun ⟨_,bounded,_⟩ => bounded,fun bounded => ⟨_,bounded,rfl⟩⟩

theorem challenge_usable {policy : EffectiveIdentityPolicy} (facts : PolicyFacts) :
    (∃ done, PolicyUse.issueChallenge.run policy facts = .ok done) ↔
      facts.now + challengeTtl ≤ lastInstant ∧ policy.totpAttemptCap ≤ 2147483647 := by
  rw [←advance_ok facts.nowInside (by decide),←storedInteger_usable]
  unfold PolicyUse.run challengeExpiry
  constructor
  · rintro ⟨done,ran⟩
    obtain ⟨_,issued,ran⟩ := bind_ok.mp ran
    exact ⟨discard_ok.mp ⟨_,issued⟩,discard_ok.mp ⟨_,ran⟩⟩
  · rintro ⟨issued,stored⟩
    obtain ⟨one,issued⟩ := discard_ok.mpr issued
    obtain ⟨two,stored⟩ := discard_ok.mpr stored
    exact ⟨two,bind_ok.mpr ⟨one,issued,stored⟩⟩

theorem lockedUntil_usable {policy : EffectiveIdentityPolicy} (inside : Representable now)
    (initial : 0 ≤ policy.backoffInitialDelay) (maximum : 0 ≤ policy.backoffMaxDelay) :
    (∃ locked, lockedUntil policy count now = .ok locked) ↔
      (policy.backoffThreshold ≤ count → (count : Int) < policy.backoffThreshold + 1024 ∧
        now + min (totalSeconds policy.backoffInitialDelay * 2 ^ (count - policy.backoffThreshold).toNat)
          (totalSeconds policy.backoffMaxDelay) * second ≤ lastInstant) := by
  unfold lockedUntil
  split
  · rename_i reached
    have forward (exponent : Nat) : 0 ≤ min (totalSeconds policy.backoffInitialDelay * 2 ^ exponent)
        (totalSeconds policy.backoffMaxDelay) * second := by
      unfold totalSeconds second
      positivity
    have capped : (count - policy.backoffThreshold).toNat < 1024 ↔ (count : Int) < policy.backoffThreshold + 1024 := by
      omega
    rw [forall_prop_of_true reached,←capped,←advance_ok inside (forward _)]
    simp only [orRaise_bind_ok]
    constructor
    · rintro ⟨locked,seconds,made,ran⟩
      have bounded := doubled_exists.mp ⟨seconds,made⟩
      rw [doubled,if_pos bounded] at made
      cases Option.some.inj made
      exact ⟨bounded,bind_pure_ok.mp ⟨locked,ran⟩⟩
    · rintro ⟨bounded,ran⟩
      obtain ⟨locked,ran⟩ := bind_pure_ok.mpr ran
      exact ⟨locked,_,if_pos bounded,ran⟩
  · rename_i below
    exact ⟨fun _ reached => absurd reached below,fun _ => ⟨none,rfl⟩⟩

theorem lockout_usable {policy : EffectiveIdentityPolicy} (facts : PolicyFacts) :
    (∃ done, PolicyUse.recordPasswordFailure.run policy facts = .ok done) ↔
      (∃ locked, lockedUntil policy (failureCount policy.backoffResetAfter facts.backoff facts.now) facts.now =
        .ok locked) ∧
      (failureCount policy.backoffResetAfter facts.backoff facts.now : Int) ≤ 2147483647 := by
  refine discard_ok.trans ?_
  unfold recordPasswordFailure
  rw [←storedInteger_usable]
  constructor
  · rintro ⟨row,ran⟩
    obtain ⟨locked,computed,ran⟩ := bind_ok.mp ran
    exact ⟨⟨locked,computed⟩,bind_pure_ok.mp ⟨row,ran⟩⟩
  · rintro ⟨⟨locked,computed⟩,stored⟩
    obtain ⟨row,ran⟩ := bind_pure_ok.mpr stored
    exact ⟨row,bind_ok.mpr ⟨locked,computed,ran⟩⟩

theorem totalSeconds_second (seconds : Int) : totalSeconds (seconds * second) = seconds := by
  unfold totalSeconds second
  exact Int.mul_ediv_cancel seconds (by decide)

-- The runtime type admits no negative duration, so that every use goes forward
-- from its instant and the archive cutoff goes back from the clock.
theorem Materialized.forward (made : Materialized numbers policy) :
    0 ≤ policy.tempCredentialTtl ∧ (∀ age, policy.passwordMaxAge = some age → 0 ≤ age) ∧
      0 ≤ policy.sessionIdleTimeout ∧ 0 ≤ policy.backoffInitialDelay ∧ 0 ≤ policy.backoffMaxDelay ∧
      0 ≤ policy.draftArchiveAfter := by
  have wellFormed := made.wellFormed
  simp only [EffectiveIdentityPolicy.wellFormed,decide_eq_true_eq] at wellFormed
  obtain ⟨ttl,age,_,_,idle,_,_,initial,maximum,_,_,archive,_⟩ := wellFormed
  refine ⟨le_of_lt ttl,?_,le_trans (by decide) idle,le_of_lt initial,le_of_lt maximum,le_of_lt archive⟩
  intro length aged
  rw [aged] at age
  simp only [Option.all_some,decide_eq_true_eq] at age
  exact le_of_lt age

-- An accepted snapshot is usable on an account at an instant exactly when its
-- integers say so: the validator bounds none of them by the calendar.
theorem accepted_policy_usable (facts : PolicyFacts)
    (accepted : validateAndMaterializeIdentityPolicy schemaRevision values = ([],some policy)) :
    (∀ policyUse : PolicyUse, ∃ done, policyUse.run policy facts = .ok done) ↔
      ∃ numbers, policyNumbers values = some numbers ∧ numbers.Usable facts := by
  obtain ⟨numbers,read,made⟩ := accepted_materialized accepted
  obtain ⟨ttl,age,idle,initial,maximum,archive⟩ := made.forward
  have lockout := (lockout_usable facts).trans
    (and_congr_left' (@lockedUntil_usable facts.now _ policy facts.nowInside initial maximum))
  rw [made.backoffThreshold,made.backoffResetAfter,made.backoffInitialDelay,made.backoffMaxDelay,
    totalSeconds_second,totalSeconds_second] at lockout
  have aged := passwordAge_usable facts age
  rw [made.passwordMaxAge] at aged
  have credential := tempCredential_usable facts ttl
  rw [made.tempCredentialTtl] at credential
  have seen := sessionIdle_usable facts idle
  have touched := sessionTouch_usable facts idle
  rw [made.sessionIdleTimeout] at seen touched
  have challenge := @challenge_usable policy facts
  rw [made.totpAttemptCap] at challenge
  have cutoff := archive_usable facts archive
  rw [made.draftArchiveAfter] at cutoff
  constructor
  · intro usable
    obtain ⟨locks,counted⟩ := lockout.mp (usable .recordPasswordFailure)
    obtain ⟨issued,capped⟩ := challenge.mp (usable .issueChallenge)
    refine ⟨numbers,read,credential.mp (usable .issueTempCredential),?_,seen.mp (usable .checkSessionIdle),
      touched.mp (usable .touchSession),Int.ofNat_le.mp counted,locks,issued,capped,cutoff.mp (usable .archiveDrafts)⟩
    intro days setAt limited passwordSet
    exact aged.mp (usable .checkPasswordAge) _ setAt (Option.map_eq_some_iff.mpr ⟨days,limited,rfl⟩) passwordSet
  · rintro ⟨numbers',read',usable⟩ policyUse
    cases read.symm.trans read'
    cases policyUse with
    | issueTempCredential => exact credential.mpr usable.tempCredential
    | checkPasswordAge =>
      refine aged.mpr fun length setAt limited passwordSet => ?_
      obtain ⟨days,capped,rfl⟩ := Option.map_eq_some_iff.mp limited
      exact usable.passwordAge days setAt capped passwordSet
    | checkSessionIdle => exact seen.mpr usable.sessionIdle
    | touchSession => exact touched.mpr usable.sessionTouch
    | recordPasswordFailure => exact lockout.mpr ⟨usable.lockout,Int.ofNat_le.mpr usable.failures⟩
    | issueChallenge => exact challenge.mpr ⟨usable.challenge,usable.attemptCap⟩
    | archiveDrafts => exact cutoff.mpr usable.archive

def policySnapshot (passwordMaxAge draftArchiveAfter : JsonValue) : PolicyValues :=
  [("identity.temp_credential_ttl",.integer 24),("identity.password_max_age",passwordMaxAge),
    ("identity.session_cap",.integer 3),("identity.session_idle_timeout",.integer 60),
    ("identity.login_backoff",.object [("failureThreshold",.integer 5),("initialDelaySeconds",.integer 30),
      ("maximumDelaySeconds",.integer 900),("resetAfterHours",.integer 24)]),
    ("identity.totp_attempt_cap",.integer 5),("identity.draft_archive_after",draftArchiveAfter)]

-- An instant of the year 2026, an account whose password was set a day before,
-- and 1028 wrong passwords in a row.
def policyFactsOf (failures : Nat) : PolicyFacts where
  now := 739700 * day
  passwordSetAt := some (739699 * day)
  lastSeenAt := 739699 * day
  backoff := some ⟨failures,some (739700 * day - hour),none⟩
  nowInside := by decide
  setInside setAt same := by
    cases Option.some.inj same
    decide
  seenInside := by decide

def defaultPolicy : EffectiveIdentityPolicy :=
  ⟨24 * hour,none,3,60 * minute,5,30 * second,900 * second,24 * hour,5,30 * day⟩

-- The registered defaults pass every check, and are usable on such an account.
theorem accepted_policy_usable_default :
    ∃ done, PolicyUse.recordPasswordFailure.run defaultPolicy (policyFactsOf 3) = .ok done := by
  have accepted : validateAndMaterializeIdentityPolicy 1 (policySnapshot (.text "NEVER") (.integer 30)) =
      ([],some defaultPolicy) := by decide
  refine (accepted_policy_usable (policyFactsOf 3) accepted).mpr ⟨⟨24,none,3,60,5,30,900,24,5,30⟩,by decide,?_⟩ _
  constructor <;> first | decide | (intro days setAt limited; cases limited)

-- Four million days are accepted and reach past the calendar from every instant
-- of it: each login of each account with a password fails, and so does each
-- archive run. With the defaults the 1029th wrong password in a row cannot be
-- recorded any more.
theorem accepted_policy_unusable :
    validateAndMaterializeIdentityPolicy 1 (policySnapshot (.integer 4000000) (.integer 4000000)) =
        ([],some {defaultPolicy with passwordMaxAge := some (4000000 * day), draftArchiveAfter := 4000000 * day}) ∧
      (∀ facts : PolicyFacts, ∀ setAt, facts.passwordSetAt = some setAt →
        passwordExpired {defaultPolicy with passwordMaxAge := some (4000000 * day)} (some setAt) facts.now =
          .error .overflow) ∧
      (∀ facts : PolicyFacts,
        archiveCutoff {defaultPolicy with draftArchiveAfter := 4000000 * day} facts.now = .error .overflow) ∧
      PolicyUse.recordPasswordFailure.run defaultPolicy (policyFactsOf 1028) = .error .overflow := by
  refine ⟨by decide,fun facts setAt passwordSet => ?_,fun facts => ?_,by decide⟩
  · have outside : ¬Representable (setAt + 4000000 * day) := by
      rintro ⟨_,bounded⟩
      have started := (facts.setInside setAt passwordSet).1
      have after : lastInstant < 4000000 * day := by decide
      unfold firstInstant at started
      linarith
    simp only [passwordExpired,advance,add,if_neg outside]
    rfl
  · have outside : ¬Representable (facts.now + -(4000000 * day)) := by
      rintro ⟨bounded,_⟩
      have ended := facts.nowInside.2
      have after : lastInstant < 4000000 * day := by decide
      unfold firstInstant at bounded
      linarith
    simp only [archiveCutoff,subtract,add,if_neg outside]
    rfl

end EngineeringPlatform.Identity
