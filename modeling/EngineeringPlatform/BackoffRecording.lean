import EngineeringPlatform.IdentityPolicyUses
namespace EngineeringPlatform.Identity
open Checked PythonTime

-- A row has no failure instant exactly as long as it counts nothing.
def LoginBackoff.Stored (row : LoginBackoff) : Prop := row.lastFailureAt = none → row.failureCount = 0

def failuresOf : Option LoginBackoff → Nat
  | none => 0
  | some row => row.failureCount

def lastFailure (row : Option LoginBackoff) : Option Instant := row.bind (·.lastFailureAt)

-- Each failure comes before the reset time of the one before it has passed.
def Consecutive (resetAfter : Duration) : Option Instant → List Instant → Prop
  | _,[] => True
  | last,now :: later => (∀ failedAt, last = some failedAt → now - failedAt < resetAfter) ∧
      Consecutive resetAfter (some now) later

def lockoutDelay (numbers : PolicyNumbers) (count : Nat) : Duration :=
  min (numbers.initialDelaySeconds * 2 ^ (count - numbers.failureThreshold).toNat) numbers.maximumDelaySeconds * second

def lockoutOf (numbers : PolicyNumbers) (count : Nat) (now : Instant) : Option Instant :=
  if numbers.failureThreshold ≤ count then some (now + lockoutDelay numbers count) else none

-- Each wrong password is counted once, and locks the scope from the threshold on.
def Recorded (policy : EffectiveIdentityPolicy) (numbers : PolicyNumbers) : Option LoginBackoff → List Instant → Prop
  | _,[] => True
  | row,now :: later => ∃ next, recordPasswordFailure policy row now = .ok next ∧
      next.failureCount = failuresOf row + 1 ∧ next.lastFailureAt = some now ∧
      next.lockedUntil = lockoutOf numbers next.failureCount now ∧ Recorded policy numbers (some next) later

-- The count fits its column, the power of two has a double, and the lock ends
-- before the calendar does.
structure Recordable (numbers : PolicyNumbers) (count : Nat) (now : Instant) : Prop where
  stored : count ≤ 2147483647
  doubles : numbers.failureThreshold ≤ count → (count : Int) < numbers.failureThreshold + 1024
  ends : numbers.failureThreshold ≤ count → now + lockoutDelay numbers count ≤ lastInstant

def AllRecordable (numbers : PolicyNumbers) : Nat → List Instant → Prop
  | _,[] => True
  | count,now :: later => Recordable numbers (count + 1) now ∧ AllRecordable numbers (count + 1) later

theorem failureCount_continues (stored : ∀ old, row = some old → old.Stored)
    (continues : ∀ failedAt, lastFailure row = some failedAt → now - failedAt < resetAfter) :
    failureCount resetAfter row now = failuresOf row + 1 := by
  cases row with
  | none => rfl
  | some old =>
    obtain ⟨count,failedAt,locked⟩ := old
    cases failedAt with
    | none =>
      have nothing : count = 0 := stored _ rfl rfl
      rw [nothing]
      rfl
    | some failedAt => exact if_pos (continues failedAt rfl)

theorem lockedUntil_ok (made : Materialized numbers policy)
    (ran : lockedUntil policy count now = .ok locked) : locked = lockoutOf numbers count now := by
  unfold lockedUntil at ran
  rw [made.backoffThreshold,made.backoffInitialDelay,made.backoffMaxDelay,totalSeconds_second,
    totalSeconds_second] at ran
  unfold lockoutOf
  split at ran
  · rename_i reached
    obtain ⟨seconds,doubles,ran⟩ := bind_ok.mp ran
    obtain ⟨instant,advanced,ran⟩ := bind_ok.mp ran
    cases pure_ok.mp ran
    have doubles := orRaise_ok.mp doubles
    unfold doubled at doubles
    split at doubles
    · cases Option.some.inj doubles
      rw [if_pos reached,(add_some.mp (orRaise_ok.mp advanced)).1]
      rfl
    · cases doubles
  · rename_i below
    cases pure_ok.mp ran
    rw [if_neg below]

-- One recording: it can only raise, and raises exactly outside the three bounds.
theorem recordPasswordFailure_counts (row : Option LoginBackoff) (made : Materialized numbers policy) (inside : Representable now) :
    (∃ next, recordPasswordFailure policy row now = .ok next) ↔
      Recordable numbers (failureCount policy.backoffResetAfter row now) now := by
  obtain ⟨_,_,_,initial,maximum,_⟩ := made.forward
  have locks := @lockedUntil_usable now (failureCount policy.backoffResetAfter row now) policy inside initial maximum
  rw [made.backoffThreshold,made.backoffInitialDelay,made.backoffMaxDelay,totalSeconds_second,
    totalSeconds_second] at locks
  have counts : (∃ next, recordPasswordFailure policy row now = .ok next) ↔
      (∃ locked, lockedUntil policy (failureCount policy.backoffResetAfter row now) now = .ok locked) ∧
        (failureCount policy.backoffResetAfter row now : Int) ≤ 2147483647 := by
    unfold recordPasswordFailure
    rw [←storedInteger_usable]
    constructor
    · rintro ⟨next,ran⟩
      obtain ⟨locked,computed,ran⟩ := bind_ok.mp ran
      exact ⟨⟨locked,computed⟩,bind_pure_ok.mp ⟨next,ran⟩⟩
    · rintro ⟨⟨locked,computed⟩,stored⟩
      obtain ⟨next,ran⟩ := bind_pure_ok.mpr stored
      exact ⟨next,bind_ok.mpr ⟨locked,computed,ran⟩⟩
  rw [counts,locks]
  constructor
  · rintro ⟨locks,stored⟩
    exact ⟨Int.ofNat_le.mp stored,fun reached => (locks reached).1,fun reached => (locks reached).2⟩
  · exact fun recordable => ⟨fun reached => ⟨recordable.doubles reached,recordable.ends reached⟩,
      Int.ofNat_le.mpr recordable.stored⟩

theorem recordPasswordFailure_ok (made : Materialized numbers policy)
    (ran : recordPasswordFailure policy row now = .ok next) :
    next = ⟨failureCount policy.backoffResetAfter row now,some now,
      lockoutOf numbers (failureCount policy.backoffResetAfter row now) now⟩ := by
  unfold recordPasswordFailure at ran
  obtain ⟨locked,computed,ran⟩ := bind_ok.mp ran
  obtain ⟨_,_,ran⟩ := bind_ok.mp ran
  cases pure_ok.mp ran
  rw [lockedUntil_ok made computed]

-- Induction over the wrong passwords: each recording leaves the row of the next.
theorem failures_recorded (accepted : validateAndMaterializeIdentityPolicy schemaRevision values = ([],some policy))
    (read : policyNumbers values = some numbers) (stored : ∀ old, row = some old → old.Stored)
    (inside : ∀ now ∈ instants, Representable now)
    (consecutive : Consecutive policy.backoffResetAfter (lastFailure row) instants) :
    Recorded policy numbers row instants ↔ AllRecordable numbers (failuresOf row) instants := by
  obtain ⟨numbers',read',made⟩ := accepted_materialized accepted
  cases read.symm.trans read'
  induction instants generalizing row with
  | nil => exact ⟨fun _ => trivial,fun _ => trivial⟩
  | cons now later ih =>
    obtain ⟨continues,consecutive⟩ := consecutive
    have counts := failureCount_continues stored continues
    have records := recordPasswordFailure_counts row made (inside now List.mem_cons_self)
    have later (count : Nat) (locked : Option Instant) := @ih (some ⟨count,some now,locked⟩)
      (fun old same => by cases same; rintro ⟨⟩) (fun instant member => inside instant (List.mem_cons_of_mem _ member))
      consecutive
    rw [counts] at records
    constructor
    · rintro ⟨next,ran,_,_,_,recorded⟩
      cases recordPasswordFailure_ok made ran
      rw [counts] at recorded
      exact ⟨records.mp ⟨_,ran⟩,(later _ _).mp recorded⟩
    · rintro ⟨recordable,rest⟩
      obtain ⟨next,ran⟩ := records.mpr recordable
      have same := recordPasswordFailure_ok made ran
      rw [counts] at same
      cases same
      exact ⟨_,ran,rfl,rfl,rfl,(later _ _).mpr rest⟩

-- Wrong passwords sixteen minutes apart, each after the lock of the last.
def wrongPasswords (number : Nat) : List Instant := (List.range number).map fun k => 739700 * day + k * (16 * minute)

def defaultNumbers : PolicyNumbers := ⟨24,none,3,60,5,30,900,24,5,30⟩

theorem failures_recorded_six :
    AllRecordable defaultNumbers 0 (wrongPasswords 6) ∧ Recorded defaultPolicy defaultNumbers none (wrongPasswords 6) := by
  have accepted : validateAndMaterializeIdentityPolicy 1 (policySnapshot (.text "NEVER") (.integer 30)) =
      ([],some defaultPolicy) := by decide
  have recordable : AllRecordable defaultNumbers 0 (wrongPasswords 6) := by
    refine ⟨?_,?_,?_,?_,?_,?_,trivial⟩ <;> constructor <;> decide
  refine ⟨recordable,(failures_recorded accepted (by decide) (by rintro _ ⟨⟩) (by decide) ?_).mpr recordable⟩
  refine ⟨(fun _ nothing => by cases nothing),?_,?_,?_,?_,?_,trivial⟩ <;>
  · rintro _ ⟨⟩
    decide

-- The recordings one after the other.
def recordFailures (policy : EffectiveIdentityPolicy) : Option LoginBackoff → List Instant →
    Except PolicyFailure (Option LoginBackoff)
  | row,[] => pure row
  | row,now :: later => do
    let next ← recordPasswordFailure policy row now
    recordFailures policy (some next) later

theorem Recorded.ran (recorded : Recorded policy numbers row instants) :
    (recordFailures policy row instants).isOk = true := by
  induction instants generalizing row with
  | nil => rfl
  | cons now later ih =>
    obtain ⟨next,ran,_,_,_,recorded⟩ := recorded
    unfold recordFailures
    rw [ran]
    exact ih recorded

-- With the registered defaults 1028 wrong passwords in a row are counted, and the
-- next one overflows.
theorem overflow_raises :
    (recordFailures defaultPolicy none (wrongPasswords 1028)).isOk = true ∧
      (recordFailures defaultPolicy none (wrongPasswords 1029)).isOk = false := by
  decide +kernel

theorem overflow_uncounted :
    validateAndMaterializeIdentityPolicy 1 (policySnapshot (.text "NEVER") (.integer 30)) = ([],some defaultPolicy) ∧
      (recordFailures defaultPolicy none (wrongPasswords 1028)).isOk = true ∧
      ¬Recorded defaultPolicy defaultNumbers none (wrongPasswords 1029) := by
  exact ⟨by decide,overflow_raises.1,mt Recorded.ran (ne_of_eq_of_ne overflow_raises.2 Bool.false_ne_true)⟩

end EngineeringPlatform.Identity
