import Mathlib.Tactic.Linarith
-- Python's calendar arithmetic, in microseconds. An instant counts from midnight
-- of 1 January of year 1, and the calendar ends with the year 9999; what leaves
-- it, or a duration of more than 999999999 days, raises OverflowError.
namespace PythonTime

abbrev Instant := Int
abbrev Duration := Int

def second : Duration := 1000000
def minute : Duration := 60 * second
def hour : Duration := 60 * minute
def day : Duration := 24 * hour

def firstInstant : Instant := 0
def lastInstant : Instant := 3652059 * day - 1

def Representable (instant : Instant) : Prop := firstInstant ≤ instant ∧ instant ≤ lastInstant

instance (instant : Instant) : Decidable (Representable instant) := inferInstanceAs (Decidable (_ ∧ _))

def longest : Duration := 1000000000 * day - 1

def timedelta (duration : Duration) : Option Duration :=
  if -(999999999 * day) ≤ duration ∧ duration ≤ longest then some duration else none

def add (instant : Instant) (duration : Duration) : Option Instant :=
  if Representable (instant + duration) then some (instant + duration) else none

def subtract (instant : Instant) (duration : Duration) : Option Instant := add instant (-duration)

-- `total_seconds() * 2**exponent`: the power is converted to a double first,
-- which has no value from 2**1024 on. Below that the product of a whole number
-- of seconds with a power of two is exact, or infinite and then above any bound.
def doubled (seconds : Int) (exponent : Nat) : Option Int :=
  if exponent < 1024 then some (seconds * 2 ^ exponent) else none

theorem timedelta_some {duration result : Duration} :
    timedelta duration = some result ↔
      result = duration ∧ -(999999999 * day) ≤ duration ∧ duration ≤ longest := by
  unfold timedelta
  split
  · rename_i bounded
    exact ⟨fun same => ⟨(Option.some.inj same).symm,bounded⟩,fun both => by rw [both.1]⟩
  · rename_i unbounded
    exact ⟨(fun same => by cases same),fun both => absurd both.2 unbounded⟩

theorem add_some {instant result : Instant} {duration : Duration} :
    add instant duration = some result ↔ result = instant + duration ∧ Representable result := by
  unfold add
  split
  · rename_i inside
    constructor
    · intro same
      cases Option.some.inj same
      exact ⟨rfl,inside⟩
    · rintro ⟨rfl,_⟩
      rfl
  · rename_i outside
    constructor
    · intro same
      cases same
    · rintro ⟨rfl,inside⟩
      exact absurd inside outside

-- Going forward only the end of the calendar can be crossed, going back only its
-- beginning.
theorem add_exists {instant : Instant} {duration : Duration} (inside : Representable instant) (forward : 0 ≤ duration) :
    (∃ result, add instant duration = some result) ↔ instant + duration ≤ lastInstant := by
  simp only [add_some]
  constructor
  · rintro ⟨_,rfl,_,bounded⟩
    exact bounded
  · intro bounded
    obtain ⟨started,_⟩ := inside
    exact ⟨_,rfl,by unfold firstInstant at *; linarith,bounded⟩

theorem subtract_exists {instant : Instant} {duration : Duration} (inside : Representable instant)
    (back : 0 ≤ duration) :
    (∃ result, subtract instant duration = some result) ↔ duration ≤ instant := by
  unfold subtract
  simp only [add_some]
  constructor
  · rintro ⟨_,rfl,bounded,_⟩
    unfold firstInstant at bounded
    linarith
  · intro bounded
    obtain ⟨_,ended⟩ := inside
    exact ⟨_,rfl,by unfold firstInstant; linarith,by linarith⟩

theorem doubled_exists {seconds : Int} {exponent : Nat} :
    (∃ result, doubled seconds exponent = some result) ↔ exponent < 1024 := by
  unfold doubled
  split <;> simp_all

end PythonTime
