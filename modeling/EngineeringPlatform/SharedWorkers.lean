import EngineeringPlatform.Runs
import Mathlib.Data.List.Induction
-- Any number of workers over one shared store. A worker keeps its own memory
-- between transactions; others commit in between, and a crash loses the memory
-- and nothing else.
namespace SharedWorkers
open TransitionRuns
universe u v w x
variable {σ : Type u} {ω : Type v} {δ : Type w} {ε : Type x}

structure Program (σ : Type u) (ω : Type v) (δ : Type w) (ε : Type x) where
  idle : ω
  transact : σ → δ → Option σ
  act : σ → ω → ε → Option (σ × ω)

structure System (σ : Type u) (ω : Type v) where
  store : σ
  workers : Nat → ω

inductive Label (δ : Type w) (ε : Type x) where
  | transact (transaction : δ)
  | act (worker : Nat) (event : ε)
  | crash (worker : Nat)

def System.set (s : System σ ω) (worker : Nat) (memory : ω) : System σ ω :=
  ⟨s.store,fun other => if other = worker then memory else s.workers other⟩

@[simp] theorem System.set_store (s : System σ ω) : (s.set worker memory).store = s.store := rfl

variable {s next : System σ ω}

theorem System.set_workers {holds : ω → Prop} (new : holds memory)
    (others : ∀ other, holds (s.workers other)) (other : Nat) :
    holds ((s.set worker memory).workers other) := by
  unfold System.set
  dsimp only
  split
  · exact new
  · exact others other

namespace Program
variable (p : Program σ ω δ ε)

def initial (store : σ) : System σ ω := ⟨store,fun _ => p.idle⟩

def advance (s : System σ ω) : Label δ ε → Option (System σ ω)
  | .transact transaction => (p.transact s.store transaction).map fun store => ⟨store,s.workers⟩
  | .act worker event =>
    (p.act s.store (s.workers worker) event).map fun (store,memory) =>
      System.set ⟨store,s.workers⟩ worker memory
  | .crash worker => some (s.set worker p.idle)

-- The same program with only those steps that a condition on the state before
-- them permits.
def restrict (permits : σ → δ → Prop) (allows : σ → ω → ε → Prop)
    [∀ s transaction, Decidable (permits s transaction)]
    [∀ s memory event, Decidable (allows s memory event)] : Program σ ω δ ε where
  idle := p.idle
  transact s transaction := if permits s transaction then p.transact s transaction else none
  act s memory event := if allows s memory event then p.act s memory event else none

def Permitted (permits : σ → δ → Prop) (allows : σ → ω → ε → Prop) (s : System σ ω) : Label δ ε → Prop
  | .transact transaction => permits s.store transaction
  | .act worker event => allows s.store (s.workers worker) event
  | .crash _ => True

variable {permits : σ → δ → Prop} {allows : σ → ω → ε → Prop}
  [∀ s transaction, Decidable (permits s transaction)] [∀ s memory event, Decidable (allows s memory event)]

theorem restrict_transact {s next : σ} {transaction : δ}
    (taken : (p.restrict permits allows).transact s transaction = some next) :
    permits s transaction ∧ p.transact s transaction = some next := by
  unfold restrict at taken
  dsimp only at taken
  split at taken
  · rename_i permitted
    exact ⟨permitted,taken⟩
  · cases taken

theorem restrict_act {s : σ} {memory : ω} {event : ε} {result : σ × ω}
    (taken : (p.restrict permits allows).act s memory event = some result) :
    allows s memory event ∧ p.act s memory event = some result := by
  unfold restrict at taken
  dsimp only at taken
  split at taken
  · rename_i allowed
    exact ⟨allowed,taken⟩
  · cases taken

theorem restrict_advance {label : Label δ ε} (permitted : Permitted permits allows s label)
    (taken : p.advance s label = some next) : (p.restrict permits allows).advance s label = some next := by
  cases label with
  | transact transaction =>
    have here : permits s.store transaction := permitted
    simpa [advance,restrict,here] using taken
  | act worker event =>
    have here : allows s.store (s.workers worker) event := permitted
    simpa [advance,restrict,here] using taken
  | crash => exact taken

theorem restrict_permitted {label : Label δ ε}
    (taken : (p.restrict permits allows).advance s label = some next) :
    Permitted permits allows s label ∧ p.advance s label = some next := by
  cases label with
  | transact transaction =>
    obtain ⟨store,moved,same⟩ := Option.map_eq_some_iff.mp taken
    obtain ⟨permitted,moved⟩ := p.restrict_transact moved
    exact ⟨permitted,Option.map_eq_some_iff.mpr ⟨store,moved,same⟩⟩
  | act worker event =>
    obtain ⟨result,moved,same⟩ := Option.map_eq_some_iff.mp taken
    obtain ⟨allowed,moved⟩ := p.restrict_act moved
    exact ⟨allowed,Option.map_eq_some_iff.mpr ⟨result,moved,same⟩⟩
  | crash => exact ⟨trivial,taken⟩

end Program

-- A contract for all workers at once: every step keeps the store valid, moves it
-- as `rely` says, and leaves what every other worker knows true. Two workers
-- stay `apart`, for what one of them must never share with another.
structure Contract (p : Program σ ω δ ε) where
  valid : σ → Prop
  holds : σ → ω → Prop
  apart : ω → ω → Prop
  rely : σ → σ → Prop
  symmetric : ∀ one two, apart one two → apart two one
  idle : ∀ s, valid s → holds s p.idle
  idle_apart : ∀ memory, apart p.idle memory
  transacted : ∀ s transaction next, valid s → p.transact s transaction = some next →
    valid next ∧ rely s next ∧ ∀ memory, holds s memory → holds next memory
  acted : ∀ s memory event next memory', valid s → holds s memory →
    p.act s memory event = some (next,memory') →
    valid next ∧ rely s next ∧ holds next memory' ∧
      ∀ other, holds s other → apart memory other → holds next other ∧ apart memory' other

namespace Contract
variable {p : Program σ ω δ ε} (contract : Contract p)

structure Valid (s : System σ ω) : Prop where
  store : contract.valid s.store
  holds : ∀ worker, contract.holds s.store (s.workers worker)
  apart : ∀ one two, one ≠ two → contract.apart (s.workers one) (s.workers two)

theorem initial_valid (valid : contract.valid store) : contract.Valid (p.initial store) :=
  ⟨valid,fun _ => contract.idle store valid,fun _ _ _ => contract.idle_apart _⟩

theorem apart_set (new : ∀ other, other ≠ worker → contract.apart memory (s.workers other))
    (apart : ∀ one two, one ≠ two → contract.apart (s.workers one) (s.workers two)) (one two : Nat)
    (differs : one ≠ two) :
    contract.apart ((s.set worker memory).workers one) ((s.set worker memory).workers two) := by
  unfold System.set
  dsimp only
  split
  · rename_i here
    rw [if_neg fun there => differs (here.trans there.symm)]
    exact new two fun there => differs (here.trans there.symm)
  · split
    · exact contract.symmetric _ _ (new one (by assumption))
    · exact apart one two differs

theorem step (valid : contract.Valid s) (taken : p.advance s label = some next) :
    contract.Valid next ∧ (next.store = s.store ∨ contract.rely s.store next.store) := by
  cases label with
  | transact transaction =>
    obtain ⟨store,committed,rfl⟩ := Option.map_eq_some_iff.mp taken
    obtain ⟨validNext,moved,kept⟩ := contract.transacted _ _ _ valid.store committed
    exact ⟨⟨validNext,fun worker => kept _ (valid.holds worker),valid.apart⟩,.inr moved⟩
  | act worker event =>
    obtain ⟨⟨store,memory⟩,acted,rfl⟩ := Option.map_eq_some_iff.mp taken
    obtain ⟨validNext,moved,held,others⟩ :=
      contract.acted _ _ _ _ _ valid.store (valid.holds worker) acted
    have elsewhere (other : Nat) (differs : other ≠ worker) :=
      others _ (valid.holds other) (valid.apart worker other differs.symm)
    refine ⟨⟨validNext,?_,?_⟩,.inr moved⟩
    · intro other
      change contract.holds store (if other = worker then memory else s.workers other)
      split
      · exact held
      · exact (elsewhere other (by assumption)).1
    · exact contract.apart_set (s := ⟨store,s.workers⟩) (fun other differs => (elsewhere other differs).2)
        valid.apart
  | crash worker =>
    cases Option.some.inj taken
    refine ⟨⟨valid.store,?_,?_⟩,.inl rfl⟩
    · exact System.set_workers (contract.idle _ valid.store) valid.holds
    · exact contract.apart_set (fun _ _ => contract.idle_apart _) valid.apart

theorem preserved : Preserves (Enabled p.advance) contract.Valid :=
  fun _ _ _ valid taken => (contract.step valid taken).1

theorem runs_valid (path : Runs (Enabled p.advance) s labels next)
    (valid : contract.Valid s) : contract.Valid next :=
  path.invariant contract.preserved valid

def Moves (s next : System σ ω) : Prop := contract.rely s.store next.store

-- What every worker relies on holds between any two moments of a run.
theorem runs_rely (refl : ∀ store, contract.rely store store)
    (trans : ∀ a b c, contract.rely a b → contract.rely b c → contract.rely a c)
    (path : Runs (Enabled p.advance) s labels next) (valid : contract.Valid s) :
    contract.Moves s next := by
  have moves (s : System σ ω) (label : Label δ ε) (next : System σ ω) (valid : contract.Valid s)
      (taken : Enabled p.advance s label next) : contract.Moves s next := by
    unfold Moves
    rcases (contract.step valid taken).2 with same | moved
    · rw [same]
      exact refl _
    · exact moved
  exact path.relation contract.preserved (fun _ => refl _) (fun _ _ _ => trans _ _ _) moves valid

end Contract
end SharedWorkers
