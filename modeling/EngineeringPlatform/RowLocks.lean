import EngineeringPlatform.Runs
import EngineeringPlatform.Checked
import Mathlib.Logic.Function.Basic
-- Concurrent transactions over one committed state. A transaction takes locks one
-- after another, waiting for each, and in between looks at what it has not
-- locked. Its body runs when it commits: what it reads there is under its locks,
-- and its writes become visible as its locks are released.
namespace RowLocks
open TransitionRuns
variable {σ κ δ ρ ε ω : Type}

inductive Transaction (σ κ α : Type) where
  | finish (value : α)
  | lock (key : κ) (next : Transaction σ κ α)
  | look (next : σ → Transaction σ κ α)

namespace Transaction
variable {α β : Type}

def andThen : Transaction σ κ α → (α → Transaction σ κ β) → Transaction σ κ β
  | .finish value, rest => rest value
  | .lock key next, rest => .lock key (next.andThen rest)
  | .look next, rest => .look fun s => (next s).andThen rest

instance : Monad (Transaction σ κ) where
  pure := .finish
  bind := .andThen

end Transaction

def acquire (key : κ) : Transaction σ κ Unit := .lock key (.finish ())

def see {α : Type} (read : σ → α) : Transaction σ κ α := .look fun s => .finish (read s)

-- A body raises or yields the state to commit with a result.
abbrev Body (σ ε ρ : Type) := σ → Except ε (σ × ρ)

structure Program (σ κ δ ρ ε ω : Type) where
  transaction : δ → Transaction σ κ (Body σ ε ρ)
  elsewhere : σ → ω → Option σ

structure Flight (σ κ δ ρ ε : Type) where
  request : δ
  rest : Transaction σ κ (Body σ ε ρ)

structure System (σ κ δ ρ ε : Type) where
  store : σ
  holder : κ → Option Nat
  flights : Nat → Option (Flight σ κ δ ρ ε)

inductive Label (δ ω : Type) where
  | begin (slot : Nat) (request : δ)
  | advance (slot : Nat)
  | abort (slot : Nat)
  | elsewhere (event : ω)

def System.initial (store : σ) : System σ κ δ ρ ε := ⟨store,fun _ => none,fun _ => none⟩

def System.set (s : System σ κ δ ρ ε) (slot : Nat) (flight : Option (Flight σ κ δ ρ ε)) : System σ κ δ ρ ε :=
  {s with flights := Function.update s.flights slot flight}

-- The end of a transaction, committed or rolled back: its locks go with it.
def System.leave (s : System σ κ δ ρ ε) (slot : Nat) : System σ κ δ ρ ε :=
  {s with
    holder := fun key => if s.holder key = some slot then none else s.holder key,
    flights := Function.update s.flights slot none}

def System.commit (s : System σ κ δ ρ ε) (slot : Nat) (store : σ) : System σ κ δ ρ ε :=
  {s.leave slot with store}

def System.progress [DecidableEq κ] (s : System σ κ δ ρ ε) (slot : Nat) (request : δ) :
    Transaction σ κ (Body σ ε ρ) → Option (System σ κ δ ρ ε)
  | .finish body =>
    match body s.store with
    | .ok (store,_) => some (s.commit slot store)
    | .error _ => some (s.leave slot)
  | .lock key next =>
    if s.holder key = none ∨ s.holder key = some slot then
      some {s.set slot (some ⟨request,next⟩) with holder := Function.update s.holder key (some slot)}
    else none
  | .look next => some (s.set slot (some ⟨request,next s.store⟩))

def Program.step [DecidableEq κ] (p : Program σ κ δ ρ ε ω) (s : System σ κ δ ρ ε) : Label δ ω → Option (System σ κ δ ρ ε)
  | .begin slot request =>
    match s.flights slot with
    | none => some (s.set slot (some ⟨request,p.transaction request⟩))
    | some _ => none
  | .advance slot => (s.flights slot).bind fun flight => s.progress slot flight.request flight.rest
  | .abort slot => some (s.leave slot)
  | .elsewhere event => (p.elsewhere s.store event).map fun store => {s with store}

-- What the transaction in `slot` commits when it is the next to move.
def Committing (s : System σ κ δ ρ ε) (slot : Nat) (request : δ) (store : σ) (result : ρ) : Prop :=
  ∃ body, s.flights slot = some ⟨request,.finish body⟩ ∧ body s.store = .ok (store,result)

-- The request, the new state and the result of a step that commits.
def Flight.commits (flight : Flight σ κ δ ρ ε) (s : σ) : Option (δ × σ × ρ) :=
  match flight.rest with
  | .finish body => (body s).toOption.map fun done => (flight.request,done.1,done.2)
  | _ => none

def System.commits (s : System σ κ δ ρ ε) : Label δ ω → Option (δ × σ × ρ)
  | .advance slot => (s.flights slot).bind fun flight => flight.commits s.store
  | _ => none

variable {s next : System σ κ δ ρ ε} {label : Label δ ω} {request : δ}

theorem commits_some :
    s.commits label = some (request,store,result) ↔
      ∃ slot, label = .advance slot ∧ Committing s slot request store result := by
  constructor
  · intro commits
    cases label with
    | advance slot =>
      obtain ⟨⟨request,rest⟩,found,commits⟩ := Option.bind_eq_some_iff.mp commits
      cases rest with
      | finish body =>
        obtain ⟨⟨store,result⟩,ran,same⟩ := Option.map_eq_some_iff.mp commits
        cases same
        exact ⟨slot,rfl,body,found,Checked.toOption_some.mp ran⟩
      | lock key next => cases commits
      | look next => cases commits
    | begin slot request => cases commits
    | abort slot => cases commits
    | elsewhere event => cases commits
  · rintro ⟨slot,rfl,body,found,ran⟩
    have done := Checked.toOption_some.mpr ran
    simp [System.commits,found,Flight.commits,done]

-- Rules for one program: an invariant of the committed state, what the holder of
-- some locks can rely on while others commit, and what a commit does.
structure Rules (σ κ δ ρ : Type) where
  valid : σ → Prop
  rely : (κ → Prop) → σ → σ → Prop
  commits : δ → σ → σ → ρ → Prop
  refl : ∀ held s, rely held s s
  trans : ∀ held a b c, rely held a b → rely held b c → rely held a c

variable (rules : Rules σ κ δ ρ)

def Rules.Guarantees (held : κ → Prop) (s next : σ) : Prop :=
  ∀ others : κ → Prop, (∀ key, others key → ¬held key) → rules.rely others s next

-- A transaction is sound from `s` when its commit is good at every state it can
-- come to while others move as its locks let them.
def Rules.Sound (request : δ) : (κ → Prop) → σ → Transaction σ κ (Body σ ε ρ) → Prop
  | held,s,.finish body => ∀ now next result, rules.valid now → rules.rely held s now →
      body now = .ok (next,result) →
      rules.valid next ∧ rules.commits request now next result ∧ rules.Guarantees held now next
  | held,s,.lock key next => ∀ now, rules.valid now → rules.rely held s now →
      Rules.Sound request (fun other => other = key ∨ held other) now next
  | held,s,.look next => ∀ now, rules.valid now → rules.rely held s now →
      Rules.Sound request held now (next now)

theorem Rules.Sound.later {held : κ → Prop} {s now : σ} {rest : Transaction σ κ (Body σ ε ρ)}
    (sound : rules.Sound request held s rest) (moved : rules.rely held s now) :
    rules.Sound request held now rest := by
  cases rest with
  | finish body => exact fun after next result valid relied => sound after next result valid (rules.trans _ _ _ _ moved relied)
  | lock key next => exact fun after valid relied => sound after valid (rules.trans _ _ _ _ moved relied)
  | look next => exact fun after valid relied => sound after valid (rules.trans _ _ _ _ moved relied)

theorem commits_store [DecidableEq κ] {p : Program σ κ δ ρ ε ω}
    (taken : p.step s label = some next) (commits : s.commits label = some (request,store,result)) : next.store = store := by
  obtain ⟨slot,rfl,body,found,ran⟩ := commits_some.mp commits
  simp only [Program.step,found,Option.bind_some,System.progress,ran] at taken
  exact (congrArg System.store (Option.some.inj taken)).symm

-- A body that raises rolls its transaction back.
theorem advance_raises [DecidableEq κ] {p : Program σ κ δ ρ ε ω} {body : Body σ ε ρ}
    (found : s.flights slot = some ⟨request,.finish body⟩) (raised : body s.store = .error error) :
    p.step s (.advance slot) = some (s.leave slot) := by
  simp [Program.step,found,System.progress,raised]

-- What is left to prove after each move of a transaction.
theorem Rules.sound_acquire {holds : κ → Prop} {s : σ} {key : κ} {rest : Unit → Transaction σ κ (Body σ ε ρ)}
    (sound : ∀ now, rules.valid now → rules.rely holds s now →
      rules.Sound request (fun other => other = key ∨ holds other) now (rest ())) :
    rules.Sound request holds s (acquire key >>= rest) := sound

theorem Rules.sound_see {α : Type} {holds : κ → Prop} {s : σ} {read : σ → α}
    {rest : α → Transaction σ κ (Body σ ε ρ)}
    (sound : ∀ now, rules.valid now → rules.rely holds s now → rules.Sound request holds now (rest (read now))) :
    rules.Sound request holds s (see read >>= rest) := sound

structure Rules.Follows (p : Program σ κ δ ρ ε ω) : Prop where
  transaction : ∀ request s, rules.valid s → rules.Sound request (fun _ => False) s (p.transaction request)
  elsewhere : ∀ s event next, rules.valid s → p.elsewhere s event = some next →
    rules.valid next ∧ rules.Guarantees (fun _ => False) s next

def held (s : System σ κ δ ρ ε) (slot : Nat) (key : κ) : Prop := s.holder key = some slot

structure Rules.Valid (s : System σ κ δ ρ ε) : Prop where
  store : rules.valid s.store
  sound : ∀ slot flight, s.flights slot = some flight →
    rules.Sound flight.request (held s slot) s.store flight.rest
  locks : ∀ slot key, s.holder key = some slot → (s.flights slot).isSome

theorem Rules.initial_valid {store : σ} (valid : rules.valid store) :
    rules.Valid (.initial store : System σ κ δ ρ ε) :=
  ⟨valid,(fun _ _ found => by cases found),fun _ _ found => by cases found⟩

variable {p : Program σ κ δ ρ ε ω}

-- The flights that a transaction leaves behind, and the locks they hold.
theorem Rules.leave_valid {next : σ} (valid : rules.Valid s) (stored : rules.valid next)
    (guaranteed : rules.Guarantees (held s slot) s.store next) : rules.Valid (s.commit slot next) := by
  have others (other : Nat) (differs : other ≠ slot) : held (s.commit slot next) other = held s other := by
    funext key
    simp only [held,System.commit,System.leave]
    split
    · rename_i mine
      simp [mine,differs.symm]
    · rfl
  refine ⟨stored,?_,?_⟩
  · intro other flight found
    by_cases same : other = slot
    · subst same
      simp [System.commit,System.leave] at found
    · rw [others other same]
      refine Sound.later rules (valid.sound other flight ?_) (guaranteed _ fun key mine yours => ?_)
      · simpa [System.commit,System.leave,same] using found
      · exact same (Option.some.inj (mine.symm.trans yours))
  · intro other key taken
    by_cases same : other = slot
    · subst same
      simp only [System.commit,System.leave] at taken
      split at taken
      · cases taken
      · contradiction
    · have still : held s other key := by rwa [←others other same]
      simpa [System.commit,System.leave,same] using valid.locks other key still

theorem Rules.set_valid {flight : Flight σ κ δ ρ ε} (valid : rules.Valid s)
    (sound : rules.Sound flight.request (held s slot) s.store flight.rest) :
    rules.Valid (s.set slot (some flight)) := by
  refine ⟨valid.store,?_,?_⟩
  · intro other found there
    by_cases same : other = slot
    · subst same
      simp only [System.set,Function.update_self,Option.some.injEq] at there
      exact there ▸ sound
    · simp only [System.set,Function.update_of_ne same] at there
      exact valid.sound other found there
  · intro other key taken
    by_cases same : other = slot
    · subst same
      simp [System.set]
    · simpa [System.set,Function.update_of_ne same] using valid.locks other key taken

-- Taking a free lock takes it from nobody.
theorem Rules.lock_valid [DecidableEq κ] {next : Transaction σ κ (Body σ ε ρ)}
    (valid : rules.Valid s) (free : s.holder key = none ∨ s.holder key = some slot)
    (sound : rules.Sound request (fun other => other = key ∨ held s slot other) s.store next) :
    rules.Valid {s.set slot (some ⟨request,next⟩) with holder := Function.update s.holder key (some slot)} := by
  refine ⟨valid.store,?_,?_⟩
  · intro other flight found
    by_cases same : other = slot
    · subst same
      simp only [System.set,Function.update_self,Option.some.injEq] at found
      subst found
      refine cast (congrArg (fun locks => rules.Sound request locks s.store next) ?_) sound
      funext lock
      by_cases here : lock = key
      · simp [held,here]
      · simp [held,here]
    · simp only [System.set,Function.update_of_ne same] at found
      refine cast (congrArg (fun locks => rules.Sound flight.request locks s.store flight.rest) ?_)
        (valid.sound other flight found)
      funext lock
      by_cases here : lock = key
      · subst here
        simp only [held,Function.update_self,Option.some.injEq,eq_iff_iff]
        constructor
        · intro taken
          rcases free with free | mine
          · exact absurd (taken.symm.trans free) (by simp)
          · exact absurd (Option.some.inj (taken.symm.trans mine)) same
        · exact fun mine => absurd mine.symm same
      · simp [held,here]
  · intro other lock taken
    by_cases same : other = slot
    · subst same
      simp [System.set]
    · by_cases here : lock = key
      · subst here
        simp only [Function.update_self,Option.some.injEq] at taken
        exact absurd taken.symm same
      · simp only [Function.update_of_ne here] at taken
        simpa [System.set,Function.update_of_ne same] using valid.locks other lock taken

-- The committed state changes only when a transaction commits or something else
-- moves it.
theorem step_store [DecidableEq κ] (taken : p.step s label = some next) :
    next.store = s.store ∨
      (∃ slot request result, label = .advance slot ∧ Committing s slot request next.store result) ∨
      ∃ event, label = .elsewhere event ∧ p.elsewhere s.store event = some next.store := by
  cases label with
  | begin slot request =>
    simp only [Program.step] at taken
    split at taken
    · cases Option.some.inj taken
      exact .inl rfl
    · cases taken
  | advance slot =>
    obtain ⟨⟨request,rest⟩,found,moved⟩ := Option.bind_eq_some_iff.mp taken
    cases rest with
    | finish body =>
      simp only [System.progress] at moved
      split at moved
      · rename_i store result ran
        cases Option.some.inj moved
        exact .inr (.inl ⟨slot,request,result,rfl,body,found,ran⟩)
      · cases Option.some.inj moved
        exact .inl rfl
    | lock key rest =>
      simp only [System.progress] at moved
      split at moved
      · cases Option.some.inj moved
        exact .inl rfl
      · cases moved
    | look rest =>
      cases Option.some.inj moved
      exact .inl rfl
  | abort slot =>
    cases Option.some.inj taken
    exact .inl rfl
  | elsewhere event =>
    obtain ⟨store,moved,rfl⟩ := Option.map_eq_some_iff.mp taken
    exact .inr (.inr ⟨event,rfl,moved⟩)

theorem Rules.committing (valid : rules.Valid s)
    (committing : Committing s slot request store result) :
    rules.valid store ∧ rules.commits request s.store store result ∧
      rules.Guarantees (held s slot) s.store store := by
  obtain ⟨body,found,ran⟩ := committing
  exact valid.sound slot _ found s.store store result valid.store (rules.refl _ _) ran

theorem step_commits [DecidableEq κ] (taken : p.step s label = some next) :
    next.store = s.store ∨ (∃ request result, s.commits label = some (request,next.store,result)) ∨
      ∃ event, label = .elsewhere event ∧ p.elsewhere s.store event = some next.store := by
  rcases step_store taken with same | ⟨slot,request,result,here,committing⟩ | moved
  · exact .inl same
  · exact .inr (.inl ⟨request,result,commits_some.mpr ⟨slot,here,committing⟩⟩)
  · exact .inr (.inr moved)

theorem Rules.commits_ok (valid : rules.Valid s)
    (commits : s.commits label = some (request,store,result)) :
    rules.valid store ∧ rules.commits request s.store store result := by
  obtain ⟨slot,_,committing⟩ := commits_some.mp commits
  obtain ⟨stored,committed,_⟩ := rules.committing valid committing
  exact ⟨stored,committed⟩

theorem Rules.step_valid [DecidableEq κ] (follows : rules.Follows p)
    (valid : rules.Valid s) (taken : p.step s label = some next) : rules.Valid next := by
  have unlocked (slot : Nat) (idle : s.flights slot = none) : held s slot = fun _ => False := by
    funext key
    refine eq_false fun taken => ?_
    have busy := valid.locks slot key taken
    rw [idle] at busy
    cases busy
  have left (slot : Nat) : rules.Valid (s.leave slot) :=
    rules.leave_valid valid valid.store fun _ _ => rules.refl _ _
  cases label with
  | begin slot request =>
    simp only [Program.step] at taken
    split at taken
    · rename_i idle
      cases Option.some.inj taken
      refine rules.set_valid valid ?_
      rw [unlocked slot idle]
      exact follows.transaction request s.store valid.store
    · cases taken
  | advance slot =>
    obtain ⟨⟨request,rest⟩,found,moved⟩ := Option.bind_eq_some_iff.mp taken
    have sound := valid.sound slot _ found
    cases rest with
    | finish body =>
      simp only [System.progress] at moved
      split at moved
      · rename_i store result ran
        cases Option.some.inj moved
        obtain ⟨stored,_,guaranteed⟩ := rules.committing valid ⟨body,found,ran⟩
        exact rules.leave_valid valid stored guaranteed
      · cases Option.some.inj moved
        exact left slot
    | lock key rest =>
      simp only [System.progress] at moved
      split at moved
      · rename_i free
        cases Option.some.inj moved
        exact rules.lock_valid valid free (sound s.store valid.store (rules.refl _ _))
      · cases moved
    | look rest =>
      cases Option.some.inj moved
      exact rules.set_valid valid (sound s.store valid.store (rules.refl _ _))
  | abort slot =>
    cases Option.some.inj taken
    exact left slot
  | elsewhere event =>
    obtain ⟨store,moved,rfl⟩ := Option.map_eq_some_iff.mp taken
    obtain ⟨stored,guaranteed⟩ := follows.elsewhere _ _ _ valid.store moved
    exact ⟨stored,fun slot flight found =>
      Sound.later rules (valid.sound slot flight found) (guaranteed _ fun _ _ absurd => absurd),valid.locks⟩

theorem Rules.runs_valid [DecidableEq κ] (follows : rules.Follows p)
    (path : Runs (Enabled p.step) s labels next) (valid : rules.Valid s) : rules.Valid next :=
  path.invariant (fun _ _ _ valid taken => rules.step_valid follows valid taken) valid

-- What everyone can rely on without a lock holds between any two moments of a run.
def Rules.Relied (one two : System σ κ δ ρ ε) : Prop := rules.rely (fun _ => False) one.store two.store

theorem Rules.runs_rely [DecidableEq κ] (follows : rules.Follows p)
    (path : Runs (Enabled p.step) s labels next) (valid : rules.Valid s) :
    rules.Relied s next := by
  refine path.relation (fun _ _ _ valid taken => rules.step_valid follows valid taken) (fun _ => rules.refl _ _)
    (fun _ _ _ => rules.trans _ _ _ _) ?_ valid
  intro s label next valid taken
  rcases step_store taken with same | ⟨slot,request,result,_,committing⟩ | ⟨event,_,moved⟩
  · rw [Relied,same]
    exact rules.refl _ _
  · exact (rules.committing valid committing).2.2 _ fun _ absurd => absurd.elim
  · exact (follows.elsewhere _ _ _ valid.store moved).2 _ fun _ absurd => absurd.elim

end RowLocks
