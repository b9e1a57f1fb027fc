import EngineeringPlatform.Checked
import EngineeringPlatform.Runs
-- A call that is no transaction of its own. It goes through short transactions,
-- one after another, and others commit in between: each of them meets one
-- state, may write the next one, and may raise.
namespace InterleavedCalls
open TransitionRuns
variable {σ ω ε ρ α β : Type}

-- `relies` is no part of the program: it is what the step takes for granted of the
-- state that it meets.
inductive Call (σ ε ρ : Type) where
  | done (result : ρ)
  | raised (error : ε)
  | atomic (relies : σ → Bool) (write : σ → σ) (next : σ → Call σ ε ρ)

namespace Call

def andThen : Call σ ε α → (α → Call σ ε β) → Call σ ε β
  | .done result, rest => rest result
  | .raised error, _ => .raised error
  | .atomic relies write next, rest => .atomic relies write fun s => (next s).andThen rest

instance : Monad (Call σ ε) where
  pure := .done
  bind := .andThen

-- try … except Exception
def attempt : Call σ ε ρ → Call σ ε (Except ε ρ)
  | .done result => .done (.ok result)
  | .raised error => .done (.error error)
  | .atomic relies write next => .atomic relies write fun s => (next s).attempt

def ofOutcome : Except ε ρ → Call σ ε ρ
  | .ok result => .done result
  | .error error => .raised error

end Call

def readRelying (relies : σ → Bool) (query : σ → α) : Call σ ε α := .atomic relies id fun s => .done (query s)

def read (query : σ → α) : Call σ ε α := readRelying (fun _ => true) query

def readOk (query : σ → Except ε α) : Call σ ε α := .atomic (fun _ => true) id fun s => .ofOutcome (query s)

-- A transaction that raises leaves the state as it was.
def after (change : σ → Except ε (σ × α)) (s : σ) : σ :=
  match change s with
  | .ok (next,_) => next
  | .error _ => s

def commit (change : σ → Except ε (σ × α)) : Call σ ε α :=
  .atomic (fun _ => true) (after change) fun s => .ofOutcome ((change s).map Prod.snd)

-- One execution of a call, with every state it passes through, from the one in which
-- it was invoked to the one in which it returned. When it is strict, each of its
-- steps met a state as it relies on.
inductive Executes (elsewhere : σ → ω → σ → Prop) (strict : Bool) :
    Call σ ε ρ → σ → List σ → Except ε ρ → σ → Prop where
  | done : Executes elsewhere strict (.done result) s [s] (.ok result) s
  | raised : Executes elsewhere strict (.raised error) s [s] (.error error) s
  | atomic : (strict = true → relies s = true) →
      Executes elsewhere strict (next s) (write s) instants outcome last →
      Executes elsewhere strict (.atomic relies write next) s (s :: instants) outcome last
  | elsewhere : elsewhere s label middle → Executes elsewhere strict call middle instants outcome last →
      Executes elsewhere strict call s (s :: instants) outcome last

-- What a call can rely on between two of its steps.
structure Rules (σ : Type) where
  valid : σ → Prop
  later : σ → σ → Prop
  refl : ∀ s, later s s
  trans : ∀ one two three, later one two → later two three → later one three

def Rules.Follows (rules : Rules σ) (elsewhere : σ → ω → σ → Prop) : Prop :=
  ∀ s label next, rules.valid s → elsewhere s label next → rules.valid next ∧ rules.later s next

-- Whatever commits in between, the call returns as `post` says of the outcome and of
-- the state it returns in. `seen` holds of the instants of the execution.
def Ensures (rules : Rules σ) (strict : Bool) (seen : σ → Prop) :
    Call σ ε ρ → σ → (Except ε ρ → σ → Prop) → Prop
  | .done result, s, post => ∀ t, rules.valid t → rules.later s t → seen t → post (.ok result) t
  | .raised error, s, post => ∀ t, rules.valid t → rules.later s t → seen t → post (.error error) t
  | .atomic relies write next, s, post => ∀ t, rules.valid t → rules.later s t → seen t →
      (strict = true → relies t = true) →
      rules.valid (write t) ∧ rules.later t (write t) ∧ Ensures rules strict seen (next t) (write t) post

variable {first : Call σ ε α} {rest : α → Call σ ε ρ} {query : σ → α} {outcome : Except ε ρ} {instants : List σ}
  {last : σ} {result : ρ}

section Ensured
variable {rules : Rules σ} {strict : Bool} {seen : σ → Prop} {call : Call σ ε ρ} {post : Except ε ρ → σ → Prop} {s t : σ}

theorem Ensures.later (ensured : Ensures rules strict seen call s post) (moved : rules.later s t) :
    Ensures rules strict seen call t post := by
  cases call with
  | done result => exact fun u valid later => ensured u valid (rules.trans _ _ _ moved later)
  | raised error => exact fun u valid later => ensured u valid (rules.trans _ _ _ moved later)
  | atomic relies write next => exact fun u valid later => ensured u valid (rules.trans _ _ _ moved later)

-- It is enough to look at the call from its next step on.
theorem ensures_settle
    (ensured : ∀ t, rules.valid t → rules.later s t → seen t → Ensures rules strict seen call t post) :
    Ensures rules strict seen call s post := by
  cases call with
  | done result => exact fun t valid later there => ensured t valid later there t valid (rules.refl t) there
  | raised error => exact fun t valid later there => ensured t valid later there t valid (rules.refl t) there
  | atomic relies write next =>
    exact fun t valid later there relied => ensured t valid later there t valid (rules.refl t) there relied

theorem Ensures.weaken {weaker : Except ε ρ → σ → Prop} (ensured : Ensures rules strict seen call s post)
    (implies : ∀ outcome t, rules.valid t → rules.later s t → seen t → post outcome t → weaker outcome t) :
    Ensures rules strict seen call s weaker := by
  induction call generalizing s with
  | done result => exact fun t valid later there => implies _ t valid later there (ensured t valid later there)
  | raised error => exact fun t valid later there => implies _ t valid later there (ensured t valid later there)
  | atomic relies write next ih =>
    intro t valid later there relied
    obtain ⟨stored,moved,rest⟩ := ensured t valid later there relied
    refine ⟨stored,moved,ih t rest fun outcome u valid after => ?_⟩
    exact implies outcome u valid (rules.trans _ _ _ later (rules.trans _ _ _ moved after))

-- What the rest of a call has to ensure after an outcome of its first part.
def Continues (rules : Rules σ) (strict : Bool) (seen : σ → Prop) (rest : α → Call σ ε ρ)
    (post : Except ε ρ → σ → Prop) : Except ε α → σ → Prop
  | .ok found, s => Ensures rules strict seen (rest found) s post
  | .error error, s => post (.error error) s

theorem Ensures.bind (ensured : Ensures rules strict seen first s (Continues rules strict seen rest post)) :
    Ensures rules strict seen (first >>= rest) s post := by
  induction first generalizing s with
  | done result => exact ensures_settle ensured
  | raised error => exact ensured
  | atomic relies write next ih =>
    intro t valid later there relied
    obtain ⟨stored,moved,rest⟩ := ensured t valid later there relied
    exact ⟨stored,moved,ih t rest⟩

theorem Ensures.attempt {post : Except ε (Except ε ρ) → σ → Prop}
    (ensured : Ensures rules strict seen call s fun outcome => post (.ok outcome)) :
    Ensures rules strict seen call.attempt s post := by
  induction call generalizing s with
  | done result => exact ensured
  | raised error => exact ensured
  | atomic relies write next ih =>
    intro t valid later there relied
    obtain ⟨stored,moved,rest⟩ := ensured t valid later there relied
    exact ⟨stored,moved,ih t rest⟩

theorem ensures_readRelying {relies : σ → Bool}
    (ensured : ∀ t, rules.valid t → rules.later s t → seen t → (strict = true → relies t = true) →
      Ensures rules strict seen (rest (query t)) t post) :
    Ensures rules strict seen (readRelying relies query >>= rest) s post :=
  fun t valid later there relied => ⟨valid,rules.refl t,ensured t valid later there relied⟩

theorem ensures_read
    (ensured : ∀ t, rules.valid t → rules.later s t → seen t → Ensures rules strict seen (rest (query t)) t post) :
    Ensures rules strict seen (read query >>= rest) s post :=
  ensures_readRelying fun t valid later there _ => ensured t valid later there

theorem ensures_ofOutcome {outcome : Except ε α}
    (found : ∀ result, outcome = .ok result → Ensures rules strict seen (rest result) s post)
    (failed : ∀ error t, rules.valid t → rules.later s t → seen t → post (.error error) t) :
    Ensures rules strict seen (Call.ofOutcome outcome >>= rest) s post := by
  cases outcome with
  | ok result => exact found result rfl
  | error error => exact failed error

theorem ensures_readOk {query : σ → Except ε α}
    (found : ∀ t result, rules.valid t → rules.later s t → seen t → query t = .ok result →
      Ensures rules strict seen (rest result) t post)
    (failed : ∀ error t, rules.valid t → rules.later s t → seen t → post (.error error) t) :
    Ensures rules strict seen (readOk query >>= rest) s post := by
  intro t valid later there _
  refine ⟨valid,rules.refl t,ensures_ofOutcome (fun result ran => found t result valid later there ran) ?_⟩
  exact fun error u holds moved => failed error u holds (rules.trans _ _ _ later moved)

-- A call ensures what it says in every execution.
theorem Executes.ensured {elsewhere : σ → ω → σ → Prop}
    (executed : Executes elsewhere strict call s instants outcome last) (follows : rules.Follows elsewhere)
    (valid : rules.valid s) (there : ∀ t ∈ instants, seen t) (ensured : Ensures rules strict seen call s post) :
    rules.valid last ∧ rules.later s last ∧ post outcome last := by
  induction executed with
  | done => exact ⟨valid,rules.refl _,ensured _ valid (rules.refl _) (there _ List.mem_cons_self)⟩
  | raised => exact ⟨valid,rules.refl _,ensured _ valid (rules.refl _) (there _ List.mem_cons_self)⟩
  | atomic relied _ ih =>
    obtain ⟨here,others⟩ := List.forall_mem_cons.mp there
    obtain ⟨stored,moved,rest⟩ := ensured _ valid (rules.refl _) here relied
    obtain ⟨holds,later,post⟩ := ih stored others rest
    exact ⟨holds,rules.trans _ _ _ moved later,post⟩
  | elsewhere taken _ ih =>
    obtain ⟨_,others⟩ := List.forall_mem_cons.mp there
    obtain ⟨stored,moved⟩ := follows _ _ _ valid taken
    obtain ⟨holds,later,post⟩ := ih stored others (ensured.later moved)
    exact ⟨holds,rules.trans _ _ _ moved later,post⟩

end Ensured

-- The same of those executions in which the call raises nothing.
def Yields (rules : Rules σ) (strict : Bool) (seen : σ → Prop) (call : Call σ ε ρ) (s : σ) (post : ρ → σ → Prop) : Prop :=
  Ensures rules strict seen call s fun outcome t => ∀ result, outcome = .ok result → post result t

section Yielded
variable {rules : Rules σ} {strict : Bool} {seen : σ → Prop} {call : Call σ ε ρ} {post : ρ → σ → Prop} {s : σ}

theorem raised_yields {error : ε} {t : σ} : ∀ result, (.error error : Except ε ρ) = .ok result → post result t :=
  fun _ absurd => by cases absurd

theorem Yields.weaken {weaker : ρ → σ → Prop} (yielded : Yields rules strict seen call s post)
    (implies : ∀ result t, rules.valid t → rules.later s t → seen t → post result t → weaker result t) :
    Yields rules strict seen call s weaker :=
  Ensures.weaken yielded fun _ t valid later there post result same => implies result t valid later there (post result same)

theorem Yields.bind
    (yielded : Yields rules strict seen first s fun found t => Yields rules strict seen (rest found) t post) :
    Yields rules strict seen (first >>= rest) s post := by
  refine Ensures.bind (Ensures.weaken yielded fun outcome t valid later there found => ?_)
  cases outcome with
  | ok result => exact found result rfl
  | error error => exact raised_yields

theorem yields_pure (returned : ∀ t, rules.valid t → rules.later s t → seen t → post result t) :
    Yields rules strict seen (pure result : Call σ ε ρ) s post := by
  intro t valid later there other same
  cases same
  exact returned t valid later there

theorem yields_readRelying {relies : σ → Bool}
    (yielded : ∀ t, rules.valid t → rules.later s t → seen t → (strict = true → relies t = true) →
      Yields rules strict seen (rest (query t)) t post) :
    Yields rules strict seen (readRelying relies query >>= rest) s post :=
  ensures_readRelying yielded

theorem yields_read
    (yielded : ∀ t, rules.valid t → rules.later s t → seen t → Yields rules strict seen (rest (query t)) t post) :
    Yields rules strict seen (read query >>= rest) s post :=
  ensures_read yielded

theorem yields_readOk {query : σ → Except ε α}
    (yielded : ∀ t result, rules.valid t → rules.later s t → seen t → query t = .ok result →
      Yields rules strict seen (rest result) t post) :
    Yields rules strict seen (readOk query >>= rest) s post :=
  ensures_readOk yielded fun _ _ _ _ _ => raised_yields

theorem yields_ofOutcome
    (returned : ∀ result, outcome = .ok result → ∀ t, rules.valid t → rules.later s t → seen t → post result t) :
    Yields rules strict seen (.ofOutcome outcome) s post := by
  cases outcome with
  | ok result => exact yields_pure (returned result rfl)
  | error error => exact fun t valid later there => raised_yields

theorem Yields.attempt {rest : Except ε α → Call σ ε ρ}
    (found : Yields rules strict seen first s fun result t => Yields rules strict seen (rest (.ok result)) t post)
    (failed : ∀ error t, rules.valid t → rules.later s t → seen t → Yields rules strict seen (rest (.error error)) t post) :
    Yields rules strict seen (first.attempt >>= rest) s post := by
  refine Ensures.bind (Ensures.attempt (Ensures.weaken found fun outcome t valid later there yielded => ?_))
  cases outcome with
  | ok result => exact yielded result rfl
  | error error => exact failed error t valid later there

theorem Executes.yielded {elsewhere : σ → ω → σ → Prop}
    (executed : Executes elsewhere strict call s instants (.ok result) last) (follows : rules.Follows elsewhere)
    (valid : rules.valid s) (there : ∀ t ∈ instants, seen t) (yielded : Yields rules strict seen call s post) :
    rules.valid last ∧ rules.later s last ∧ post result last := by
  obtain ⟨stored,moved,post⟩ := executed.ensured follows valid there yielded
  exact ⟨stored,moved,post result rfl⟩

end Yielded

-- A call whose own writes only move on, whatever it returns.
def Call.Keeps (rules : Rules σ) : Call σ ε ρ → Prop
  | .done _ => True
  | .raised _ => True
  | .atomic _ write next => (∀ t, rules.valid t → rules.valid (write t) ∧ rules.later t (write t)) ∧ ∀ t, (next t).Keeps rules

section Kept
variable {rules : Rules σ} {strict : Bool} {seen : σ → Prop} {call : Call σ ε ρ} {s : σ}

theorem Call.Keeps.bind (kept : first.Keeps rules)
    (others : ∀ found, (rest found).Keeps rules) : (first >>= rest).Keeps rules := by
  induction first with
  | done result => exact others result
  | raised error => trivial
  | atomic relies write next ih => exact ⟨kept.1,fun t => ih t (kept.2 t)⟩

theorem Call.Keeps.attempt (kept : call.Keeps rules) : call.attempt.Keeps rules := by
  induction call with
  | done result => trivial
  | raised error => trivial
  | atomic relies write next ih => exact ⟨kept.1,fun t => ih t (kept.2 t)⟩

theorem keeps_pure : (pure result : Call σ ε ρ).Keeps rules := trivial

theorem keeps_read {query : σ → ρ} : (read query : Call σ ε ρ).Keeps rules :=
  ⟨fun t valid => ⟨valid,rules.refl t⟩,fun _ => trivial⟩

theorem keeps_ofOutcome : (Call.ofOutcome outcome).Keeps rules := by
  cases outcome <;> trivial

theorem keeps_commit {change : σ → Except ε (σ × ρ)}
    (moved : ∀ t next result, rules.valid t → change t = .ok (next,result) → rules.valid next ∧ rules.later t next) :
    (commit change).Keeps rules := by
  refine ⟨fun t valid => ?_,fun t => keeps_ofOutcome⟩
  unfold after
  cases ran : change t with
  | ok done => exact moved t done.1 done.2 valid ran
  | error error => exact ⟨valid,rules.refl t⟩

theorem Call.Keeps.yields (kept : call.Keeps rules) : Yields rules strict seen call s fun _ t => rules.later s t := by
  induction call generalizing s with
  | done result => exact fun t _ later _ _ _ => later
  | raised error => exact fun t _ later _ => raised_yields
  | atomic relies write next ih =>
    intro t valid later _ _
    obtain ⟨stored,moved⟩ := kept.1 t valid
    refine ⟨stored,moved,Yields.weaken (ih t (kept.2 t)) fun _ u _ _ _ after => ?_⟩
    exact rules.trans _ _ _ later (rules.trans _ _ _ moved after)

end Kept

-- A schedule says who moves next: the call itself, or something else by a label.
def perform (advance : σ → ω → Option σ) (strict : Bool) :
    List (Option ω) → Call σ ε ρ → σ → Option (Except ε ρ × List σ × σ)
  | [], .done result, s => some (.ok result,[s],s)
  | [], .raised error, s => some (.error error,[s],s)
  | none :: schedule, .atomic relies write next, s =>
    if strict && !relies s then none
    else (perform advance strict schedule (next s) (write s)).map fun (outcome,instants,last) => (outcome,s :: instants,last)
  | some label :: schedule, call, s => (advance s label).bind fun middle =>
    (perform advance strict schedule call middle).map fun (outcome,instants,last) => (outcome,s :: instants,last)
  | _, _, _ => none

theorem perform_executes {advance : σ → ω → Option σ} {strict : Bool} {schedule : List (Option ω)} {call : Call σ ε ρ}
    {s : σ}
    (performed : perform advance strict schedule call s = some (outcome,instants,last)) :
    Executes (Enabled advance) strict call s instants outcome last := by
  induction schedule generalizing call s instants with
  | nil =>
    cases call with
    | done result =>
      cases Option.some.inj performed
      exact .done
    | raised error =>
      cases Option.some.inj performed
      exact .raised
    | atomic relies write next => cases performed
  | cons turn schedule ih =>
    cases turn with
    | some label =>
      have turned : ((advance s label).bind fun middle => (perform advance strict schedule call middle).map
          fun (outcome,instants,last) => (outcome,s :: instants,last)) = some (outcome,instants,last) := by
        cases call <;> exact performed
      obtain ⟨middle,taken,rest⟩ := Option.bind_eq_some_iff.mp turned
      obtain ⟨_,ran,same⟩ := Option.map_eq_some_iff.mp rest
      cases same
      exact .elsewhere taken (ih ran)
    | none =>
      cases call with
      | done result => cases performed
      | raised error => cases performed
      | atomic relies write next =>
        unfold perform at performed
        split at performed
        · cases performed
        · rename_i relied
          obtain ⟨_,ran,same⟩ := Option.map_eq_some_iff.mp performed
          cases same
          exact .atomic (fun strictly => by simpa [strictly] using relied) (ih ran)

theorem perform_get {advance : σ → ω → Option σ} {strict : Bool} {schedule : List (Option ω)} {call : Call σ ε ρ} {s : σ}
    (done : (perform advance strict schedule call s).isSome) :
    Executes (Enabled advance) strict call s ((perform advance strict schedule call s).get done).2.1
      ((perform advance strict schedule call s).get done).1 ((perform advance strict schedule call s).get done).2.2 :=
  perform_executes (Option.some_get done).symm

end InterleavedCalls
