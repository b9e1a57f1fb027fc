import Mathlib.Logic.Relation
namespace TransitionRuns
universe u v w x
variable {σ : Type u} {ε : Type v} {step other : σ → ε → σ → Prop}

-- A run is a finite sequence of labelled steps, oldest label first. Nothing is
-- assumed about fairness or completion: every prefix of a run is a run.
inductive Runs (step : σ → ε → σ → Prop) : σ → List ε → σ → Prop where
  | nil : Runs step s [] s
  | cons : step s label middle → Runs step middle rest next → Runs step s (label :: rest) next

theorem Runs.append (one : Runs step s first middle) (two : Runs step middle second next) :
    Runs step s (first ++ second) next := by
  induction one with
  | nil => exact two
  | cons taken _ ih => exact .cons taken (ih two)

theorem Runs.split (path : Runs step s (first ++ second) next) :
    ∃ middle, Runs step s first middle ∧ Runs step middle second next := by
  induction first generalizing s with
  | nil => exact ⟨s,.nil,path⟩
  | cons label rest ih =>
    cases path with
    | cons taken later =>
      obtain ⟨middle,one,two⟩ := ih later
      exact ⟨middle,.cons taken one,two⟩

theorem Runs.snoc (path : Runs step s labels middle) (taken : step middle label next) :
    Runs step s (labels ++ [label]) next :=
  path.append (.cons taken .nil)

theorem Runs.passes (path : Runs step s labels next) (member : label ∈ labels) : ∃ one two, step one label two := by
  induction path with
  | nil => cases member
  | cons taken _ ih =>
    rcases List.mem_cons.mp member with rfl | later
    · exact ⟨_,_,taken⟩
    · exact ih later

theorem Runs.mono (weaker : ∀ s label next, step s label next → other s label next)
    (path : Runs step s labels next) : Runs other s labels next := by
  induction path with
  | nil => exact .nil
  | cons taken _ ih => exact .cons (weaker _ _ _ taken) ih

def Preserves (step : σ → ε → σ → Prop) (inv : σ → Prop) : Prop :=
  ∀ s label next, inv s → step s label next → inv next

variable {inv : σ → Prop} {advance : σ → ε → Option σ}

theorem Runs.invariant (keeps : Preserves step inv)
    (path : Runs step s labels next) (valid : inv s) : inv next := by
  induction path with
  | nil => exact valid
  | cons taken _ ih => exact ih (keeps _ _ _ valid taken)

-- A relation between two moments of one run: it is enough that each step from a
-- valid state establishes it, when it is reflexive and transitive.
theorem Runs.relation {rel : σ → σ → Prop} (keeps : Preserves step inv)
    (refl : ∀ s, rel s s) (trans : ∀ a b c, rel a b → rel b c → rel a c)
    (taken : ∀ s label next, inv s → step s label next → rel s next)
    (path : Runs step s labels next) (valid : inv s) : rel s next := by
  induction path with
  | nil => exact refl _
  | cons first _ ih =>
    exact trans _ _ _ (taken _ _ _ valid first) (ih (keeps _ _ _ valid first))

-- Simulation: when every step from a valid state is a step of an abstract
-- machine, seen through `view`, every run is a run of that machine.
theorem Runs.simulate {τ : Type w} {δ : Type x} {abstract : τ → δ → τ → Prop}
    (view : σ → τ) (relabel : ε → δ) (keeps : Preserves step inv)
    (matched : ∀ s label next, inv s → step s label next → abstract (view s) (relabel label) (view next))
    (path : Runs step s labels next) (valid : inv s) :
    Runs abstract (view s) (labels.map relabel) (view next) := by
  induction path with
  | nil => exact .nil
  | cons taken _ ih => exact .cons (matched _ _ _ valid taken) (ih (keeps _ _ _ valid taken))

-- The same steps, restricted to those taken where a side condition holds.
def Guarded (guard : σ → ε → Prop) (step : σ → ε → σ → Prop) : σ → ε → σ → Prop :=
  fun s label next => guard s label ∧ step s label next

theorem Runs.unguarded {guard : σ → ε → Prop} (path : Runs (Guarded guard step) s labels next) :
    Runs step s labels next :=
  path.mono fun _ _ _ taken => taken.2

-- A run is guarded when every step of it is, once the steps before it are.
theorem Runs.guarded {guard : σ → ε → Prop} (path : Runs step s labels next)
    (each : ∀ before label after middle last, labels = before ++ label :: after →
      Runs (Guarded guard step) s before middle → step middle label last → guard middle label) :
    Runs (Guarded guard step) s labels next := by
  induction path with
  | nil => exact .nil
  | cons taken _ ih =>
    have first := each [] _ _ _ _ rfl .nil taken
    refine .cons ⟨first,taken⟩ (ih fun before label after middle last same earlier later => ?_)
    exact each (_ :: before) label after middle last (congrArg _ same) (.cons ⟨first,taken⟩ earlier) later

-- A partial step function seen as a step relation, and its iteration.
def Enabled (advance : σ → ε → Option σ) : σ → ε → σ → Prop :=
  fun s label next => advance s label = some next

def execute (advance : σ → ε → Option σ) : σ → List ε → Option σ
  | s, [] => some s
  | s, label :: rest => (advance s label).bind fun middle => execute advance middle rest

theorem execute_exact :
    execute advance s labels = some next ↔ Runs (Enabled advance) s labels next := by
  induction labels generalizing s with
  | nil =>
    constructor
    · intro done
      cases Option.some.inj done
      exact .nil
    · intro path
      cases path
      rfl
  | cons label rest ih =>
    constructor
    · intro done
      obtain ⟨middle,first,tail⟩ := Option.bind_eq_some_iff.mp done
      exact .cons first (ih.mp tail)
    · intro path
      cases path with
      | cons first tail => exact Option.bind_eq_some_iff.mpr ⟨_,first,ih.mpr tail⟩

theorem Runs.unique (one : Runs (Enabled advance) s labels next)
    (two : Runs (Enabled advance) s labels last) : next = last :=
  Option.some.inj ((execute_exact.mpr one).symm.trans (execute_exact.mpr two))

-- The steps a guard allows, as a partial step function of its own.
def restrict (guard : σ → ε → Bool) (advance : σ → ε → Option σ) (s : σ) (label : ε) : Option σ :=
  if guard s label then advance s label else none

theorem restrict_runs {guard : σ → ε → Bool}
    (path : Runs (Enabled (restrict guard advance)) s labels next) :
    Runs (Guarded (fun s label => guard s label = true) (Enabled advance)) s labels next := by
  refine path.mono fun s label next taken => ?_
  unfold Enabled restrict at taken
  split at taken
  · rename_i allowed
    exact ⟨allowed,taken⟩
  · cases taken

theorem execute_any {holds : σ → Bool} (done : (execute advance s labels).any holds = true) :
    ∃ last, Runs (Enabled advance) s labels last ∧ holds last = true := by
  obtain ⟨last,ran,held⟩ := (Option.any_eq_true _ _).mp done
  exact ⟨last,execute_exact.mp ran,held⟩

theorem execute_get (done : (execute advance s labels).isSome) :
    Runs (Enabled advance) s labels ((execute advance s labels).get done) :=
  execute_exact.mp (Option.some_get done).symm

end TransitionRuns
