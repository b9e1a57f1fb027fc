-- Code that raises: a value of `Except`, sequenced by `do`. A caller reads a
-- successful result backwards through `bind_ok`, one check at a time.
namespace Checked
universe u v w
variable {ε : Type u} {α : Type v}

def require (condition : Prop) [Decidable condition] (error : ε) :
    Except ε PUnit.{v+1} :=
  if condition then .ok .unit else .error error

def orRaise (value : Option α) (error : ε) : Except ε α :=
  match value with
  | some found => .ok found
  | none => .error error

theorem require_ok {condition : Prop} [Decidable condition] {error : ε} {done : PUnit.{v+1}} :
    require condition error = .ok done ↔ condition := by
  unfold require
  split <;> simp_all

theorem orRaise_ok {value : Option α} {error : ε} {found : α} :
    orRaise value error = .ok found ↔ value = some found := by
  cases value <;> simp [orRaise]

theorem bind_ok {β : Type v} {first : Except ε α} {rest : α → Except ε β} {result : β} :
    (first >>= rest) = .ok result ↔ ∃ found, first = .ok found ∧ rest found = .ok result := by
  cases first <;> simp [bind,Except.bind]

theorem require_bind_ok {β : Type v} {condition : Prop} [Decidable condition] {error : ε}
    {rest : PUnit.{v+1} → Except ε β} {result : β} :
    (require condition error >>= rest) = .ok result ↔ condition ∧ rest .unit = .ok result := by
  unfold require
  split
  · rename_i holds
    exact ⟨fun ran => ⟨holds,ran⟩,fun both => both.2⟩
  · rename_i fails
    exact ⟨(fun ran => by cases ran),fun both => absurd both.1 fails⟩

theorem orRaise_bind_ok {β : Type v} {value : Option α} {error : ε} {rest : α → Except ε β}
    {result : β} :
    (orRaise value error >>= rest) = .ok result ↔ ∃ found, value = some found ∧ rest found = .ok result := by
  simp [bind_ok,orRaise_ok]

theorem pure_ok {value result : α} : (pure value : Except ε α) = .ok result ↔ value = result := by
  simp [pure,Except.pure]

theorem mapM_ok {β : Type v} {read : β → Except ε α} {keys : List β} {found : List α}
    (ran : keys.mapM read = .ok found) : ∀ row ∈ found, ∃ key ∈ keys, read key = .ok row := by
  induction keys generalizing found with
  | nil =>
    cases pure_ok.mp ran
    intro row member
    cases member
  | cons key rest ih =>
    rw [List.mapM_cons] at ran
    obtain ⟨first,head,ran⟩ := bind_ok.mp ran
    obtain ⟨others,tail,ran⟩ := bind_ok.mp ran
    cases pure_ok.mp ran
    intro row member
    rcases List.mem_cons.mp member with rfl | later
    · exact ⟨key,List.mem_cons_self,head⟩
    · obtain ⟨key',present,readAt⟩ := ih tail row later
      exact ⟨key',List.mem_cons_of_mem _ present,readAt⟩

theorem mapM_total {β : Type v} {read : β → Except ε α} {keys : List β} :
    (∃ found, keys.mapM read = .ok found) ↔ ∀ key ∈ keys, ∃ row, read key = .ok row := by
  induction keys with
  | nil => simp [pure,Except.pure]
  | cons key rest ih =>
    rw [List.mapM_cons,List.forall_mem_cons,←ih]
    constructor
    · rintro ⟨found,ran⟩
      obtain ⟨first,head,ran⟩ := bind_ok.mp ran
      obtain ⟨others,tail,_⟩ := bind_ok.mp ran
      exact ⟨⟨first,head⟩,others,tail⟩
    · rintro ⟨⟨first,head⟩,others,tail⟩
      exact ⟨first :: others,bind_ok.mpr ⟨first,head,bind_ok.mpr ⟨others,tail,rfl⟩⟩⟩

theorem mapM_eq {β : Type v} {read : β → Except ε α} {answer : β → α} {keys : List β}
    (same : ∀ key ∈ keys, read key = .ok (answer key)) : keys.mapM read = .ok (keys.map answer) := by
  induction keys with
  | nil => rfl
  | cons key rest ih =>
    rw [List.forall_mem_cons] at same
    rw [List.mapM_cons,same.1,ih same.2]
    rfl

theorem forM_ok {check : α → Except ε PUnit} {keys : List α} :
    keys.forM check = .ok () ↔ ∀ key ∈ keys, check key = .ok () := by
  induction keys with
  | nil => simp [pure,Except.pure]
  | cons key rest ih =>
    rw [show (key :: rest).forM check = (check key >>= fun _ => rest.forM check) from rfl,List.forall_mem_cons,←ih,bind_ok]
    exact ⟨fun ⟨_,first,others⟩ => ⟨first,others⟩,fun ⟨first,others⟩ => ⟨(),first,others⟩⟩

theorem mapError_ok {δ : Type w} {outcome : Except ε α} {change : ε → δ} {result : α} :
    outcome.mapError change = .ok result ↔ outcome = .ok result := by
  cases outcome with
  | ok value =>
    constructor <;>
      · intro same
        cases same
        rfl
  | error raised => exact ⟨nofun,nofun⟩

theorem map_ok {β : Type v} {outcome : Except ε α} {change : α → β} {result : β} :
    outcome.map change = .ok result ↔ ∃ found, outcome = .ok found ∧ change found = result := by
  cases outcome <;> simp [Except.map]

theorem toOption_some {outcome : Except ε α} {result : α} :
    outcome.toOption = some result ↔ outcome = .ok result := by
  cases outcome <;> simp [Except.toOption]

theorem toOption_map_some {β : Type v} {outcome : Except ε α} {read : α → β} {result : β} :
    outcome.toOption.map read = some result ↔ ∃ found, outcome = .ok found ∧ read found = result := by
  cases outcome <;> simp [Except.toOption]

theorem bind_error {β : Type v} {first : Except ε α} {rest : α → Except ε β} {error : ε} :
    (first >>= rest) = .error error ↔ first = .error error ∨ ∃ found, first = .ok found ∧ rest found = .error error := by
  cases first <;> simp [bind,Except.bind]

theorem require_error {condition : Prop} [Decidable condition] {error raised : ε} :
    (require condition error : Except ε PUnit.{v+1}) = .error raised ↔ ¬condition ∧ error = raised := by
  unfold require
  split <;> simp_all

theorem orRaise_error {value : Option α} {error raised : ε} :
    orRaise value error = .error raised ↔ value = none ∧ error = raised := by
  cases value <;> simp [orRaise]

theorem pure_error {value : α} {error : ε} : ¬(pure value : Except ε α) = .error error := by
  simp [pure,Except.pure]

-- Which errors a check can raise, from those of its parts.
def Raises (errors : ε → Prop) (outcome : Except ε α) : Prop := ∀ error, outcome = .error error → errors error

section
variable {errors : ε → Prop}

theorem raises_pure {value : α} : Raises errors (pure value) := fun _ raised => absurd raised pure_error

theorem raises_error {error : ε} (known : errors error) : Raises errors (.error error : Except ε α) := by
  rintro _ ⟨⟩
  exact known

theorem raises_orRaise {value : Option α} {error : ε} (known : errors error) : Raises errors (orRaise value error) := by
  intro _ raised
  exact (orRaise_error.mp raised).2 ▸ known

theorem Raises.bind {β : Type v} {first : Except ε α} {rest : α → Except ε β} (one : Raises errors first)
    (others : ∀ found, Raises errors (rest found)) : Raises errors (first >>= rest) := by
  intro error raised
  rcases bind_error.mp raised with stopped | ⟨found,_,later⟩
  · exact one error stopped
  · exact others found error later

-- Behind a check its condition holds.
theorem raises_require {β : Type v} {condition : Prop} [Decidable condition] {error : ε} {rest : PUnit.{v+1} → Except ε β}
    (known : errors error) (others : condition → Raises errors (rest .unit)) :
    Raises errors (require condition error >>= rest) := by
  intro _ raised
  rcases bind_error.mp raised with stopped | ⟨_,passed,later⟩
  · exact (require_error.mp stopped).2 ▸ known
  · exact others (require_ok.mp passed) _ later

theorem raises_mapM {β : Type v} {read : β → Except ε α} (one : ∀ key, Raises errors (read key)) (keys : List β) :
    Raises errors (keys.mapM read) := by
  induction keys with
  | nil => exact raises_pure
  | cons key rest ih =>
    rw [List.mapM_cons]
    exact (one key).bind fun _ => ih.bind fun _ => raises_pure

theorem raises_foldlM {β : Type v} {step : α → β → Except ε α} (one : ∀ state key, Raises errors (step state key)) (keys : List β)
    (state : α) : Raises errors (keys.foldlM step state) := by
  induction keys generalizing state with
  | nil => exact raises_pure
  | cons key rest ih =>
    rw [List.foldlM_cons]
    exact (one state key).bind ih

end

-- A run over a list keeps what each of its steps keeps.
theorem foldlM_keeps {β : Type v} {step : α → β → Except ε α} {holds : α → Prop}
    (kept : ∀ state key next, holds state → step state key = .ok next → holds next) {keys : List β} {state last : α}
    (held : holds state) (ran : keys.foldlM step state = .ok last) : holds last := by
  induction keys generalizing state with
  | nil =>
    cases pure_ok.mp ran
    exact held
  | cons key rest ih =>
    rw [List.foldlM_cons] at ran
    obtain ⟨next,stepped,ran⟩ := bind_ok.mp ran
    exact ih (kept state key next held stepped) ran

theorem foldlM_each {β : Type v} {step : α → β → Except ε α} {keys : List β} {state last : α}
    (ran : keys.foldlM step state = .ok last) : ∀ key ∈ keys, ∃ before after, step before key = .ok after := by
  induction keys generalizing state with
  | nil => exact nofun
  | cons key rest ih =>
    rw [List.foldlM_cons] at ran
    obtain ⟨next,stepped,ran⟩ := bind_ok.mp ran
    rw [List.forall_mem_cons]
    exact ⟨⟨state,next,stepped⟩,ih ran⟩

-- The committed state of a transaction that may raise: a raised error rolls
-- everything back, so it leaves no step at all.
def committed {σ : Type v} (outcome : Except ε (σ × α)) : Option σ :=
  match outcome with
  | .ok (next,_) => some next
  | .error _ => none

theorem committed_some {σ : Type v} {outcome : Except ε (σ × α)} {next : σ} :
    committed outcome = some next ↔ ∃ result, outcome = .ok (next,result) := by
  unfold committed
  split
  · rename_i after result
    constructor
    · intro same
      cases Option.some.inj same
      exact ⟨result,rfl⟩
    · rintro ⟨_,same⟩
      cases same
      rfl
  · simp

theorem committed_map_some {σ β : Type v} {outcome : Except ε (σ × α)} {read : σ → β} {result : β} :
    (committed outcome).map read = some result ↔ ∃ next found, outcome = .ok (next,found) ∧ read next = result := by
  simp only [Option.map_eq_some_iff,committed_some]
  constructor
  · rintro ⟨next,⟨found,ran⟩,same⟩
    exact ⟨next,found,ran,same⟩
  · rintro ⟨next,found,ran,same⟩
    exact ⟨next,⟨found,ran⟩,same⟩

end Checked
