import EngineeringPlatform.IdempotentCommands
namespace EngineeringPlatform.Idempotency
open Checked TransitionRuns
variable {τ β κ ε : Type} {bridge : Bridge} {sealing : Sealing β κ} {s next : Database τ β κ ε}

-- A record that stores this response under this fingerprint.
structure Stores (sealing : Sealing β κ) (scope : Scope) (fingerprint : String)
    (response : IdempotentResponse β) (record : CommandRecord κ) : Prop where
  bound : record.row.requestFingerprint = fingerprint
  state : record.row.state = .completed
  metadata : record.resultMetadata = some replayMetadata
  status : record.row.httpStatus = some response.statusCode
  «sealed» : record.row.sealedResponse = some (sealing.sealEnvelope ⟨scope,fingerprint,response⟩)

structure Claims (request : Request τ β ε) (record : CommandRecord κ) : Prop where
  bound : record.row.requestFingerprint = request.fingerprint
  state : record.row.state = .inProgress

-- The calls of one scope before its body committed, and those after it.
def Event.Fails (event : Event β) : Prop := event.answer = .raised ∨ event.answer = .aborted

def Event.Follows (fingerprint : String) (response : IdempotentResponse β) (event : Event β) : Prop :=
  (event.fingerprint = fingerprint ∧ event.answer = .replayed response) ∨
  (event.fingerprint ≠ fingerprint ∧ event.answer = .refused .conflict) ∨
  event.answer = .aborted

structure CommittedOnce (history : List (Event β)) (scope : Scope) (fingerprint : String)
    (response : IdempotentResponse β) (before after : List (Event β)) : Prop where
  split : history = before ++ ⟨scope,fingerprint,.committed response⟩ :: after
  failed : ∀ event ∈ before, event.scope = scope → event.Fails
  followed : ∀ event ∈ after, event.scope = scope → event.Follows fingerprint response

def NeverCommitted (history : List (Event β)) (scope : Scope) : Prop :=
  ∀ event ∈ history, event.scope = scope → event.Fails

def Accounted (sealing : Sealing β κ) (history : List (Event β)) (scope : Scope) :
    Option (CommandRecord κ) → Prop
  | none => NeverCommitted history scope
  | some record => ∃ fingerprint response before after,
      CommittedOnce history scope fingerprint response before after ∧
      Stores sealing scope fingerprint response record

def Call.locked : Call τ β κ ε → Option Scope
  | .idle | .started _ | .lost _ => none
  | .selected request _ | .inserted request _ | .claimed request _ => some request.scope
  | .executed request _ _ _ | .completed request _ _ _ => some request.scope

-- What a call in flight knows: the lock is its own, and behind its lock the
-- scope's row cannot change.
def Held (s : Database τ β κ ε) (call : Nat) (request : Request τ β ε) (row : Option (CommandRecord κ)) : Prop :=
  s.holder request.scope = some call ∧ s.rows request.scope = row

def Holds (sealing : Sealing β κ) (s : Database τ β κ ε) (call : Nat) : Call τ β κ ε → Prop
  | .idle | .started _ => True
  | .lost request => (s.rows request.scope).isSome
  | .selected request record => Held s call request (some record)
  | .inserted request record | .claimed request record | .executed request record _ _ =>
    Held s call request none ∧ Claims request record
  | .completed request record _ response =>
    Held s call request none ∧ Stores sealing request.scope request.fingerprint response record

structure Valid (sealing : Sealing β κ) (s : Database τ β κ ε) : Prop where
  calls : ∀ call, Holds sealing s call (s.calls call)
  holders : ∀ scope call, s.holder scope = some call → (s.calls call).locked = some scope
  accounted : ∀ scope, Accounted sealing s.history scope (s.rows scope)

theorem initial_valid (world : τ) : Valid sealing (Database.initial world : Database τ β κ ε) := by
  refine ⟨fun _ => trivial,?_,?_⟩
  · intro scope call held
    cases held
  · intro scope event member
    cases member

-- What one call's step may do to the locks and rows of the others: nothing, save
-- to take a free lock, give back its own, or commit a row behind its own lock.
structure Apart (s next : Database τ β κ ε) (call : Nat) : Prop where
  locks : ∀ scope other, other ≠ call → (next.holder scope = some other ↔ s.holder scope = some other)
  locked : ∀ scope other, other ≠ call → s.holder scope = some other → next.rows scope = s.rows scope
  kept : ∀ scope, (s.rows scope).isSome → next.rows scope = s.rows scope

variable {request : Request τ β ε} {row : Option (CommandRecord κ)} {phase : Call τ β κ ε} {record : CommandRecord κ}
  {history : List (Event β)} {event : Event β}

theorem Held.apart (held : Held s other request row)
    (apart : Apart s next call) (differs : other ≠ call) : Held next other request row :=
  ⟨(apart.locks _ _ differs).mpr held.1,(apart.locked _ _ differs held.1).trans held.2⟩

theorem Holds.apart (held : Holds sealing s other phase) (apart : Apart s next call)
    (differs : other ≠ call) : Holds sealing next other phase := by
  cases phase with
  | idle => trivial
  | started request => trivial
  | lost request =>
    have found : (s.rows request.scope).isSome := held
    change (next.rows request.scope).isSome
    rw [apart.kept _ found]
    exact found
  | selected request record => exact Held.apart held apart differs
  | inserted request record => exact ⟨held.1.apart apart differs,held.2⟩
  | claimed request record => exact ⟨held.1.apart apart differs,held.2⟩
  | executed request record writes response => exact ⟨held.1.apart apart differs,held.2⟩
  | completed request record writes response => exact ⟨held.1.apart apart differs,held.2⟩

-- One call moves to a new phase, and everything else stays as it was.
theorem Valid.moved (valid : Valid sealing s) (apart : Apart s next call)
    (calls : next.calls = Function.update s.calls call phase) (holds : Holds sealing next call phase)
    (owned : ∀ scope, next.holder scope = some call → phase.locked = some scope)
    (accounted : ∀ scope, Accounted sealing next.history scope (next.rows scope)) : Valid sealing next := by
  refine ⟨?_,?_,accounted⟩
  · intro other
    rw [calls]
    by_cases same : other = call
    · subst same
      rw [Function.update_self]
      exact holds
    · rw [Function.update_of_ne same]
      exact (valid.calls other).apart apart same
  · intro scope other held
    rw [calls]
    by_cases same : other = call
    · subst same
      rw [Function.update_self]
      exact owned scope held
    · rw [Function.update_of_ne same]
      exact valid.holders scope other ((apart.locks scope other same).mp held)

theorem Apart.unchanged (s : Database τ β κ ε) (call : Nat) (phase : Call τ β κ ε) :
    Apart s (s.set call phase) call :=
  ⟨fun _ _ _ => Iff.rfl,fun _ _ _ _ => rfl,fun _ _ => rfl⟩

theorem Apart.lock {scope : Scope} (free : s.holder scope = none) (phase : Call τ β κ ε) :
    Apart s ((s.lock call scope).set call phase) call := by
  refine ⟨?_,fun _ _ _ _ => rfl,fun _ _ => rfl⟩
  intro scope' other differs
  change s.holder.put scope call scope' = some other ↔ _
  rw [Table.put_apply]
  split
  · rename_i same
    subst same
    rw [free]
    simpa using Ne.symm differs
  · exact Iff.rfl

theorem Apart.leave (request : Request τ β ε) (answer : Answer β) : Apart s (s.leave call request answer) call := by
  refine ⟨?_,fun _ _ _ _ => rfl,fun _ _ => rfl⟩
  intro scope other differs
  change (if s.holder scope = some call then none else s.holder scope) = some other ↔ _
  split
  · rename_i own
    rw [own]
    simpa using Ne.symm differs
  · exact Iff.rfl

theorem Apart.commit (held : Held s call request none)
    (writes : τ → τ) (answer : Answer β) :
    Apart s ((s.commit request record writes).leave call request answer) call := by
  have left : Apart s (s.leave call request answer) call := Apart.leave request answer
  refine ⟨left.locks,?_,?_⟩
  · intro scope other differs locked
    refine Table.put_other _ _ ?_
    rintro rfl
    exact differs (Option.some.inj (locked.symm.trans held.1))
  · intro scope found
    refine Table.put_other _ _ ?_
    rintro rfl
    rw [held.2] at found
    cases found

theorem CommittedOnce.append {before after : List (Event β)}
    (once : CommittedOnce history scope fingerprint response before after)
    (follows : event.scope = scope → event.Follows fingerprint response) :
    CommittedOnce (history ++ [event]) scope fingerprint response before (after ++ [event]) := by
  refine ⟨?_,once.failed,?_⟩
  · rw [once.split]
    simp
  · intro other member here
    rcases List.mem_append.mp member with old | new
    · exact once.followed other old here
    · cases List.mem_singleton.mp new
      exact follows here

theorem Accounted.append
    (accounted : Accounted sealing history scope row) (fails : event.scope = scope → row = none → event.Fails)
    (follows : event.scope = scope → ∀ record fingerprint response, row = some record →
      Stores sealing scope fingerprint response record → event.Follows fingerprint response) :
    Accounted sealing (history ++ [event]) scope row := by
  cases row with
  | none =>
    intro other member here
    rcases List.mem_append.mp member with old | new
    · exact accounted other old here
    · cases List.mem_singleton.mp new
      exact fails here rfl
  | some record =>
    obtain ⟨fingerprint,response,before,after,once,stores⟩ := accounted
    exact ⟨fingerprint,response,before,after ++ [event],
      once.append fun here => follows here record fingerprint response rfl stores,stores⟩

theorem Accounted.elsewhere (accounted : Accounted sealing history scope row) (differs : event.scope ≠ scope) :
    Accounted sealing (history ++ [event]) scope row :=
  accounted.append (fun here => absurd here differs) fun here => absurd here differs

theorem Accounted.commit
    (never : NeverCommitted history scope) (stores : Stores sealing scope fingerprint response record) :
    Accounted sealing (history ++ [⟨scope,fingerprint,.committed response⟩]) scope (some record) :=
  ⟨fingerprint,response,history,[],⟨rfl,never,fun _ member => by cases member⟩,stores⟩

theorem replayRecord_stores (faithful : sealing.Faithful)
    (stores : Stores sealing scope fingerprint response record) :
    replayRecord sealing scope record = .ok response := by
  unfold replayRecord replay
  rw [stores.metadata,stores.state,stores.«sealed»,stores.status,stores.bound]
  simp [require,orRaise,faithful _,bind,Except.bind,pure,Except.pure]

-- A stored response answers its own fingerprint and no other.
theorem answerFrom_stores (faithful : sealing.Faithful)
    (stores : Stores sealing request.scope fingerprint response record) :
    answerFrom bridge sealing request record =
      if fingerprint = request.fingerprint then .ok response else .error .conflict := by
  have read : bridge.read record = .ok record := by
    unfold Bridge.read
    rw [stores.metadata]
    simp [require,bind,Except.bind,pure,Except.pure]
  have replayed := replayRecord_stores faithful stores
  unfold answerFrom checkFingerprint
  rw [read,←stores.bound]
  by_cases same : record.row.requestFingerprint = request.fingerprint
  · simpa [require,same,bind,Except.bind,pure,Except.pure] using replayed
  · simp [require,same,bind,Except.bind]

theorem checkFingerprint_claims
    (claims : Claims request record) : checkFingerprint bridge request record = .ok record := by
  simp [checkFingerprint,Bridge.read,claims.bound,claims.state,require,bind,Except.bind,pure,Except.pure]

theorem claimRecord_claims (request : Request τ β ε) (newId : Uuid) (now : Time) :
    Claims request (claimRecord request newId now : CommandRecord κ) :=
  ⟨rfl,rfl⟩

theorem completeRecord_stores (claims : Claims request record) (response : IdempotentResponse β) (now : Time)
    (sealing : Sealing β κ) :
    ∃ record', completeRecord record record.row.id response.statusCode
        (sealing.sealEnvelope ⟨request.scope,request.fingerprint,response⟩) now = some record' ∧
      Stores sealing request.scope request.fingerprint response record' := by
  refine ⟨⟨completeRow record.row response.statusCode
    (sealing.sealEnvelope ⟨request.scope,request.fingerprint,response⟩) now,some replayMetadata⟩,?_,?_⟩
  · simp [completeRecord,claims.state]
  · exact ⟨claims.bound,rfl,rfl,rfl,rfl⟩

theorem Valid.leave (valid : Valid sealing s) {answer : Answer β}
    (accounted : Accounted sealing (s.history ++ [⟨request.scope,request.fingerprint,answer⟩]) request.scope
      (s.rows request.scope)) : Valid sealing (s.leave call request answer) := by
  refine valid.moved (Apart.leave request answer) rfl trivial ?_ ?_
  · intro scope own
    change (if s.holder scope = some call then none else s.holder scope) = some call at own
    split at own
    · cases own
    · exact absurd own (by assumption)
  · intro scope
    change Accounted sealing (s.history ++ [_]) scope (s.rows scope)
    by_cases here : request.scope = scope
    · exact here ▸ accounted
    · exact (valid.accounted scope).elsewhere here

theorem Valid.set (valid : Valid sealing s) (holds : Holds sealing s call phase)
    (owned : ∀ scope, (s.calls call).locked = some scope → phase.locked = some scope) :
    Valid sealing (s.set call phase) := by
  refine valid.moved (Apart.unchanged s call phase) rfl ?_ ?_ valid.accounted
  · cases phase <;> exact holds
  · exact fun scope own => owned scope (valid.holders scope call own)

theorem Valid.lock {scope : Scope} (valid : Valid sealing s) (free : s.holder scope = none)
    (unlocked : (s.calls call).locked = none) (locked : phase.locked = some scope)
    (holds : (s.lock call scope).holder scope = some call → Holds sealing (s.lock call scope) call phase) :
    Valid sealing ((s.lock call scope).set call phase) := by
  refine valid.moved (Apart.lock free phase) rfl ?_ ?_ valid.accounted
  · have held := holds (Table.put_same s.holder scope call)
    cases phase <;> exact held
  · intro scope' own
    change s.holder.put scope call scope' = some call at own
    rcases Table.put_some own with ⟨rfl,_⟩ | ⟨_,own⟩
    · exact locked
    · have before := valid.holders scope' call own
      rw [unlocked] at before
      cases before

theorem Valid.commit (valid : Valid sealing s)
    (held : Held s call request none)
    (stores : Stores sealing request.scope request.fingerprint response record) (writes : τ → τ) :
    Valid sealing ((s.commit request record writes).leave call request (.committed response)) := by
  have never : NeverCommitted s.history request.scope := by
    have accounted := valid.accounted request.scope
    rw [held.2] at accounted
    exact accounted
  refine valid.moved (Apart.commit held writes _) rfl trivial ?_ ?_
  · intro scope own
    change (if s.holder scope = some call then none else s.holder scope) = some call at own
    split at own
    · cases own
    · exact absurd own (by assumption)
  · intro scope
    change Accounted sealing (s.history ++ [_]) scope (s.rows.put request.scope record scope)
    rw [Table.put_apply]
    split
    · rename_i here
      subst here
      exact .commit never stores
    · rename_i differs
      exact (valid.accounted scope).elsewhere fun here => differs here.symm

theorem claim_valid (valid : Valid sealing s) {newId now : Nat}
    (phase : s.calls call = .started request) (taken : s.claim call newId now request = some next) :
    Valid sealing next := by
  have unlocked : (s.calls call).locked = none := by rw [phase]; rfl
  unfold Database.claim at taken
  split at taken
  · rename_i record found
    cases Option.some.inj taken
    refine valid.set ?_ ?_
    · change (s.rows request.scope).isSome
      rw [found]
      rfl
    · intro scope own
      rw [unlocked] at own
      cases own
  · rename_i absent
    obtain ⟨free,same⟩ := Option.ite_none_right_eq_some.mp taken
    cases Option.some.inj same
    exact valid.lock free unlocked rfl fun held => ⟨⟨held,absent⟩,claimRecord_claims request newId now⟩

theorem select_valid (valid : Valid sealing s) (taken : s.select bridge call (s.calls call) = some next) :
    Valid sealing next := by
  have here := valid.calls call
  cases phase : s.calls call with
  | lost request =>
    have unlocked : (s.calls call).locked = none := by rw [phase]; rfl
    rw [phase] at taken here
    have present : (s.rows request.scope).isSome := here
    unfold Database.select at taken
    dsimp only at taken
    split at taken
    · rename_i record found
      obtain ⟨free,same⟩ := Option.ite_none_right_eq_some.mp taken
      cases Option.some.inj same
      exact valid.lock free unlocked rfl fun held => ⟨held,found⟩
    · rename_i absent
      rw [absent] at present
      cases present
  | inserted request record =>
    rw [phase] at taken here
    obtain ⟨held,claims⟩ := here
    unfold Database.select at taken
    dsimp only at taken
    rw [checkFingerprint_claims claims] at taken
    cases Option.some.inj taken
    refine valid.set ⟨held,claims⟩ fun scope own => ?_
    rw [phase] at own
    exact own
  | idle | started | selected | claimed | executed | completed =>
    rw [phase] at taken
    cases taken

theorem run_valid (valid : Valid sealing s)
    (phase : s.calls call = .claimed request record) : Valid sealing (s.run call request record) := by
  have here := valid.calls call
  rw [phase] at here
  obtain ⟨held,claims⟩ := here
  unfold Database.run
  split
  · rename_i writes response _
    refine valid.set ⟨held,claims⟩ fun scope own => ?_
    rw [phase] at own
    exact own
  · refine valid.leave ?_
    refine (valid.accounted request.scope).append (fun _ _ => .inl rfl) fun _ record fingerprint response found => ?_
    rw [held.2] at found
    cases found

theorem complete_valid (valid : Valid sealing s)
    {writes : τ → τ} {response : IdempotentResponse β}
    (phase : s.calls call = .executed request record writes response) (now : Time) :
    Valid sealing (s.complete sealing call now request record writes response) := by
  have here := valid.calls call
  rw [phase] at here
  obtain ⟨held,claims⟩ := here
  obtain ⟨record',completed,stores⟩ := completeRecord_stores claims response now sealing
  unfold Database.complete
  rw [completed]
  refine valid.set ⟨held,stores⟩ fun scope own => ?_
  rw [phase] at own
  exact own

theorem finish_valid (faithful : sealing.Faithful) (valid : Valid sealing s)
    (taken : s.finish bridge sealing call (s.calls call) = some next) : Valid sealing next := by
  have here := valid.calls call
  cases phase : s.calls call with
  | selected request record =>
    rw [phase] at taken here
    have held : Held s call request (some record) := here
    cases Option.some.inj taken
    obtain ⟨fingerprint,response,before,after,once,stores⟩ : Accounted sealing s.history request.scope (some record) :=
      held.2 ▸ valid.accounted request.scope
    have fits (answer : Answer β)
        (follows : Event.Follows fingerprint response ⟨request.scope,request.fingerprint,answer⟩) :
        Valid sealing (s.leave call request answer) := by
      refine valid.leave ?_
      rw [held.2]
      exact ⟨fingerprint,response,before,_,once.append fun _ => follows,stores⟩
    unfold Database.answer
    rw [answerFrom_stores faithful stores]
    by_cases same : fingerprint = request.fingerprint
    · rw [if_pos same]
      exact fits _ (.inl ⟨same.symm,rfl⟩)
    · rw [if_neg same]
      exact fits _ (.inr (.inl ⟨fun back => same back.symm,rfl⟩))
  | completed request record writes response =>
    rw [phase] at taken here
    obtain ⟨held,stores⟩ := here
    cases Option.some.inj taken
    exact valid.commit held stores writes
  | idle | started | lost | inserted | claimed | executed =>
    rw [phase] at taken
    cases taken

theorem abort_valid (valid : Valid sealing s) (request : Request τ β ε) :
    Valid sealing (s.leave call request .aborted) :=
  valid.leave ((valid.accounted request.scope).append (fun _ _ => .inr rfl) fun _ _ _ _ _ _ => .inr (.inr rfl))

theorem step_valid (faithful : sealing.Faithful) (valid : Valid sealing s)
    (taken : s.step bridge sealing label = some next) : Valid sealing next := by
  cases label with
  | begin call request =>
    simp only [Database.step] at taken
    split at taken
    · rename_i phase
      cases Option.some.inj taken
      refine valid.set trivial fun scope own => ?_
      rw [phase] at own
      cases own
    · cases taken
  | claim call newId now =>
    simp only [Database.step] at taken
    split at taken
    · exact claim_valid valid (by assumption) taken
    · cases taken
  | select call => exact select_valid valid taken
  | execute call =>
    simp only [Database.step] at taken
    split at taken
    · cases Option.some.inj taken
      exact run_valid valid (by assumption)
    · cases taken
  | complete call now =>
    simp only [Database.step] at taken
    split at taken
    · cases Option.some.inj taken
      exact complete_valid valid (by assumption) now
    · cases taken
  | finish call => exact finish_valid faithful valid taken
  | abort call =>
    obtain ⟨request,_,same⟩ := Option.map_eq_some_iff.mp taken
    cases same
    exact abort_valid valid request
  | elsewhere change =>
    cases Option.some.inj taken
    exact ⟨valid.calls,valid.holders,valid.accounted⟩

theorem runs_valid (faithful : sealing.Faithful) (world : τ)
    (path : Runs (Enabled (Database.step bridge sealing)) (.initial world) labels s) : Valid sealing s :=
  path.invariant (fun _ _ _ => step_valid faithful) (initial_valid world)

-- Only the commit of a body writes; every other end of a call leaves the tables
-- as they were.
def Writes (label : CallLabel τ β ε) (s next : Database τ β κ ε) : Prop :=
  (next.rows = s.rows ∧ next.world = s.world) ∨
  (next.rows = s.rows ∧ next.history = s.history ∧ ∃ change, label = .elsewhere change) ∨
  ∃ call request record writes response, s.calls call = .completed request record writes response ∧
    next = (s.commit request record writes).leave call request (.committed response)

theorem step_writes (taken : s.step bridge sealing label = some next) : Writes label s next := by
  cases label with
  | begin call request =>
    simp only [Database.step] at taken
    split at taken
    · cases Option.some.inj taken
      exact .inl ⟨rfl,rfl⟩
    · cases taken
  | claim call newId now =>
    simp only [Database.step,Database.claim] at taken
    split at taken
    · split at taken
      · cases Option.some.inj taken
        exact .inl ⟨rfl,rfl⟩
      · cases Option.some.inj (Option.ite_none_right_eq_some.mp taken).2
        exact .inl ⟨rfl,rfl⟩
    · cases taken
  | select call =>
    simp only [Database.step,Database.select] at taken
    split at taken
    · split at taken
      · cases Option.some.inj (Option.ite_none_right_eq_some.mp taken).2
        exact .inl ⟨rfl,rfl⟩
      · cases Option.some.inj taken
        exact .inl ⟨rfl,rfl⟩
    · split at taken <;> cases Option.some.inj taken <;> exact .inl ⟨rfl,rfl⟩
    · cases taken
  | execute call =>
    simp only [Database.step,Database.run] at taken
    split at taken
    · cases Option.some.inj taken
      split <;> exact .inl ⟨rfl,rfl⟩
    · cases taken
  | complete call now =>
    simp only [Database.step,Database.complete] at taken
    split at taken
    · cases Option.some.inj taken
      split <;> exact .inl ⟨rfl,rfl⟩
    · cases taken
  | finish call =>
    simp only [Database.step,Database.finish] at taken
    split at taken
    · cases Option.some.inj taken
      unfold Database.answer
      split <;> exact .inl ⟨rfl,rfl⟩
    · rename_i request record writes response phase
      exact .inr (.inr ⟨call,request,record,writes,response,phase,(Option.some.inj taken).symm⟩)
    · cases taken
  | abort call =>
    obtain ⟨request,_,same⟩ := Option.map_eq_some_iff.mp taken
    cases same
    exact .inl ⟨rfl,rfl⟩
  | elsewhere change =>
    cases Option.some.inj taken
    exact .inr (.inl ⟨rfl,rfl,change,rfl⟩)

-- A call that ends gives back what it took on the way.
def Database.answered (s : Database τ β κ ε) (request : Request τ β ε) (answer : Answer β) : Database τ β κ ε :=
  {s with history := s.history ++ [⟨request.scope,request.fingerprint,answer⟩]}

theorem leave_locked (idle : s.calls call = .idle)
    (free : s.holder request.scope = none) (unlocked : ∀ scope, s.holder scope ≠ some call)
    (phases : Nat → Call τ β κ ε) (same : Function.update phases call .idle = Function.update s.calls call .idle)
    (answer : Answer β) :
    ({s.lock call request.scope with calls := phases} : Database τ β κ ε).leave call request answer =
      s.answered request answer := by
  have calls : Function.update phases call .idle = s.calls := by
    rw [same,←idle,Function.update_eq_self]
  have holder : (fun scope => if s.holder.put request.scope call scope = some call then none
      else s.holder.put request.scope call scope) = s.holder := by
    funext scope
    rw [Table.put_apply]
    by_cases here : scope = request.scope
    · subst here
      simp [free]
    · simp [here,unlocked scope]
  unfold Database.leave Database.answered Database.lock
  dsimp only
  rw [calls,holder]

theorem CommittedOnce.same {before after : List (Event β)}
    (once : CommittedOnce history scope fingerprint response before after)
    (member : ⟨scope,fingerprint',.committed response'⟩ ∈ history) :
    fingerprint' = fingerprint ∧ response' = response := by
  rw [once.split] at member
  rcases List.mem_append.mp member with earlier | later
  · rcases once.failed _ earlier rfl with raised | aborted
    · cases raised
    · cases aborted
  · rcases List.mem_cons.mp later with same | later
    · cases same
      exact ⟨rfl,rfl⟩
    · rcases once.followed _ later rfl with ⟨_,replayed⟩ | ⟨_,refused⟩ | aborted
      · cases replayed
      · cases refused
      · cases aborted

theorem Valid.stored (valid : Valid sealing s) (committed : ⟨scope,fingerprint,.committed response⟩ ∈ s.history) :
    ∃ record, s.rows scope = some record ∧ Stores sealing scope fingerprint response record := by
  have accounted := valid.accounted scope
  cases found : s.rows scope with
  | none =>
    rw [found] at accounted
    rcases accounted _ committed rfl with raised | aborted
    · cases raised
    · cases aborted
  | some record =>
    rw [found] at accounted
    obtain ⟨_,_,before,after,once,stores⟩ := accounted
    obtain ⟨rfl,rfl⟩ := once.same committed
    exact ⟨record,rfl,stores⟩

theorem Valid.absent (valid : Valid sealing s) (never : NeverCommitted s.history scope) : s.rows scope = none := by
  have accounted := valid.accounted scope
  cases found : s.rows scope with
  | none => rfl
  | some record =>
    rw [found] at accounted
    obtain ⟨fingerprint,response,before,after,once,_⟩ := accounted
    have member : ⟨scope,fingerprint,.committed response⟩ ∈ s.history := by
      rw [once.split]
      simp
    rcases never _ member rfl with raised | aborted
    · cases raised
    · cases aborted

theorem Valid.unlocked (valid : Valid sealing s) (idle : s.calls call = .idle) (scope : Scope) :
    s.holder scope ≠ some call := by
  intro held
  have locked := valid.holders scope call held
  rw [idle] at locked
  cases locked

-- Whole calls with no other step in between.
def untilAnswer (call : Nat) (request : Request τ β ε) (newId : Uuid) (now : Time) : List (CallLabel τ β ε) :=
  [.begin call request,.claim call newId now,.select call,.finish call]

def untilExecuted (call : Nat) (request : Request τ β ε) (newId : Uuid) (now : Time) : List (CallLabel τ β ε) :=
  [.begin call request,.claim call newId now,.select call,.execute call]

def untilCommitted (call : Nat) (request : Request τ β ε) (newId : Uuid) (now : Time) : List (CallLabel τ β ε) :=
  untilExecuted call request newId now ++ [.complete call now,.finish call]

theorem replayed_alone (faithful : sealing.Faithful) (valid : Valid sealing s)
    (idle : s.calls call = .idle) (free : s.holder request.scope = none)
    (committed : ⟨request.scope,fingerprint,.committed response⟩ ∈ s.history) (newId now : Nat) :
    execute (Database.step bridge sealing) s (untilAnswer call request newId now) =
      some (s.answered request
        (if fingerprint = request.fingerprint then .replayed response else .refused .conflict)) := by
  obtain ⟨record,found,stores⟩ := valid.stored committed
  have left := leave_locked idle free (valid.unlocked idle)
  simp only [untilAnswer,execute,Database.step,idle,Option.bind_some,Database.set,Function.update_self,
    Database.claim,found,Database.select,free,if_pos,Database.lock,Database.finish,Database.answer,
    answerFrom_stores faithful stores]
  by_cases same : fingerprint = request.fingerprint
  · simp only [same,if_pos]
    exact congrArg some (left _ (by simp [Function.update_idem]) _)
  · simp only [same,if_false]
    exact congrArg some (left _ (by simp [Function.update_idem]) _)

theorem raised_alone (valid : Valid sealing s)
    (idle : s.calls call = .idle) (free : s.holder request.scope = none)
    (never : NeverCommitted s.history request.scope) (raises : request.command s.world = .error error)
    (newId now : Nat) :
    execute (Database.step bridge sealing) s (untilExecuted call request newId now) =
      some (s.answered request .raised) := by
  have left := leave_locked idle free (valid.unlocked idle)
  simp only [untilExecuted,execute,Database.step,idle,Option.bind_some,Database.set,Function.update_self,
    Database.claim,valid.absent never,free,if_pos,Database.lock,Database.select,
    checkFingerprint_claims (claimRecord_claims request newId now),Database.run,raises]
  exact congrArg some (left _ (by simp [Function.update_idem]) _)

theorem committed_alone (valid : Valid sealing s)
    (idle : s.calls call = .idle) (free : s.holder request.scope = none)
    (never : NeverCommitted s.history request.scope)
    (returns : request.command s.world = .ok (writes,response)) (newId now : Nat) :
    ∃ record, execute (Database.step bridge sealing) s (untilCommitted call request newId now) =
      some ((s.commit request record writes).answered request (.committed response)) := by
  obtain ⟨record,completed,_⟩ := completeRecord_stores
    (claimRecord_claims request newId now) response now sealing
  refine ⟨record,?_⟩
  have left := leave_locked (s := s.commit request record writes) idle free (valid.unlocked idle)
  simp only [untilCommitted,untilExecuted,List.cons_append,List.nil_append,execute,Database.step,idle,
    Option.bind_some,Database.set,Function.update_self,Database.claim,valid.absent never,free,if_pos,
    Database.lock,Database.select,checkFingerprint_claims (claimRecord_claims request newId now),
    Database.run,returns,Database.complete,completed,Database.finish]
  exact congrArg some (left _ (by simp [Function.update_idem,Database.commit]) _)

-- Over every interleaving: a scope's body commits at most once, and from then on
-- its calls replay that response or are refused; only that commit writes; a lock
-- always belongs to a call in flight, so a call served alone after a failure
-- does what a first call does.
theorem idempotent_execution (faithful : sealing.Faithful) {world : τ} {s : Database τ β κ ε}
    (path : Runs (Enabled (Database.step bridge sealing)) (.initial world) labels s) :
    (∀ scope, NeverCommitted s.history scope ∨
      ∃ fingerprint response before after, CommittedOnce s.history scope fingerprint response before after) ∧
    (∀ scope call, s.holder scope = some call → (s.calls call).locked = some scope) ∧
    (∀ label next, s.step bridge sealing label = some next → Writes label s next) ∧
    ∀ call request newId now, s.calls call = .idle → s.holder request.scope = none →
      (∀ fingerprint response, ⟨request.scope,fingerprint,.committed response⟩ ∈ s.history →
        execute (Database.step bridge sealing) s (untilAnswer call request newId now) =
          some (s.answered request
            (if fingerprint = request.fingerprint then .replayed response else .refused .conflict))) ∧
      (NeverCommitted s.history request.scope →
        (∀ error, request.command s.world = .error error →
          execute (Database.step bridge sealing) s (untilExecuted call request newId now) =
            some (s.answered request .raised)) ∧
        ∀ writes response, request.command s.world = .ok (writes,response) →
          ∃ record, execute (Database.step bridge sealing) s (untilCommitted call request newId now) =
            some ((s.commit request record writes).answered request (.committed response))) := by
  have valid := runs_valid faithful world path
  refine ⟨?_,valid.holders,fun _ _ => step_writes,?_⟩
  · intro scope
    have accounted := valid.accounted scope
    cases found : s.rows scope with
    | none =>
      rw [found] at accounted
      exact .inl accounted
    | some record =>
      rw [found] at accounted
      obtain ⟨fingerprint,response,before,after,once,_⟩ := accounted
      exact .inr ⟨fingerprint,response,before,after,once⟩
  · intro call request newId now idle free
    refine ⟨fun fingerprint response committed => replayed_alone faithful valid idle free committed newId now,?_⟩
    intro never
    refine ⟨fun error raises => raised_alone valid idle free never raises newId now,?_⟩
    exact fun writes response returns => committed_alone valid idle free never returns newId now

def sampleScope : Scope := ⟨"actor","rename","key"⟩

def sampleRequest (fingerprint : String) (fails : Bool) : Request Nat Nat Unit :=
  ⟨sampleScope,fingerprint,fun world =>
    if fails then .error () else .ok ((· + 1),⟨200,world,[],none,false⟩)⟩

def sampleSealing : Sealing Nat (SealedIdempotentEnvelope Nat) := ⟨id,some⟩

-- The first command raises while two others wait for its lock.
def sampleRace : List (CallLabel Nat Nat Unit) :=
  [.begin 0 (sampleRequest "a" true),.begin 1 (sampleRequest "a" false),.begin 2 (sampleRequest "b" false),
    .claim 0 10 1,.select 0,.execute 0,.claim 1 11 2,.select 1,.execute 1,.complete 1 3,.finish 1,
    .claim 2 12 4,.select 2,.finish 2,.begin 0 (sampleRequest "a" true),.claim 0 13 5,.select 0,.finish 0]

def sampleRaced : Database Nat Nat (SealedIdempotentEnvelope Nat) Unit :=
  (execute (Database.step .shared sampleSealing) (.initial 7) sampleRace).get (by decide)

theorem idempotent_execution_race :
    sampleRaced.world = 8 ∧ sampleRaced.history =
      [⟨sampleScope,"a",.raised⟩,⟨sampleScope,"a",.committed ⟨200,7,[],none,false⟩⟩,
        ⟨sampleScope,"b",.refused .conflict⟩,⟨sampleScope,"a",.replayed ⟨200,7,[],none,false⟩⟩] ∧
      ∃ fingerprint response before after,
        CommittedOnce sampleRaced.history sampleScope fingerprint response before after := by
  have reached : Runs (Enabled (Database.step .shared sampleSealing)) (.initial 7) sampleRace sampleRaced :=
    execute_get (by decide)
  have history : sampleRaced.history =
      [⟨sampleScope,"a",.raised⟩,⟨sampleScope,"a",.committed ⟨200,7,[],none,false⟩⟩,
        ⟨sampleScope,"b",.refused .conflict⟩,⟨sampleScope,"a",.replayed ⟨200,7,[],none,false⟩⟩] := rfl
  refine ⟨rfl,history,?_⟩
  rcases (idempotent_execution (fun _ => rfl) reached).1 sampleScope with never | once
  · have member : ⟨sampleScope,"a",.committed ⟨200,7,[],none,false⟩⟩ ∈ sampleRaced.history := by
      rw [history]
      simp
    rcases never _ member rfl with raised | aborted
    · cases raised
    · cases aborted
  · exact once

end EngineeringPlatform.Idempotency
