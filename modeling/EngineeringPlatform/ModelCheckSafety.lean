import EngineeringPlatform.ModelChecks
import EngineeringPlatform.ModelExecutionSafety
namespace EngineeringPlatform.ModelGateway
open Checked KeyedRows SharedWorkers TransitionRuns

-- The execution is running on the connection of this reference.
def GatewayStore.Occupies (s : GatewayStore) (reference : String) : ExecutionRef → Prop
  | .check id => ∃ row, find (·.id) s.checks id = some row ∧ row.state = .running ∧
      row.input.snapshot.connectionRef = some reference
  | .metadata id => ∃ row, find (·.id) s.observations id = some row ∧ row.state = .running ∧
      row.input.connectionRef = reference

def GatewayStore.Sent (s : GatewayStore) (execution : ExecutionRef) : Prop :=
  ∃ request ∈ s.requests, request.execution = execution

def GatewayStore.Started (s : GatewayStore) : ExecutionRef → Prop
  | .check id => ∃ row, find (·.id) s.checks id = some row ∧ row.state ≠ .queued
  | .metadata id => ∃ row, find (·.id) s.observations id = some row ∧ row.state ≠ .queued

-- The request leaves under a claim that is still its sender's and not yet due.
def GatewayStore.LiveFor (s : GatewayStore) (request : ProviderRequest) : Prop :=
  request.sentAt = s.clock ∧ match request.execution with
    | .check id => ∃ row lease, find (·.id) s.checks id = some row ∧ row.state = .running ∧
        row.executionToken = request.executionToken ∧ row.deadlineAt = some lease ∧ s.clock < lease
    | .metadata id => ∃ row lease, find (·.id) s.observations id = some row ∧ row.state = .running ∧
        row.executionToken = request.executionToken ∧ row.deadlineAt = some lease ∧ s.clock < lease

structure GatewayValid (s : GatewayStore) : Prop where
  checks : Unique (·.id) s.checks
  observations : Unique (·.id) s.observations
  exclusive : ∀ reference one two, s.Occupies reference one → s.Occupies reference two → one = two
  sentOnce : (s.requests.map (·.execution)).Nodup
  started : ∀ request ∈ s.requests, s.Started request.execution

-- What one step does to the store, with `mine` the executions its worker holds.
structure Shift (mine : ExecutionRef → Prop) (s next : GatewayStore) : Prop where
  clock : s.clock ≤ next.clock
  checks : Move checkExecution s.clock s.connectionBusy (fun id => mine (.check id)) s.checks next.checks
  observations : Move metadataExecution s.clock s.connectionBusy (fun id => mine (.metadata id)) s.observations
    next.observations
  alone : next.checks = s.checks ∨ next.observations = s.observations
  requests : next.requests = s.requests ∨
    ∃ request, next.requests = request :: s.requests ∧ s.LiveFor request ∧ ¬s.Sent request.execution ∧
      mine request.execution

-- What a step leaves of every row and of the requests sent before it.
structure GatewayMoves (s next : GatewayStore) : Prop where
  checks : ∀ id row, find (·.id) s.checks id = some row →
    ∃ row', find (·.id) next.checks id = some row' ∧ (row' = row ∨ Turned checkExecution row row')
  accepted : ∀ id row, find (·.id) s.checks id = none → find (·.id) next.checks id = some row →
    row.revision = 1 ∧ (row.state = .queued ∨ row.state = .blocked)
  observations : ∀ id row, find (·.id) s.observations id = some row →
    ∃ row', find (·.id) next.observations id = some row' ∧ (row' = row ∨ Turned metadataExecution row row')
  requested : ∀ id row, find (·.id) s.observations id = none → find (·.id) next.observations id = some row →
    row.revision = 1 ∧ (row.state = .queued ∨ row.state = .blocked)
  requests : ∀ request ∈ next.requests, request ∈ s.requests ∨ s.LiveFor request

theorem GatewayMoves.refl (s : GatewayStore) : GatewayMoves s s :=
  ⟨fun _ row found => ⟨row,found,.inl rfl⟩,(fun _ _ absent found => by cases absent.symm.trans found),
    fun _ row found => ⟨row,found,.inl rfl⟩,(fun _ _ absent found => by cases absent.symm.trans found),
    fun _ member => .inl member⟩

section
variable {mine : ExecutionRef → Prop} {s next : GatewayStore}

theorem Shift.moves (shift : Shift mine s next) : GatewayMoves s next := by
  refine ⟨?_,fun id row => shift.checks.admitted,?_,fun id row => shift.observations.admitted,?_⟩
  · intro id row found
    obtain ⟨row',found',step⟩ := shift.checks.row found
    exact ⟨row',found',step.imp_right And.left⟩
  · intro id row found
    obtain ⟨row',found',step⟩ := shift.observations.row found
    exact ⟨row',found',step.imp_right And.left⟩
  · intro request member
    rcases shift.requests with same | ⟨new,same,live,_⟩
    · exact .inl (same ▸ member)
    · rw [same] at member
      rcases List.mem_cons.mp member with rfl | before
      · exact .inr live
      · exact .inl before

theorem GatewayMoves.started (moves : GatewayMoves s next) (started : s.Started execution) :
    next.Started execution := by
  cases execution with
  | check id =>
    obtain ⟨row,found,begun⟩ := started
    obtain ⟨row',found',rfl | turned⟩ := moves.checks id row found
    · exact ⟨row',found',begun⟩
    · exact ⟨row',found',turned.started⟩
  | metadata id =>
    obtain ⟨row,found,begun⟩ := started
    obtain ⟨row',found',rfl | turned⟩ := moves.observations id row found
    · exact ⟨row',found',begun⟩
    · exact ⟨row',found',turned.started⟩

theorem LiveFor.started {request : ProviderRequest} (live : s.LiveFor request) : s.Started request.execution := by
  obtain ⟨execution,token,sentAt⟩ := request
  cases execution with
  | check id =>
    obtain ⟨_,row,_,found,running,_⟩ := live
    exact ⟨row,found,fun queued => by cases queued.symm.trans running⟩
  | metadata id =>
    obtain ⟨_,row,_,found,running,_⟩ := live
    exact ⟨row,found,fun queued => by cases queued.symm.trans running⟩

theorem connectionBusy_free {reference : String} (free : s.connectionBusy reference = false) :
    ¬s.Occupies reference execution := by
  obtain ⟨checks,observations⟩ := Bool.or_eq_false_iff.mp free
  cases execution with
  | check id =>
    rintro ⟨row,found,running,bound⟩
    have idle := List.any_eq_false.mp checks row (find_some found).1
    simp [Execution.occupies,checkExecution,running,bound] at idle
  | metadata id =>
    rintro ⟨row,found,running,bound⟩
    have idle := List.any_eq_false.mp observations row (find_some found).1
    simp [Execution.occupies,metadataExecution,running,bound] at idle

-- Whoever occupies a connection after a step did so before it, but for one
-- taker, and that one found the connection free.
theorem Shift.occupants (shift : Shift mine s next) :
    ∃ taker, ∀ reference execution, next.Occupies reference execution →
      s.Occupies reference execution ∨ (execution = taker ∧ s.connectionBusy reference = false) := by
  rcases shift.alone with same | same
  · obtain ⟨taker,only⟩ := shift.observations.occupies
    refine ⟨.metadata taker,fun reference execution occupied => ?_⟩
    cases execution with
    | check id =>
      obtain ⟨row,found,rest⟩ := occupied
      exact .inl ⟨row,same ▸ found,rest⟩
    | metadata id =>
      obtain ⟨row,found,running,bound⟩ := occupied
      rcases only id row found running with before | ⟨rfl,free⟩
      · exact .inl ⟨row,before,running,bound⟩
      · exact .inr ⟨rfl,free reference (congrArg some bound)⟩
  · obtain ⟨taker,only⟩ := shift.checks.occupies
    refine ⟨.check taker,fun reference execution occupied => ?_⟩
    cases execution with
    | check id =>
      obtain ⟨row,found,running,bound⟩ := occupied
      rcases only id row found running with before | ⟨rfl,free⟩
      · exact .inl ⟨row,before,running,bound⟩
      · exact .inr ⟨rfl,free reference bound⟩
    | metadata id =>
      obtain ⟨row,found,rest⟩ := occupied
      exact .inl ⟨row,same ▸ found,rest⟩

theorem Shift.valid (shift : Shift mine s next) (valid : GatewayValid s) : GatewayValid next := by
  have moves := shift.moves
  refine ⟨shift.checks.unique valid.checks,shift.observations.unique valid.observations,?_,?_,?_⟩
  · intro reference one two first second
    obtain ⟨taker,only⟩ := shift.occupants
    rcases only reference one first with before | ⟨rfl,free⟩
    · rcases only reference two second with also | ⟨_,free⟩
      · exact valid.exclusive reference one two before also
      · exact absurd before (connectionBusy_free free)
    · rcases only reference two second with also | ⟨same,_⟩
      · exact absurd also (connectionBusy_free free)
      · exact same.symm
  · rcases shift.requests with same | ⟨request,same,_,unsent,_⟩
    · rw [same]
      exact valid.sentOnce
    · rw [same,List.map_cons]
      refine List.nodup_cons.mpr ⟨fun member => unsent ?_,valid.sentOnce⟩
      obtain ⟨before,present,keyed⟩ := List.mem_map.mp member
      exact ⟨before,present,keyed⟩
  · intro request member
    rcases shift.requests with same | ⟨new,same,live,_⟩
    · exact moves.started (valid.started request (same ▸ member))
    · rw [same] at member
      rcases List.mem_cons.mp member with rfl | before
      · exact moves.started (LiveFor.started live)
      · exact moves.started (valid.started request before)

theorem Shift.sent (shift : Shift mine s next) (sent : next.Sent execution) : s.Sent execution ∨ mine execution := by
  obtain ⟨request,member,rfl⟩ := sent
  rcases shift.requests with same | ⟨new,same,_,_,held⟩
  · exact .inl ⟨request,same ▸ member,rfl⟩
  · rw [same] at member
    rcases List.mem_cons.mp member with rfl | before
    · exact .inr held
    · exact .inl ⟨request,before,rfl⟩

end

def GatewayWorker.Holding : GatewayWorker → ExecutionRef → Prop
  | .check worker,.check id => worker.holding id
  | .metadata worker,.metadata id => worker.holding id
  | _,_ => False

def GatewayHolds (s : GatewayStore) : GatewayWorker → Prop
  | .check worker => Holds checkExecution s.clock s.checks (fun id => s.Sent (.check id)) worker
  | .metadata worker => Holds metadataExecution s.clock s.observations (fun id => s.Sent (.metadata id)) worker

def Apart (one two : GatewayWorker) : Prop := ∀ execution, one.Holding execution → ¬two.Holding execution

section
variable {mine : ExecutionRef → Prop} {s next : GatewayStore}

-- A step that leaves both tables and the requests alone, but for the clock.
theorem Shift.apart (clock : s.clock ≤ next.clock) (checks : next.checks = s.checks)
    (observations : next.observations = s.observations) (requests : next.requests = s.requests) :
    Shift mine s next := by
  refine ⟨clock,?_,?_,.inl checks,.inl requests⟩
  · rw [checks]
    exact .same
  · rw [observations]
    exact .same

theorem Shift.checked {checks : List ConnectionCheck}
    (move : Move checkExecution s.clock s.connectionBusy (fun id => mine (.check id)) s.checks checks) :
    Shift mine s { s with checks } :=
  ⟨Nat.le_refl _,move,.same,.inr rfl,.inl rfl⟩

theorem Shift.observed {observations : List MetadataObservation}
    (move : Move metadataExecution s.clock s.connectionBusy (fun id => mine (.metadata id)) s.observations
      observations) :
    Shift mine s { s with observations } :=
  ⟨Nat.le_refl _,.same,move,.inl rfl,.inl rfl⟩

theorem insertable_fresh {k : ExecutionKind ι σ ρ ω μ κ} [DecidableEq σ] {value : Execution ι σ ρ ω μ}
    {rows : List (Execution ι σ ρ ω μ)} (allowed : insertable k value rows = true) :
    find (·.id) rows value.id = none := by
  unfold insertable at allowed
  exact (of_decide_eq_true allowed).1

theorem acceptCheck_shift (ran : acceptCheck digests directories deploymentId expected actor kind newId s = .ok next) :
    Shift mine s next := by
  unfold acceptCheck at ran
  simp only [bind_ok,require_ok,orRaise_ok,pure_ok,exists_const] at ran
  obtain ⟨deployment,_,_,_,_,allowed,rfl⟩ := ran
  refine .checked (.inserted _ (insertable_fresh allowed) rfl ?_)
  dsimp only
  split
  · exact .inr rfl
  · exact .inl rfl

theorem acceptMetadata_shift
    (ran : acceptMetadata digests directories deploymentId expected fingerprint actor newId s = .ok next) :
    Shift mine s next := by
  unfold acceptMetadata at ran
  simp only [bind_ok,require_ok,orRaise_ok,pure_ok,exists_const] at ran
  obtain ⟨candidate,_,_,⟨current,_⟩,_,_,_,allowed,rfl⟩ := ran
  exact .observed (.inserted _ (insertable_fresh allowed) rfl (.inl rfl))

theorem writable_shift {change : Deployment → GatewayStore}
    (ran : (do
      let current ← writable deploymentId expected s
      pure (change current)) = Except.ok next)
    (kept : ∀ current, Shift mine s (change current)) : Shift mine s next := by
  obtain ⟨current,_,done⟩ := bind_ok.mp ran
  rw [←pure_ok.mp done]
  exact kept current

theorem commitGateway_shift (taken : commitGateway digests s transaction = some next) : Shift mine s next := by
  cases transaction with
  | tick elapsed =>
    cases Option.some.inj taken
    exact .apart (Nat.le_add_right _ _) rfl rfl rfl
  | create value =>
    have ran := toOption_some.mp taken
    unfold createDeployment at ran
    simp only [bind_ok,require_ok,pure_ok,exists_const] at ran
    obtain ⟨_,rfl⟩ := ran
    exact .apart (Nat.le_refl _) rfl rfl rfl
  | patch deploymentId request expected =>
    exact writable_shift (toOption_some.mp taken) fun _ => .apart (Nat.le_refl _) rfl rfl rfl
  | archive deploymentId expected =>
    exact writable_shift (toOption_some.mp taken) fun _ => .apart (Nat.le_refl _) rfl rfl rfl
  | acceptCheck => exact acceptCheck_shift (toOption_some.mp taken)
  | acceptMetadata => exact acceptMetadata_shift (toOption_some.mp taken)
  | recoverCheck id =>
    have ran := toOption_some.mp taken
    unfold recoverExpiredCheck at ran
    simp only [bind_ok,pure_ok] at ran
    obtain ⟨checks,recovered,rfl⟩ := ran
    exact .checked (recoverExecution_moves recovered)
  | recoverMetadata id =>
    have ran := toOption_some.mp taken
    unfold recoverExpiredMetadataObservation at ran
    simp only [bind_ok,pure_ok] at ran
    obtain ⟨observations,recovered,rfl⟩ := ran
    exact .observed (recoverExecution_moves recovered)

-- One of the two processes: how it names the executions of its table.
structure Lane (k : ExecutionKind ι σ ρ ω μ κ) (s : GatewayStore) (ref : Uuid → ExecutionRef)
    (rows : List (Execution ι σ ρ ω μ)) : Prop where
  named : Function.Injective ref
  started : ∀ id, s.Started (ref id) ↔ ∃ row, find (·.id) rows id = some row ∧ row.state ≠ k.queued
  live : ∀ row lease, find (·.id) rows row.id = some row → row.state = k.running → row.deadlineAt = some lease →
    s.clock < lease → s.LiveFor ⟨ref row.id,row.executionToken,s.clock⟩

theorem check_lane (s : GatewayStore) : Lane checkExecution s .check s.checks :=
  ⟨fun _ _ same => ExecutionRef.check.inj same,fun _ => Iff.rfl,
    fun row lease found running deadline early => ⟨rfl,row,lease,found,running,rfl,deadline,early⟩⟩

theorem metadata_lane (s : GatewayStore) : Lane metadataExecution s .metadata s.observations :=
  ⟨fun _ _ same => ExecutionRef.metadata.inj same,fun _ => Iff.rfl,
    fun row lease found running deadline early => ⟨rfl,row,lease,found,running,rfl,deadline,early⟩⟩

variable {ref : Uuid → ExecutionRef} {sent : Option (Execution ι σ ρ ω μ)}

-- The requests after a step that sends for this row, or for none.
def GatewayStore.received (s : GatewayStore) (ref : Uuid → ExecutionRef) (sent : Option (Execution ι σ ρ ω μ)) :
    List ProviderRequest :=
  sent.elim s.requests fun row => s.receive (ref row.id) row.executionToken

-- What a step of a process sends, what its worker knows after it, and that the worker
-- newly holds only what was queued.
theorem Lane.step [DecidableEq ι] [DecidableEq σ] {k : ExecutionKind ι σ ρ ω μ κ} (lane : Lane k s ref rows)
    (valid : GatewayValid s)
    (holds : Holds k s.clock rows (fun id => s.Sent (ref id)) worker)
    (ran : executionStep k digests s.clock s.deployments s.connectionBusy rows worker event = some (after,sent,memory)) :
    (s.received ref sent = s.requests ∨ ∃ id request, s.received ref sent = request :: s.requests ∧ s.LiveFor request ∧
      ¬s.Sent request.execution ∧ request.execution = ref id ∧ worker.holding id) ∧
    Holds k s.clock after (fun id => ∃ request ∈ s.received ref sent, request.execution = ref id) memory ∧
    ∀ id, memory.holding id → worker.holding id ∨ ¬s.Started (ref id) := by
  refine ⟨?_,?_,fun id held => ?_⟩
  · cases sent with
    | none => exact .inl rfl
    | some row =>
      obtain ⟨held,found,running,unsent,lease,deadline,early⟩ := executionStep_live holds ran
      exact .inr ⟨row.id,_,rfl,lane.live row lease found running deadline early,unsent,rfl,held⟩
  · refine executionStep_holds holds ?_ ran ?_
    · rintro target ⟨request,member,here⟩
      have started := valid.started request member
      rw [here] at started
      exact (lane.started target).mp started
    · rintro target ⟨request,member,here⟩
      cases sent with
      | none => exact .inl ⟨request,member,here⟩
      | some row =>
        rcases List.mem_cons.mp member with rfl | before
        · exact .inr ⟨row,rfl,lane.named here⟩
        · exact .inl ⟨request,before,here⟩
  · refine (executionStep_holding ran held).imp_right ?_
    rintro ⟨old,found,queued⟩ begun
    obtain ⟨row,stored,started⟩ := (lane.started id).mp begun
    cases found.symm.trans stored
    exact started queued

theorem processConnectionCheck_facts (valid : GatewayValid s) (holds : GatewayHolds s (.check worker))
    (taken : processConnectionCheck digests s worker event = some (next,memory)) :
    Shift (GatewayWorker.check worker).Holding s next ∧ GatewayHolds next (.check memory) ∧
      ∀ execution, (GatewayWorker.check memory).Holding execution →
        (GatewayWorker.check worker).Holding execution ∨ ¬s.Started execution := by
  obtain ⟨⟨checks,sent,memory⟩,ran,same⟩ := Option.map_eq_some_iff.mp taken
  cases same
  obtain ⟨requests,after,newly⟩ := (check_lane s).step valid holds ran
  refine ⟨⟨Nat.le_refl _,executionStep_moves ran,.same,.inr rfl,requests.imp_right ?_⟩,after,?_⟩
  · rintro ⟨id,request,same,live,unsent,here,held⟩
    exact ⟨request,same,live,unsent,by rw [here]; exact held⟩
  · rintro (id | id) held
    · exact newly id held
    · cases held

theorem processMetadataObservation_facts (valid : GatewayValid s) (holds : GatewayHolds s (.metadata worker))
    (taken : processMetadataObservation digests s worker event = some (next,memory)) :
    Shift (GatewayWorker.metadata worker).Holding s next ∧ GatewayHolds next (.metadata memory) ∧
      ∀ execution, (GatewayWorker.metadata memory).Holding execution →
        (GatewayWorker.metadata worker).Holding execution ∨ ¬s.Started execution := by
  obtain ⟨⟨observations,sent,memory⟩,ran,same⟩ := Option.map_eq_some_iff.mp taken
  cases same
  obtain ⟨requests,after,newly⟩ := (metadata_lane s).step valid holds ran
  refine ⟨⟨Nat.le_refl _,.same,executionStep_moves ran,.inl rfl,requests.imp_right ?_⟩,after,?_⟩
  · rintro ⟨id,request,same,live,unsent,here,held⟩
    exact ⟨request,same,live,unsent,by rw [here]; exact held⟩
  · rintro (id | id) held
    · cases held
    · exact newly id held

-- What is queued nobody holds.
theorem holding_started (holds : GatewayHolds s other) (held : other.Holding execution) : s.Started execution := by
  cases other with
  | check worker =>
    cases execution with
    | check id =>
      obtain ⟨running,here,rfl⟩ := held
      obtain ⟨lease,owned⟩ := holds.owned running here
      obtain ⟨row,found,started,_⟩ := owned.row
      exact ⟨row,found,started⟩
    | metadata id => cases held
  | metadata worker =>
    cases execution with
    | check id => cases held
    | metadata id =>
      obtain ⟨running,here,rfl⟩ := held
      obtain ⟨lease,owned⟩ := holds.owned running here
      obtain ⟨row,found,started,_⟩ := owned.row
      exact ⟨row,found,started⟩

-- A step of one worker, or of the catalog, disturbs no worker that holds other
-- executions.
theorem Shift.others (shift : Shift mine s next) (holds : GatewayHolds s other)
    (apart : ∀ execution, mine execution → ¬other.Holding execution) : GatewayHolds next other := by
  cases other with
  | check worker =>
    refine (Holds.move holds shift.checks ?_ ?_).later shift.clock
    · intro target held mine
      exact apart _ mine held
    · intro running here sent
      refine (shift.sent sent).resolve_right fun mine => apart _ mine ⟨running,?_,rfl⟩
      cases worker <;> first | exact here | cases here
  | metadata worker =>
    refine (Holds.move holds shift.observations ?_ ?_).later shift.clock
    · intro target held mine
      exact apart _ mine held
    · intro running here sent
      refine (shift.sent sent).resolve_right fun mine => apart _ mine ⟨running,?_,rfl⟩
      cases worker <;> first | exact here | cases here

-- An idle worker is idle for both processes.
theorem idle_holding (one two : GatewayWorker) (first : one = .check .idle ∨ one = .metadata .idle)
    (second : two = .check .idle ∨ two = .metadata .idle) : one.Holding = two.Holding := by
  have nothing (worker : GatewayWorker) (idle : worker = .check .idle ∨ worker = .metadata .idle)
      (execution : ExecutionRef) : ¬worker.Holding execution := by
    rintro held
    rcases idle with rfl | rfl
    · cases execution with
      | check target =>
        obtain ⟨_,here,_⟩ := held
        cases here
      | metadata target => cases held
    · cases execution with
      | check target => cases held
      | metadata target =>
        obtain ⟨_,here,_⟩ := held
        cases here
  funext execution
  exact propext (iff_of_false (nothing one first execution) (nothing two second execution))

theorem asCheck_same {worker : GatewayWorker} {check : CheckWorker} (taken : worker.asCheck = some check)
    (holds : GatewayHolds s worker) :
    GatewayHolds s (.check check) ∧ (GatewayWorker.check check).Holding = worker.Holding := by
  unfold GatewayWorker.asCheck at taken
  split at taken
  · cases taken
    exact ⟨holds,rfl⟩
  · cases taken
    exact ⟨Holds.free rfl rfl rfl,idle_holding _ _ (.inl rfl) (.inr rfl)⟩
  · cases taken

theorem asMetadata_same {worker : GatewayWorker} {metadata : MetadataWorker}
    (taken : worker.asMetadata = some metadata) (holds : GatewayHolds s worker) :
    GatewayHolds s (.metadata metadata) ∧ (GatewayWorker.metadata metadata).Holding = worker.Holding := by
  unfold GatewayWorker.asMetadata at taken
  split at taken
  · cases taken
    exact ⟨holds,rfl⟩
  · cases taken
    exact ⟨Holds.free rfl rfl rfl,idle_holding _ _ (.inr rfl) (.inl rfl)⟩
  · cases taken

-- One step of a worker, whichever of the two processes it runs.
theorem gatewayStep_facts (valid : GatewayValid s) (holds : GatewayHolds s worker)
    (taken : gatewayStep digests s worker event = some (next,memory)) :
    Shift worker.Holding s next ∧ GatewayHolds next memory ∧
      ∀ execution, memory.Holding execution → worker.Holding execution ∨ ¬s.Started execution := by
  cases event with
  | check event =>
    obtain ⟨check,asked,taken⟩ := Option.bind_eq_some_iff.mp taken
    obtain ⟨⟨store,after⟩,ran,same⟩ := Option.map_eq_some_iff.mp taken
    cases same
    obtain ⟨holds,same⟩ := asCheck_same asked holds
    rw [←same]
    exact processConnectionCheck_facts valid holds ran
  | metadata event =>
    obtain ⟨metadata,asked,taken⟩ := Option.bind_eq_some_iff.mp taken
    obtain ⟨⟨store,after⟩,ran,same⟩ := Option.map_eq_some_iff.mp taken
    cases same
    obtain ⟨holds,same⟩ := asMetadata_same asked holds
    rw [←same]
    exact processMetadataObservation_facts valid holds ran

end

def gatewayContract (digests : Digests) : Contract (modelGateway digests) where
  valid := GatewayValid
  holds := GatewayHolds
  apart := Apart
  rely := GatewayMoves
  symmetric := fun _ _ apart execution second first => apart execution first second
  idle := fun _ _ => Holds.free rfl rfl rfl
  idle_apart := by
    rintro memory (target | target) held
    · obtain ⟨_,here,_⟩ := held
      cases here
    · cases held
  transacted := by
    intro s transaction next valid taken
    have shift : Shift (fun _ => False) s next := commitGateway_shift taken
    exact ⟨shift.valid valid,shift.moves,fun memory holds => shift.others holds fun _ none => absurd none id⟩
  acted := by
    intro s memory event next memory' valid holds taken
    obtain ⟨shift,held,taking⟩ := gatewayStep_facts valid holds taken
    refine ⟨shift.valid valid,shift.moves,held,fun other others apart => ⟨shift.others others apart,?_⟩⟩
    intro execution newly theirs
    rcases taking execution newly with before | fresh
    · exact apart execution before theirs
    · exact fresh (holding_started others theirs)

theorem emptyGateway_valid (clock : Time) : GatewayValid (emptyGateway clock) := by
  refine ⟨List.nodup_nil,List.nodup_nil,?_,List.nodup_nil,?_⟩
  · intro reference one two first
    cases one with
    | check target =>
      obtain ⟨_,found,_⟩ := first
      cases found
    | metadata target =>
      obtain ⟨_,found,_⟩ := first
      cases found
  · intro request member
    cases member

theorem gateway_step_moves {s next : System GatewayStore GatewayWorker} (valid : (gatewayContract digests).Valid s)
    (taken : (modelGateway digests).advance s label = some next) : GatewayMoves s.store next.store := by
  rcases ((gatewayContract digests).step valid taken).2 with same | moves
  · rw [same]
    exact .refl _
  · exact moves

-- What is over stays as it was recorded, whoever comes late.
theorem gateway_terminal {s later : System GatewayStore GatewayWorker}
    (path : Runs (Enabled (modelGateway digests).advance) s labels later)
    (valid : (gatewayContract digests).Valid s) :
    (∀ target row, find (·.id) s.store.checks target = some row → checkExecution.terminal row.state = true →
      find (·.id) later.store.checks target = some row) ∧
    (∀ target row, find (·.id) s.store.observations target = some row →
      metadataExecution.terminal row.state = true → find (·.id) later.store.observations target = some row) := by
  induction path with
  | nil => exact ⟨fun _ _ found _ => found,fun _ _ found _ => found⟩
  | cons taken _ ih =>
    have moves := gateway_step_moves valid taken
    obtain ⟨checks,observations⟩ := ih ((gatewayContract digests).step valid taken).1
    constructor
    · intro target row found spent
      obtain ⟨row',found',rfl | turned⟩ := moves.checks target row found
      · exact checks target row' found' spent
      · cases turned.active.symm.trans spent
    · intro target row found spent
      obtain ⟨row',found',rfl | turned⟩ := moves.observations target row found
      · exact observations target row' found' spent
      · cases turned.active.symm.trans spent

-- Any number of workers of both kinds, from an empty gateway on: a request goes
-- out once for each execution and under its live claim, a row only turns as its
-- states allow, a connection serves one execution at a time, and what is over
-- stays as it is.
theorem model_connection_checks {s : System GatewayStore GatewayWorker}
    (path : Runs (Enabled (modelGateway digests).advance) ((modelGateway digests).initial (emptyGateway clock))
      labels s) :
    (s.store.requests.map (·.execution)).Nodup ∧
    (∀ reference one two, s.store.Occupies reference one → s.store.Occupies reference two → one = two) ∧
    (∀ label next, (modelGateway digests).advance s label = some next → GatewayMoves s.store next.store) ∧
    (∀ labels later, Runs (Enabled (modelGateway digests).advance) s labels later →
      (∀ target row, find (·.id) s.store.checks target = some row → checkExecution.terminal row.state = true →
        find (·.id) later.store.checks target = some row) ∧
      (∀ target row, find (·.id) s.store.observations target = some row →
        metadataExecution.terminal row.state = true → find (·.id) later.store.observations target = some row)) := by
  have valid := (gatewayContract digests).runs_valid path
    ((gatewayContract digests).initial_valid (emptyGateway_valid clock))
  have store : GatewayValid s.store := valid.store
  refine ⟨store.sentOnce,store.exclusive,?_,?_⟩
  · intro label next taken
    exact gateway_step_moves valid taken
  · intro labels later path
    exact gateway_terminal path valid

def sampleDigests : Digests := ⟨fun _ => "",fun _ _ => "",fun _ => "",fun _ _ _ _ => "",fun _ => ""⟩

def sampleDeployment : Deployment := ⟨1,"chat",1,.draft,.bailianCompatibleMode,"qwen",some "model-connection:a",none,none⟩

def sampleConnection : ConnectionDefinition :=
  ⟨"model-connection:a","v1","m1",.bailianCompatibleMode,.cnBeijing,"w",["qwen"],"secret-ref:a",[],[]⟩

def sampleSource : MetadataSourceDefinition :=
  ⟨"s","v1","model-connection:a",.bailianCompatibleMode,.cnBeijing,some "w","global",["qwen"],"p","secret-ref:b","m1"⟩

def sampleDirectories : Directories :=
  ⟨"DEV",some ⟨"DEV",[sampleConnection]⟩,some (some ⟨"DEV",[sampleSource]⟩)⟩

-- A check is answered while an observation of the same connection finds it busy.
def sampleLabels : List (Label GatewayTransaction GatewayEvent) :=
  [.transact (.create sampleDeployment),
    .transact (.acceptCheck sampleDirectories 1 1 "manager" .basicText 2),
    .transact (.acceptMetadata sampleDirectories 1 1 "" "manager" 3),
    .act 0 (.check (.read 2 sampleDirectories)),.act 0 (.check (.prepare (.ok ()) (.ok ()))),
    .act 0 (.check (.claim sampleDirectories (.ok ()) (.ok "m1") 4)),
    .act 1 (.metadata (.read 3 sampleDirectories)),.act 1 (.metadata (.prepare (.ok ()) (.ok ()))),
    .act 1 (.metadata (.claim sampleDirectories (.ok ()) (.ok "m1") 5)),
    .act 0 (.check .anchor),.act 0 (.check .look),.act 0 (.check .measure),
    .act 0 (.check .anchor),.act 0 (.check .look),.act 0 (.check .measure),
    .act 0 (.check .anchor),.act 0 (.check .look),.transact (.tick 1000),.act 0 (.check .measure),
    .act 0 (.check .send),.act 0 (.check (.answer ⟨.succeeded,none,noProbeEvidence⟩)),
    .act 0 (.check (.conclude (.ok "m1"))),.act 0 (.check .finish)]

def sampleGateway : System GatewayStore GatewayWorker :=
  (execute (modelGateway sampleDigests).advance ((modelGateway sampleDigests).initial (emptyGateway 0)) sampleLabels).get
    (by decide +kernel)

theorem model_connection_checks_answered :
    sampleGateway.store.requests.map (·.execution) = [.check 2] ∧
    sampleGateway.store.checks.map (fun row => (row.state,row.revision)) = [(.succeeded,3)] ∧
    sampleGateway.store.observations.map (fun row => (row.state,row.reason)) = [(.blocked,some .connectionBusy)] ∧
    ∀ labels later, Runs (Enabled (modelGateway sampleDigests).advance) sampleGateway labels later →
      ∀ target row, find (·.id) sampleGateway.store.checks target = some row →
        checkExecution.terminal row.state = true → find (·.id) later.store.checks target = some row := by
  refine ⟨by decide +kernel,by decide +kernel,by decide +kernel,?_⟩
  intro labels later path
  exact ((model_connection_checks (execute_get (by decide +kernel))).2.2.2 labels later path).1

end EngineeringPlatform.ModelGateway
