import EngineeringPlatform.EvidenceSteps
namespace EngineeringPlatform.Evidence
open Checked EngineeringPlatform.SourceControl Integration KeyLocks SharedWorkers TransitionRuns

def EvidenceWorker.transaction : EvidenceWorker → Option Transaction
  | .idle => none
  | .delivering _ transaction _ | .requesting _ transaction _ | .generating _ transaction _ => some transaction

def EvidenceWorker.Facts (texts : EvidenceTexts) (s : EvidenceStore) : EvidenceWorker → Prop
  | .idle => True
  | .delivering d transaction phase => prepared texts d.envelope = .ok d ∧ DeliveryFacts texts s d transaction.writes phase
  | .requesting envelope transaction phase => RequestFacts s envelope transaction.writes phase
  | .generating g transaction phase => GenerationFacts texts s g transaction phase

-- What a worker knows holds as long as the server has not ended its transaction.
structure Knows (texts : EvidenceTexts) (s : EvidenceStore) (worker : EvidenceWorker) : Prop where
  begun : ∀ transaction ∈ worker.transaction, transaction.id < s.locks.begun ∧ transaction.began ≤ s.moment
  facts : ∀ transaction ∈ worker.transaction, transaction.id ∈ s.locks.live →
    Pending s transaction ∧ worker.Facts texts s

def Apart (one two : EvidenceWorker) : Prop :=
  ∀ first ∈ one.transaction, ∀ second ∈ two.transaction, first.id ≠ second.id

theorem apart_symmetric (one two : EvidenceWorker) (apart : Apart one two) : Apart two one :=
  fun first member second member' => (apart second member' first member).symm

theorem apart_idle (memory : EvidenceWorker) : Apart .idle memory := fun _ member => by cases member

-- A step of the worker whose transaction is `id`.
structure Stepped (texts : EvidenceTexts) (s : EvidenceStore) (id : Nat) (next : EvidenceStore) (worker : EvidenceWorker) :
    Prop where
  valid : StoreValid texts next
  grows : Grows s next
  others : ∀ other, other ≠ id → other < s.locks.begun → Elsewhere other s next
  knows : Knows texts next worker
  own : ∀ transaction ∈ worker.transaction, transaction.id = id

-- How an answer comes about: a commit, or an exception that changes no table.
inductive Answering (texts : EvidenceTexts) (storable : ExternalValidationReference → Bool) (s : EvidenceStore) :
    EvidenceWorker → EvidenceEvent → EvidenceStore → Answered → Prop where
  | delivered (live : transaction.id ∈ s.locks.live) :
    Answering texts storable s (.delivering d transaction (.committing answer)) (.statement input) (s.commit transaction)
      (.delivered d.envelope answer)
  | unprepared (failed : prepared texts envelope = .error error) :
    Answering texts storable s .idle (.deliver envelope) s (.delivered envelope (.failed error))
  | raised (live : transaction.id ∈ s.locks.live)
    (ran : d.statement texts storable input.now transaction s phase = .raises error)
    (final : ¬(error = .stale ∧ phase.accepting = true)) :
    Answering texts storable s (.delivering d transaction phase) (.statement input) (s.rollback transaction)
      (.delivered d.envelope (.failed error))
  | requested (live : transaction.id ∈ s.locks.live) :
    Answering texts storable s (.requesting envelope transaction .committing) (.statement input) (s.commit transaction)
      (.requested envelope none)
  | unrequested (live : transaction.id ∈ s.locks.live) (ran : envelope.statement input.now transaction s phase = .raises error) :
    Answering texts storable s (.requesting envelope transaction phase) (.statement input) (s.rollback transaction)
      (.requested envelope (some error))
  | generated (live : transaction.id ∈ s.locks.live) :
    Answering texts storable s (.generating g transaction (.committing generated)) (.statement input) (s.commit transaction)
      (.generated g generated)
  | ungenerated : Answering texts storable s (.generating g transaction phase) (.statement input) (s.rollback transaction)
      (.generated g (.failed error))

section
variable {texts : EvidenceTexts} {storable : ExternalValidationReference → Bool} {s next : EvidenceStore}
  {worker : EvidenceWorker} {transaction : Transaction} {g : Generation} {d : Delivery}

theorem idle_knows : Knows texts s .idle :=
  ⟨(fun _ member => by cases member),fun _ member => by cases member⟩

theorem moment_later (grown : s.moments <+: next.moments) : s.moment ≤ next.moment := by
  have long := grown.length_le
  simp only [EvidenceStore.moments,List.length_append,List.length_reverse,List.length_singleton] at long
  exact Nat.le_of_succ_le_succ long

theorem EvidenceWorker.Facts.later (valid : StoreValid texts s) (mine : worker.transaction = some transaction)
    (pending : Pending s transaction) (moved : Elsewhere transaction.id s next) (facts : worker.Facts texts s) :
    worker.Facts texts next := by
  cases worker with
  | idle => exact facts
  | delivering d _ phase => exact ⟨facts.1,facts.2.later moved.grows⟩
  | requesting envelope other phase =>
    cases mine
    exact RequestFacts.later moved facts
  | generating g other phase =>
    cases mine
    exact GenerationFacts.later valid pending moved facts

theorem Knows.later (valid : StoreValid texts s) (knows : Knows texts s worker)
    (moved : ∀ transaction ∈ worker.transaction, Elsewhere transaction.id s next) : Knows texts next worker := by
  refine ⟨fun transaction member => ?_,fun transaction member live => ?_⟩
  · obtain ⟨begun,began⟩ := knows.begun transaction member
    exact ⟨Nat.lt_of_lt_of_le begun (moved transaction member).begun,
      Nat.le_trans began (moment_later (moved transaction member).grows.moments)⟩
  · obtain ⟨pending,facts⟩ := knows.facts transaction member ((moved transaction member).live live)
    exact ⟨(moved transaction member).pending _ pending,facts.later valid member pending (moved transaction member)⟩

theorem StoreValid.locked {locks : Locks EvidenceKey} (valid : StoreValid texts s) (exclusive : locks.Exclusive) :
    StoreValid texts {s with locks} := ⟨exclusive,valid.bindings,valid.tables,valid.proven⟩

theorem grows_locked {locks : Locks EvidenceKey} : Grows s {s with locks} :=
  ⟨List.prefix_refl _,List.prefix_refl _,List.prefix_refl _,.refl .refl _,fun _ _ => rfl,
    fun binding member => ⟨binding.supersededAt,member⟩,List.prefix_refl _,List.prefix_refl _⟩

theorem stepped_still {id : Nat} (valid : StoreValid texts s) : Stepped texts s id s .idle :=
  ⟨valid,.refl s,fun _ _ _ => .refl _ s,idle_knows,fun _ member => by cases member⟩

theorem stepped_rollback (valid : StoreValid texts s) :
    Stepped texts s transaction.id (s.rollback transaction) .idle :=
  ⟨valid.locked valid.exclusive.finish,grows_locked,fun _ differs _ => elsewhere_finish differs,idle_knows,
    fun _ member => by cases member⟩

theorem stepped_commit (valid : StoreValid texts s) (pending : Pending s transaction) (ready : Ready texts s transaction) :
    Stepped texts s transaction.id (s.commit transaction) .idle :=
  ⟨(commit_valid valid pending ready).1,(commit_valid valid pending ready).2,
    fun _ differs _ => elsewhere_commit valid pending ready differs,idle_knows,fun _ member => by cases member⟩

-- The transaction goes on with its next statement.
theorem stepped_goes {keys : List EvidenceKey} {writes : List EvidenceWrite} (valid : StoreValid texts s)
    (live : transaction.id ∈ s.locks.live) (begun : transaction.id < s.locks.begun ∧ transaction.began ≤ s.moment)
    (mine : worker.transaction = some (transaction.write writes))
    (free : ∀ key ∈ keys, s.locks.Free transaction.id key)
    (pending : Pending (s.take transaction keys) (transaction.write writes)) (facts : worker.Facts texts (s.take transaction keys)) :
    Stepped texts s transaction.id (s.take transaction keys) worker := by
  refine ⟨valid.locked (valid.exclusive.take live free),grows_locked,fun _ _ _ => elsewhere_take,
    ⟨fun other member => ?_,fun other member _ => ?_⟩,fun other member => ?_⟩
  · cases mine.symm.trans member
    exact begun
  · cases mine.symm.trans member
    exact ⟨pending,facts⟩
  · cases mine.symm.trans member
    rfl

theorem delivery_step (pursued : ∀ answer, phase ≠ .committing answer) :
    deliveryProgress texts storable s d transaction now phase =
      match d.statement texts storable now transaction s phase with
      | .waits => none
      | .raises error =>
        if error = .stale ∧ phase.accepting then some ⟨s,.delivering d transaction .rejection,none⟩
        else some ⟨s.rollback transaction,.idle,some (.delivered d.envelope (.failed error))⟩
      | .goes keys writes next => some ⟨s.take transaction keys,.delivering d (transaction.write writes) next,none⟩ := by
  cases phase with
  | committing answer => exact absurd rfl (pursued answer)
  | _ => rfl

theorem delivery_stepped (valid : StoreValid texts s) (live : transaction.id ∈ s.locks.live)
    (knows : Knows texts s (.delivering d transaction phase))
    (ran : deliveryProgress texts storable s d transaction now phase = some done) :
    Stepped texts s transaction.id done.store done.worker := by
  obtain ⟨pending,ready,facts⟩ := knows.facts transaction rfl live
  have begun := knows.begun transaction rfl
  by_cases last : ∃ answer, phase = .committing answer
  · obtain ⟨answer,rfl⟩ := last
    cases ran
    exact stepped_commit valid pending (Committing.ready facts ready)
  · rw [delivery_step fun answer same => last ⟨answer,same⟩] at ran
    split at ran
    · cases ran
    · rename_i error raised
      split at ran
      · rename_i stale
        cases ran
        obtain ⟨rfl,accepting⟩ := stale
        have tried := delivery_stale facts accepting raised
        exact ⟨valid,.refl s,fun _ _ _ => .refl _ s,⟨fun _ member => by cases member; exact begun,
          fun _ member _ => by cases member; exact ⟨pending,ready,tried⟩⟩,fun _ member => by cases member; rfl⟩
      · cases ran
        exact stepped_rollback valid
    · rename_i keys writes next' went
      cases ran
      obtain ⟨free,pending',facts'⟩ := delivery_goes valid pending facts went
      exact stepped_goes valid live begun rfl free pending' ⟨ready,facts'.later grows_locked⟩

theorem request_step {envelope : IntegrationBaselineRequestEnvelope} {phase : RequestPhase} (pursued : phase ≠ .committing) :
    requestProgress s envelope transaction now phase =
      match envelope.statement now transaction s phase with
      | .waits => none
      | .raises error => some ⟨s.rollback transaction,.idle,some (.requested envelope (some error))⟩
      | .goes keys writes next => some ⟨s.take transaction keys,.requesting envelope (transaction.write writes) next,none⟩ := by
  cases phase with
  | committing => exact absurd rfl pursued
  | _ => rfl

theorem request_stepped {envelope : IntegrationBaselineRequestEnvelope} {phase : RequestPhase} (valid : StoreValid texts s)
    (live : transaction.id ∈ s.locks.live) (knows : Knows texts s (.requesting envelope transaction phase))
    (ran : requestProgress s envelope transaction now phase = some done) :
    Stepped texts s transaction.id done.store done.worker := by
  obtain ⟨pending,facts⟩ := knows.facts transaction rfl live
  have begun := knows.begun transaction rfl
  by_cases last : phase = .committing
  · subst last
    cases ran
    exact stepped_commit valid pending (request_ready pending facts)
  · rw [request_step last] at ran
    split at ran
    · cases ran
    · cases ran
      exact stepped_rollback valid
    · rename_i keys writes next' went
      cases ran
      obtain ⟨free,pending',facts'⟩ := request_goes pending facts went last
      have moved : Elsewhere transaction.id s (s.take transaction keys) := elsewhere_take
      exact stepped_goes valid live begun rfl free pending' (RequestFacts.later moved facts')

theorem Claimed.savepoint (claimed : Claimed s g transaction.id pair) :
    Claimed (s.rollbackToSavepoint transaction g.messageId) g transaction.id pair :=
  ⟨⟨keep_holds.mpr ⟨claimed.locked.holds,.inr (List.mem_singleton_self _)⟩,claimed.locked.stored⟩,claimed.unprocessed,
    claimed.row⟩

theorem GenerationFacts.claimed (facts : GenerationFacts texts s g transaction phase)
    (made : phase.claimed = some pair) : Claimed s g transaction.id pair := by
  cases phase with
  | validating _ | lost _ _ | storing _ _ _ | completing _ _ _ | readingBack _ _ =>
    cases made
    exact facts.1
  | collecting _ _ _ | matching _ _ _ _ _ | revalidating _ _ | inserting _ _ =>
    cases made
    exact facts.1.1
  | locking | processed _ | claiming _ | failing _ _ | committing _ => cases made

-- After ROLLBACK TO SAVEPOINT the transaction has written nothing and holds the
-- request's lock.
theorem stepped_savepoint (valid : StoreValid texts s)
    (begun : transaction.id < s.locks.begun ∧ transaction.began ≤ s.moment) (claimed : Claimed s g transaction.id pair) :
    Stepped texts s transaction.id (s.rollbackToSavepoint transaction g.messageId)
      (.generating g {transaction with writes := []} (.failing pair error)) := by
  refine ⟨valid.locked valid.exclusive.keep,grows_locked,fun _ differs _ => elsewhere_savepoint differs,
    ⟨fun other member => ?_,fun other member _ => ?_⟩,fun other member => ?_⟩
  · cases member
    exact begun
  · cases member
    exact ⟨.none valid.tables.keys,claimed.savepoint,rfl⟩
  · cases member
    rfl

theorem generation_step {phase : GenerationPhase} (pursued : ∀ generated, phase ≠ .committing generated) :
    generationProgress texts s g transaction input phase =
      match g.statement texts input transaction s phase with
      | .waits => none
      | .raises error =>
        match phase.claimed.filter fun _ => g.candidate with
        | some claimed =>
          some ⟨s.rollbackToSavepoint transaction g.messageId,
            .generating g {transaction with writes := []} (.failing claimed error),none⟩
        | none => some ⟨s.rollback transaction,.idle,some (.generated g (.failed error))⟩
      | .goes keys writes next => some ⟨s.take transaction keys,.generating g (transaction.write writes) next,none⟩ := by
  cases phase with
  | committing generated => exact absurd rfl (pursued generated)
  | _ => rfl

theorem generation_stepped {phase : GenerationPhase} (valid : StoreValid texts s) (live : transaction.id ∈ s.locks.live)
    (knows : Knows texts s (.generating g transaction phase))
    (ran : generationProgress texts s g transaction input phase = some done) :
    Stepped texts s transaction.id done.store done.worker := by
  obtain ⟨pending,facts⟩ := knows.facts transaction rfl live
  have begun := knows.begun transaction rfl
  by_cases last : ∃ generated, phase = .committing generated
  · obtain ⟨generated,rfl⟩ := last
    cases ran
    exact stepped_commit valid pending (GenerationDone.ready facts)
  · rw [generation_step fun generated same => last ⟨generated,same⟩] at ran
    split at ran
    · cases ran
    · split at ran
      · rename_i pair made
        cases ran
        exact stepped_savepoint valid begun (facts.claimed (Option.filter_eq_some_iff.mp made).1)
      · cases ran
        exact stepped_rollback valid
    · rename_i keys writes next' went
      cases ran
      obtain ⟨free,pending',facts'⟩ := generation_goes valid pending begun.2 facts went
      exact stepped_goes valid live begun rfl free pending' facts'

-- A transaction that begins.
theorem stepped_begin (valid : StoreValid texts s) (mine : worker.transaction = some s.transaction)
    (facts : worker.Facts texts s.begin) : Stepped texts s s.locks.begun s.begin worker := by
  refine ⟨valid.locked valid.exclusive.start,grows_locked,fun _ _ before => elsewhere_begin before,
    ⟨fun other member => ?_,fun other member _ => ?_⟩,fun other member => ?_⟩
  · cases mine.symm.trans member
    exact ⟨Nat.lt_succ_self _,Nat.le_refl _⟩
  · cases mine.symm.trans member
    exact ⟨.none valid.tables.keys,facts⟩
  · cases mine.symm.trans member
    rfl

theorem prepared_ok (ran : prepared texts envelope = .ok d) : d.envelope = envelope ∧
    ExternalValidationReference.modelValidate texts envelope.validation = .ok d.validation := by
  unfold prepared at ran
  obtain ⟨validation,read,ran⟩ := bind_ok.mp ran
  cases pure_ok.mp ran
  exact ⟨rfl,read⟩

def EvidenceWorker.stepsAs (s : EvidenceStore) (worker : EvidenceWorker) : Nat :=
  (worker.transaction.map Transaction.id).getD s.locks.begun

theorem evidence_stepped (valid : StoreValid texts s) (knows : Knows texts s worker)
    (ran : evidenceProgress texts storable s worker event = some done) :
    Stepped texts s (worker.stepsAs s) done.store done.worker := by
  unfold evidenceProgress at ran
  split at ran
  · split at ran
    · rename_i ready
      cases ran
      have same := (prepared_ok ready).1
      exact stepped_begin valid rfl ⟨same ▸ ready,rfl⟩
    · cases ran
      exact stepped_still valid
  · cases ran
    exact stepped_begin valid rfl (.open .select (by decide))
  · cases ran
    exact stepped_begin valid rfl rfl
  · split at ran
    · rename_i live
      exact delivery_stepped valid live knows ran
    · cases ran
      exact stepped_still valid
  · split at ran
    · rename_i live
      exact request_stepped valid live knows ran
    · cases ran
      exact stepped_still valid
  · split at ran
    · rename_i live
      exact generation_stepped valid live knows ran
    · cases ran
      exact stepped_still valid
  · cases ran

theorem abort_elsewhere {id : Nat} : Knows texts s worker → StoreValid texts s →
    Knows texts {s with locks := s.locks.finish id} worker := by
  intro knows valid
  refine ⟨knows.begun,fun transaction member live => ?_⟩
  obtain ⟨differs,live⟩ := finish_live.mp live
  obtain ⟨pending,facts⟩ := knows.facts transaction member live
  have moved : Elsewhere transaction.id s {s with locks := s.locks.finish id} := elsewhere_finish differs
  exact ⟨moved.pending _ pending,facts.later valid member pending moved⟩

theorem change_stepped (valid : StoreValid texts s) (changed : s.change change = some next) :
    StoreValid texts next ∧ Grows s next ∧ ∀ worker, Knows texts s worker → Knows texts next worker := by
  cases change with
  | mergeRequests m =>
    dsimp only [EvidenceStore.change] at changed
    split at changed
    · rename_i follows
      cases changed
      obtain ⟨validNext,moved⟩ := change_valid valid follows
      exact ⟨validNext,(moved 0).grows,fun worker knows => knows.later valid fun transaction _ => moved transaction.id⟩
    · cases changed
  | abort id =>
    cases changed
    exact ⟨valid.locked valid.exclusive.finish,grows_locked,fun worker knows => abort_elsewhere knows valid⟩

theorem initial_valid : StoreValid texts .initial :=
  ⟨none_exclusive,List.nodup_nil,⟨List.nodup_nil,(fun _ member => by cases member),(fun _ member => by cases member),
    (fun _ member => by cases member),(fun _ member => by cases member),fun _ _ found => by cases found⟩,
    fun _ member => by cases member⟩

theorem delivery_answering (live : transaction.id ∈ s.locks.live)
    (ran : deliveryProgress texts storable s d transaction input.now phase = some done)
    (answered : done.answered = some answer) :
    Answering texts storable s (.delivering d transaction phase) (.statement input) done.store answer := by
  by_cases last : ∃ answer, phase = .committing answer
  · obtain ⟨answer,rfl⟩ := last
    cases ran
    cases answered
    exact .delivered live
  · rw [delivery_step fun answer same => last ⟨answer,same⟩] at ran
    split at ran
    · cases ran
    · rename_i error raised
      split at ran
      · cases ran
        cases answered
      · rename_i final
        cases ran
        cases answered
        exact .raised live raised final
    · cases ran
      cases answered

theorem request_answering {envelope : IntegrationBaselineRequestEnvelope} {phase : RequestPhase}
    (live : transaction.id ∈ s.locks.live)
    (ran : requestProgress s envelope transaction input.now phase = some done) (answered : done.answered = some answer) :
    Answering texts storable s (.requesting envelope transaction phase) (.statement input) done.store answer := by
  by_cases last : phase = .committing
  · subst last
    cases ran
    cases answered
    exact .requested live
  · rw [request_step last] at ran
    split at ran
    · cases ran
    · rename_i error raised
      cases ran
      cases answered
      exact .unrequested live raised
    · cases ran
      cases answered

theorem generation_answering {phase : GenerationPhase} (live : transaction.id ∈ s.locks.live)
    (ran : generationProgress texts s g transaction input phase = some done) (answered : done.answered = some answer) :
    Answering texts storable s (.generating g transaction phase) (.statement input) done.store answer := by
  by_cases last : ∃ generated, phase = .committing generated
  · obtain ⟨generated,rfl⟩ := last
    cases ran
    cases answered
    exact .generated live
  · rw [generation_step fun generated same => last ⟨generated,same⟩] at ran
    split at ran
    · cases ran
    · split at ran
      · cases ran
        cases answered
      · cases ran
        cases answered
        exact .ungenerated
    · cases ran
      cases answered

theorem answering (ran : evidenceProgress texts storable s worker event = some done)
    (answered : done.answered = some answer) : Answering texts storable s worker event done.store answer := by
  unfold evidenceProgress at ran
  split at ran
  · split at ran
    · cases ran
      cases answered
    · rename_i failed
      cases ran
      cases answered
      exact .unprepared failed
  · cases ran
    cases answered
  · cases ran
    cases answered
  · split at ran
    · rename_i live
      exact delivery_answering live ran answered
    · cases ran
      cases answered
  · split at ran
    · rename_i live
      exact request_answering live ran answered
    · cases ran
      cases answered
  · split at ran
    · rename_i live
      exact generation_answering live ran answered
    · cases ran
      cases answered
  · cases ran

end

variable (texts : EvidenceTexts) (storable : ExternalValidationReference → Bool)

def evidenceContract : Contract (evidenceProgram texts storable) where
  valid := StoreValid texts
  holds := Knows texts
  apart := Apart
  rely := Grows
  symmetric := apart_symmetric
  idle _ _ := idle_knows
  idle_apart := apart_idle
  transacted _ _ _ valid changed := change_stepped valid changed
  acted s worker event next worker' valid knows ran := by
    obtain ⟨done,progressed,same⟩ := Option.map_eq_some_iff.mp ran
    cases same
    have stepped := evidence_stepped valid knows progressed
    refine ⟨stepped.valid,stepped.grows,stepped.knows,fun other known apart => ?_⟩
    have differs (transaction : Transaction) (member : transaction ∈ other.transaction) :
        transaction.id ≠ worker.stepsAs s := by
      unfold EvidenceWorker.stepsAs
      cases mine : worker.transaction with
      | none => exact Nat.ne_of_lt (known.begun transaction member).1
      | some own => exact (apart own mine transaction member).symm
    refine ⟨known.later valid fun transaction member =>
      stepped.others _ (differs transaction member) (known.begun transaction member).1,?_⟩
    intro own member transaction there same
    exact differs transaction there (same.symm.trans (stepped.own own member))

end EngineeringPlatform.Evidence
