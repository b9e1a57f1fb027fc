import EngineeringPlatform.AgentDeliveryWrites
namespace EngineeringPlatform.Delivery
open Checked ClaimedRows SharedWorkers EngineeringPlatform.SourceControl TransitionRuns
variable {crypto : DeliveryCryptography} {policy : AgentDeliveryPolicy} {guarded : Prop}

-- Only a row that was never consumed is AUTHORIZED, and no completion says so.
def Sound : DeliveryWorker → Prop
  | .finishing _ completion => completion.state ≠ .authorized
  | _ => True

theorem Task.next_sound (task : Task) : Sound task.next := by
  unfold Task.next
  split <;> trivial

theorem nextTask_sound (claimed : List AgentPushRequest) : Sound (nextTask claimed) := by
  cases claimed <;> trivial

theorem nextRevocation_sound (claimed : List AgentDeliveryFence) : Sound (nextRevocation claimed) := by
  cases claimed <;> trivial

theorem pushed_sound (row : AgentPushRequest) (answer : BrokerAnswer) (now : Time) :
    Sound (pushed policy row answer now) := by
  unfold pushed
  split
  · exact fun absurd => by cases absurd
  · exact fun absurd => by cases absurd
  · exact fun absurd => by cases absurd
  · split
    · exact fun absurd => by cases absurd
    · trivial

theorem observed_sound (seen : observed policy task answer now = some memory) : Sound memory := by
  unfold observed at seen
  split at seen <;> cases seen
  · exact fun absurd => by cases absurd
  · exact fun absurd => by cases absurd
  · trivial

theorem judged_sound (task : Task) (head : String) (bindingValid fenced : Bool) (now : Time) :
    Sound (judged policy task head bindingValid fenced now) := by
  unfold judged
  split
  · split <;> trivial
  · split <;> exact fun absurd => by cases absurd

theorem afterConfirm_sound (task : Task) (head : String) (observedAt : Time) (row : AgentPushRequest) :
    Sound (afterConfirm task head observedAt row) := by
  unfold afterConfirm
  split
  · trivial
  · exact task.next_sound

theorem afterFence_sound (fence : AgentDeliveryFence) : Sound (afterFence fence) := by
  unfold afterFence
  split <;> trivial

theorem finishTask_write (valid : DeliveryValid crypto guarded s) {task : Task} (used : completion.state ≠ .authorized)
    (ran : task.finish completion now factId s = .ok (next,row)) :
    Write crypto guarded s next ∧ next.requests task.row.id = some row ∧
      ((∃ old, s.requests task.row.id = some old ∧ old.state = task.expected ∧ old.attempts = task.row.attempts ∧
        row = old.complete now completion) ∨
        next = s ∧ (row.state ≠ task.expected ∨ row.attempts ≠ task.row.attempts)) := by
  obtain ⟨claimed,rest⟩ := task
  cases rest with
  | none => exact finish_write valid rfl used ran
  | some rest => exact finish_write valid rfl used ran

-- Every step writes as a transaction does, or is the one call that pushes.
theorem deliveryStep_write (valid : DeliveryValid crypto guarded s) (sound : Sound memory)
    (safe : guarded → unraced s memory event = true)
    (taken : deliveryStep crypto policy s memory event = some (next,memory')) :
    Sound memory' ∧ (Write crypto guarded s next ∨
      ∃ row answer now, memory = .consumed row ∧ event = .push answer now ∧ next = s.push row.id) := by
  unfold deliveryStep at taken
  split at taken
  · split at taken
    · obtain ⟨_,_,same⟩ := toOption_map_some.mp taken
      cases same
      exact ⟨trivial,.inl (.none s)⟩
    · obtain ⟨_,ran,same⟩ := toOption_map_some.mp taken
      cases same
      exact ⟨trivial,.inl (authorizeAgentPush_write ran)⟩
  · obtain ⟨_,ran,same⟩ := toOption_map_some.mp taken
    cases same
    exact ⟨trivial,.inl (recordAgentPush_write (fun run => of_decide_eq_true (safe run)) ran)⟩
  · obtain ⟨row,found,same⟩ := Option.map_eq_some_iff.mp taken
    cases same
    refine ⟨?_,.inl (.none s)⟩
    split <;> trivial
  · split at taken <;> cases taken
    exact ⟨trivial,.inl (.none s)⟩
  · obtain ⟨⟨_,consumed⟩,ran,same⟩ := toOption_map_some.mp taken
    cases same
    refine ⟨?_,.inl (consumeGrant_write valid ran).1⟩
    cases consumed <;> trivial
  · cases taken
    exact ⟨pushed_sound _ _ _,.inr ⟨_,_,_,rfl,rfl,rfl⟩⟩
  · cases taken
    exact ⟨trivial,.inl (.none s)⟩
  · obtain ⟨⟨_,claimed⟩,ran,same⟩ := Option.map_eq_some_iff.mp taken
    cases same
    exact ⟨nextTask_sound claimed,.inl (claimReconcilable_write valid ran).1⟩
  · obtain ⟨seen,answered,same⟩ := Option.map_eq_some_iff.mp taken
    cases same
    exact ⟨observed_sound answered,.inl (.none s)⟩
  · cases taken
    exact ⟨judged_sound _ _ _ _ _,.inl (.none s)⟩
  · obtain ⟨⟨_,row⟩,ran,same⟩ := toOption_map_some.mp taken
    cases same
    exact ⟨Task.next_sound _,.inl (finishTask_write valid sound ran).1⟩
  · obtain ⟨⟨_,row⟩,ran,same⟩ := toOption_map_some.mp taken
    cases same
    have used : AgentPushState.succeeded ≠ .authorized := fun absurd => by cases absurd
    exact ⟨afterConfirm_sound _ _ _ _,.inl (finishTask_write valid used ran).1⟩
  · obtain ⟨⟨_,row⟩,ran,same⟩ := toOption_map_some.mp taken
    cases same
    have used : AgentPushState.fenced ≠ .authorized := fun absurd => by cases absurd
    exact ⟨trivial,.inl (finishTask_write valid used ran).1⟩
  · obtain ⟨⟨_,row⟩,ran,same⟩ := toOption_map_some.mp taken
    cases same
    exact ⟨trivial,.inl (recordFencedObservation_write valid ran).1⟩
  · cases taken
    exact ⟨Task.next_sound _,.inl (.none s)⟩
  · obtain ⟨_,_,same⟩ := toOption_map_some.mp taken
    cases same
    exact ⟨trivial,.inl (.none s)⟩
  · split at taken <;> cases taken
    exact ⟨afterFence_sound _,.inl (fenceAgentAttempt_write valid safe)⟩
  · obtain ⟨⟨_,claimed⟩,ran,same⟩ := Option.map_eq_some_iff.mp taken
    cases same
    exact ⟨nextRevocation_sound claimed,.inl (claimDueRevocations_write valid ran)⟩
  · cases taken
    exact ⟨trivial,.inl (.none s)⟩
  · cases taken
    exact ⟨nextRevocation_sound _,.inl (completeRevocation_write valid policy _ _ _ _)⟩
  · cases taken

theorem commitDelivery_write (taken : commitDelivery s transaction = some next) : Write crypto guarded s next := by
  cases transaction with
  | repository row =>
    cases taken
    exact .elsewhere _ _
  | branch row =>
    cases taken
    exact .elsewhere _ _

theorem afterFence_not_consumed (fence : AgentDeliveryFence) : afterFence fence ≠ .consumed row := by
  unfold afterFence
  split <;> intro absurd <;> cases absurd

-- A worker takes a grant into its hands only by consuming it.
theorem deliveryStep_consumed (valid : DeliveryValid crypto guarded s)
    (taken : deliveryStep crypto policy s memory event = some (next,.consumed row)) :
    (∃ old, s.requests row.id = some old ∧ old.state = .authorized) ∧ next.pushed = s.pushed ∧
      ∃ entry ∈ next.consumptions, entry.requestId = row.id := by
  have never {task : Task} : task.next ≠ .consumed row := by
    unfold Task.next
    split <;> intro absurd <;> cases absurd
  unfold deliveryStep at taken
  split at taken
  · split at taken <;> obtain ⟨_,_,same⟩ := toOption_map_some.mp taken <;> cases same
  · obtain ⟨_,_,same⟩ := toOption_map_some.mp taken
    cases same
  · obtain ⟨found,_,same⟩ := Option.map_eq_some_iff.mp taken
    split at same <;> cases same
  · split at taken <;> cases taken
  · obtain ⟨⟨_,consumed⟩,ran,same⟩ := toOption_map_some.mp taken
    cases consumed with
    | none => cases same
    | some new =>
      cases same
      have write := consumeGrant_write valid ran
      obtain ⟨same,unused,_,entry⟩ := write.2 _ rfl
      rw [same]
      exact ⟨unused,write.1.pushed,entry⟩
  · simp only [Option.some.injEq,Prod.mk.injEq,pushed] at taken
    obtain ⟨_,absurd⟩ := taken
    split at absurd <;> try cases absurd
    split at absurd <;> cases absurd
  · cases taken
  · obtain ⟨⟨_,claimed⟩,ran,same⟩ := Option.map_eq_some_iff.mp taken
    cases claimed <;> cases same
  · obtain ⟨seen,answered,same⟩ := Option.map_eq_some_iff.mp taken
    cases same
    unfold observed at answered
    split at answered <;> cases answered
  · simp only [Option.some.injEq,Prod.mk.injEq,judged] at taken
    obtain ⟨_,absurd⟩ := taken
    repeat' split at absurd
    all_goals cases absurd
  · obtain ⟨_,_,same⟩ := toOption_map_some.mp taken
    exact absurd (Prod.mk.inj same).2 never
  · obtain ⟨_,_,same⟩ := toOption_map_some.mp taken
    have after := (Prod.mk.inj same).2
    unfold afterConfirm at after
    split at after
    · cases after
    · exact absurd after never
  · obtain ⟨_,_,same⟩ := toOption_map_some.mp taken
    cases same
  · obtain ⟨_,_,same⟩ := toOption_map_some.mp taken
    cases same
  · exact absurd (Prod.mk.inj (Option.some.inj taken)).2 never
  · obtain ⟨_,_,same⟩ := toOption_map_some.mp taken
    cases same
  · split at taken
    · exact absurd (Prod.mk.inj (Option.some.inj taken)).2 (afterFence_not_consumed _)
    · cases taken
  · obtain ⟨⟨_,claimed⟩,_,same⟩ := Option.map_eq_some_iff.mp taken
    cases claimed <;> cases same
  · cases taken
  · rename_i rest now
    cases rest <;> cases taken
  · cases taken

structure PushValid (crypto : DeliveryCryptography) (guarded : Prop) (s : DeliveryStore) : Prop
    extends DeliveryValid crypto guarded s where
  pushedOnce : s.pushed.Nodup
  granted : ∀ id ∈ s.pushed, ∃ entry ∈ s.consumptions, entry.requestId = id

structure PushMoves (guarded : Prop) (s next : DeliveryStore) : Prop extends DeliveryMoves guarded s next where
  pushes : ∀ id ∈ s.pushed, id ∈ next.pushed

-- A consumed grant in a worker's hands has not been used yet.
def PushHolds (s : DeliveryStore) (memory : DeliveryWorker) : Prop :=
  Sound memory ∧ ∀ row, memory = .consumed row →
    (∃ entry ∈ s.consumptions, entry.requestId = row.id) ∧ row.id ∉ s.pushed

def PushApart (one two : DeliveryWorker) : Prop :=
  ∀ row row', one = .consumed row → two = .consumed row' → row.id ≠ row'.id

theorem pushApart_symmetric (one two : DeliveryWorker) (apart : PushApart one two) : PushApart two one :=
  fun row row' same same' clash => apart row' row same' same clash.symm

theorem pushApart_idle (memory : DeliveryWorker) : PushApart .idle memory := fun _ _ absurd => by cases absurd

theorem PushMoves.refl (s : DeliveryStore) : PushMoves guarded s s := ⟨.refl s,fun _ member => member⟩

theorem PushMoves.trans (first : PushMoves guarded one two) (second : PushMoves guarded two three) :
    PushMoves guarded one three :=
  ⟨first.toDeliveryMoves.trans second.toDeliveryMoves,fun id member => second.pushes id (first.pushes id member)⟩

theorem Write.pushValid (valid : PushValid crypto guarded s) (write : Write crypto guarded s next) :
    PushValid crypto guarded next := by
  refine ⟨write.valid valid.toDeliveryValid,?_,fun id member => ?_⟩
  · rw [write.pushed]
    exact valid.pushedOnce
  · rw [write.pushed] at member
    obtain ⟨entry,present,about⟩ := valid.granted id member
    exact ⟨entry,write.moves.grows entry present,about⟩

theorem Write.pushMoves (write : Write crypto guarded s next) : PushMoves guarded s next := by
  refine ⟨write.moves,fun id member => ?_⟩
  rw [write.pushed]
  exact member

theorem Write.pushHolds (write : Write crypto guarded s next) (holds : PushHolds s memory) : PushHolds next memory := by
  refine ⟨holds.1,fun row same => ?_⟩
  obtain ⟨⟨entry,present,about⟩,unused⟩ := holds.2 row same
  rw [write.pushed]
  exact ⟨⟨entry,write.moves.grows entry present,about⟩,unused⟩

theorem push_valid (valid : PushValid crypto guarded s) (granted : ∃ entry ∈ s.consumptions, entry.requestId = requestId)
    (unused : requestId ∉ s.pushed) : PushValid crypto guarded (s.push requestId) := by
  refine ⟨⟨valid.identified,valid.fenceIds,valid.once,valid.consumed,valid.covered,valid.facts,valid.factual,
    valid.confirmed⟩,?_,?_⟩
  · refine List.nodup_append.mpr ⟨valid.pushedOnce,by simp,fun id member id' single same => unused ?_⟩
    cases List.mem_singleton.mp single
    exact same ▸ member
  · intro id member
    rcases List.mem_append.mp member with old | new
    · exact valid.granted id old
    · cases List.mem_singleton.mp new
      exact granted

theorem push_moves (s : DeliveryStore) (requestId : Uuid) : PushMoves guarded s (s.push requestId) :=
  ⟨.still (.refl .refl _) (fun _ absent => absent) (.refl .refl _) rfl,fun _ member => List.mem_append_left _ member⟩

theorem pushed_not_consumed (row : AgentPushRequest) (answer : BrokerAnswer) (now : Time) :
    pushed policy row answer now ≠ .consumed row' := by
  unfold pushed
  split
  · exact fun absurd => by cases absurd
  · exact fun absurd => by cases absurd
  · exact fun absurd => by cases absurd
  · split <;> exact fun absurd => by cases absurd

-- One step of a worker.
theorem deliveryStep_spec (valid : PushValid crypto guarded s) (holds : PushHolds s memory)
    (safe : guarded → unraced s memory event = true)
    (taken : deliveryStep crypto policy s memory event = some (next,memory')) :
    PushValid crypto guarded next ∧ PushMoves guarded s next ∧ PushHolds next memory' ∧
      ∀ other, PushHolds s other → PushApart memory other → PushHolds next other ∧ PushApart memory' other := by
  obtain ⟨sound,wrote⟩ := deliveryStep_write valid.toDeliveryValid holds.1 safe taken
  rcases wrote with write | ⟨row,answer,now,rfl,rfl,rfl⟩
  · have fresh {row : AgentPushRequest} (same : memory' = .consumed row) :=
      deliveryStep_consumed valid.toDeliveryValid (same ▸ taken)
    -- A grant that is AUTHORIZED has no consumption, so nobody holds it.
    have unheld {row : AgentPushRequest} (same : memory' = .consumed row) :
        ∀ entry ∈ s.consumptions, entry.requestId ≠ row.id := by
      intro entry member about
      obtain ⟨old,found,unused⟩ := (fresh same).1
      obtain ⟨old',stored,used,_⟩ := valid.consumed entry member
      rw [about] at stored
      cases found.symm.trans stored
      exact used unused
    refine ⟨write.pushValid valid,write.pushMoves,⟨sound,fun row same => ⟨(fresh same).2.2,fun member => ?_⟩⟩,?_⟩
    · rw [(fresh same).2.1] at member
      obtain ⟨entry,present,about⟩ := valid.granted row.id member
      exact unheld same entry present about
    · intro other held _
      refine ⟨write.pushHolds held,fun row row' same same' clash => ?_⟩
      obtain ⟨⟨entry,present,about⟩,_⟩ := held.2 row' same'
      exact unheld same entry present (about.trans clash.symm)
  · obtain ⟨granted,unused⟩ := holds.2 row rfl
    cases taken
    refine ⟨push_valid valid granted unused,push_moves s row.id,⟨sound,fun row' same => ?_⟩,?_⟩
    · exact absurd same (pushed_not_consumed _ _ _)
    · intro other held apart
      refine ⟨⟨held.1,fun row' same => ?_⟩,fun row' _ same _ => absurd same (pushed_not_consumed _ _ _)⟩
      obtain ⟨granted',unused'⟩ := held.2 row' same
      refine ⟨granted',fun member => ?_⟩
      rcases List.mem_append.mp member with old | new
      · exact unused' old
      · exact apart row row' rfl same (List.mem_singleton.mp new).symm

def deliveryContract (crypto : DeliveryCryptography) (policy : AgentDeliveryPolicy) :
    Contract (deliveryProgram crypto policy) where
  valid := PushValid crypto False
  holds := PushHolds
  apart := PushApart
  rely := PushMoves False
  symmetric := pushApart_symmetric
  idle s _ := ⟨trivial,fun _ absurd => by cases absurd⟩
  idle_apart := pushApart_idle
  transacted s transaction next valid taken := by
    have write : Write crypto False s next := commitDelivery_write taken
    exact ⟨write.pushValid valid,write.pushMoves,fun _ held => write.pushHolds held⟩
  acted s memory event next memory' valid holds taken := deliveryStep_spec valid holds False.elim taken

theorem PushValid.initial : PushValid crypto guarded .initial :=
  ⟨.initial,List.nodup_nil,fun _ member => by cases member⟩

theorem delivery_initial_valid : (deliveryContract crypto policy).Valid deliveryInitial :=
  Contract.initial_valid _ .initial

theorem delivery_moves {s t : DeliverySystem}
    (path : Runs (Enabled (deliveryProgram crypto policy).advance) s labels t)
    (valid : (deliveryContract crypto policy).Valid s) : PushMoves False s.store t.store :=
  (deliveryContract crypto policy).runs_rely .refl (fun _ _ _ => .trans) path valid

abbrev UnracedStep (crypto : DeliveryCryptography) (policy : AgentDeliveryPolicy) :=
  Guarded (Program.Permitted (fun _ _ => True) fun s memory event => unraced s memory event = true)
    (Enabled (deliveryProgram crypto policy).advance)

def unracedProgram (crypto : DeliveryCryptography) (policy : AgentDeliveryPolicy) :=
  (deliveryProgram crypto policy).restrict (fun _ _ => True) fun s memory event => unraced s memory event = true

def unracedContract (crypto : DeliveryCryptography) (policy : AgentDeliveryPolicy) :
    Contract (unracedProgram crypto policy) where
  valid := PushValid crypto True
  holds := PushHolds
  apart := PushApart
  rely := PushMoves True
  symmetric := pushApart_symmetric
  idle s _ := ⟨trivial,fun _ absurd => by cases absurd⟩
  idle_apart := pushApart_idle
  transacted s transaction next valid taken := by
    have write : Write crypto True s next := commitDelivery_write (Program.restrict_transact _ taken).2
    exact ⟨write.pushValid valid,write.pushMoves,fun _ held => write.pushHolds held⟩
  acted s memory event next memory' valid holds taken := by
    obtain ⟨safe,taken⟩ := Program.restrict_act _ taken
    exact deliveryStep_spec valid holds (fun _ => safe) taken

theorem unraced_runs {s t : DeliverySystem} (path : Runs (UnracedStep crypto policy) s labels t) :
    Runs (Enabled (unracedProgram crypto policy).advance) s labels t :=
  path.mono fun _ _ _ taken => Program.restrict_advance _ taken.1 taken.2

-- The one consumption of a request's grant: the right grant, in time, and no fence
-- in the way.
def GrantConsumed (crypto : DeliveryCryptography) (s : DeliveryStore) (requestId : Uuid) : Prop :=
  ∃ row entry, s.requests requestId = some row ∧
    s.consumptions.filter (fun entry => entry.requestId = requestId) = [entry] ∧
    crypto.grantDigest entry.rawGrant = some row.grantDigest ∧ entry.consumedAt < row.spec.expiresAt ∧
    ∀ generation, entry.fencedGeneration = some generation → generation < row.spec.attemptGeneration

theorem PushValid.grantConsumed (valid : PushValid crypto guarded s)
    (consumed : ∃ entry ∈ s.consumptions, entry.requestId = requestId) : GrantConsumed crypto s requestId := by
  obtain ⟨entry,member,rfl⟩ := consumed
  obtain ⟨row,found,_,granted,unexpired,unfenced⟩ := valid.consumed entry member
  exact ⟨row,entry,found,KeyedRows.filter_key valid.once member,granted,unexpired,unfenced⟩

-- A request that a committed fence covers.
def Fenced (s : DeliveryStore) (row : AgentPushRequest) : Prop :=
  ∃ fence, s.fences row.spec.attemptId = some fence ∧ row.spec.attemptGeneration ≤ fence.fencedGeneration

theorem pushes_some {s : DeliverySystem} (pushing : pushes s label = some requestId) :
    ∃ worker answer now row, label = .act worker (.push answer now) ∧ s.workers worker = .consumed row ∧
      row.id = requestId := by
  unfold pushes at pushing
  split at pushing
  · split at pushing
    · rename_i row memory
      exact ⟨_,_,_,row,rfl,memory,Option.some.inj pushing⟩
    · cases pushing
  · cases pushing

theorem agent_push_delivery {s t : DeliverySystem} (reached : Runs (UnracedStep crypto policy) deliveryInitial before s)
    (continued : Runs (UnracedStep crypto policy) s after t) :
    (∀ label requestId middle, pushes s label = some requestId →
      (deliveryProgram crypto policy).advance s label = some middle →
      GrantConsumed crypto s.store requestId ∧ ∀ rest last later,
        Runs (Enabled (deliveryProgram crypto policy).advance) middle rest last → pushes last later ≠ some requestId) ∧
    (∀ id row, t.store.requests id = some row → Fenced s.store row →
      row.state.terminal = true ∧
      t.store.consumptions.filter (fun entry => entry.requestId = id) =
        s.store.consumptions.filter (fun entry => entry.requestId = id) ∧
      (row.state = .succeeded → ∃ old, s.store.requests id = some old ∧ old.state = .succeeded)) ∧
    (∀ id row, s.store.requests id = some row → row.state.terminal = true →
      ∃ row', t.store.requests id = some row' ∧ row'.state = row.state) ∧
    (∀ id row, t.store.requests id = some row →
      (t.store.facts.filter fun fact => fact.pushRequestId = id).length ≤ 1 ∧
      ((∃ fact ∈ t.store.facts, fact.pushRequestId = id ∧ fact.topic = .confirmed) ↔ row.state = .succeeded)) ∧
    (∀ attemptId fence, s.store.fences attemptId = some fence →
      ∃ fence', t.store.fences attemptId = some fence' ∧ fence.fencedGeneration ≤ fence'.fencedGeneration) := by
  have valid := (deliveryContract crypto policy).runs_valid reached.unguarded delivery_initial_valid
  have validHere := (unracedContract crypto policy).runs_valid (unraced_runs reached)
    (Contract.initial_valid _ PushValid.initial)
  have validNext := (unracedContract crypto policy).runs_valid (unraced_runs continued) validHere
  have moved : PushMoves True s.store t.store :=
    (unracedContract crypto policy).runs_rely .refl (fun _ _ _ => .trans) (unraced_runs continued) validHere
  have storeValid : PushValid crypto True s.store := validHere.store
  have nextValid : PushValid crypto True t.store := validNext.store
  refine ⟨?_,?_,?_,?_,?_⟩
  · intro label requestId middle pushing taken
    obtain ⟨worker,answer,now,row,rfl,memory,rfl⟩ := pushes_some pushing
    have held : PushHolds s.store (s.workers worker) := valid.holds worker
    refine ⟨storeValid.grantConsumed (held.2 row memory).1,?_⟩
    intro rest last later path again
    obtain ⟨worker',answer',now',row',rfl,memory',same⟩ := pushes_some again
    have validMiddle := ((deliveryContract crypto policy).step valid taken).1
    have held' : PushHolds last.store (last.workers worker') :=
      ((deliveryContract crypto policy).runs_valid path validMiddle).holds worker'
    have kept := delivery_moves path validMiddle
    refine (held'.2 row' memory').2 (kept.pushes _ ?_)
    rw [same]
    obtain ⟨⟨store,memory''⟩,acted,rfl⟩ := Option.map_eq_some_iff.mp taken
    have acted' : deliveryStep crypto policy s.store (s.workers worker) (.push answer now) = some (store,memory'') := acted
    rw [memory] at acted'
    cases acted'
    exact List.mem_append_right _ (List.mem_singleton.mpr rfl)
  · rintro id row stored ⟨fence,found,covered⟩
    cases old : s.store.requests id with
    | none =>
      have unfenced := moved.inserted trivial id row old stored
      simp only [isLocallyFenced,found,Option.any_some,AgentDeliveryFence.covers,decide_eq_false_iff_not] at unfenced
      exact absurd covered unfenced
    | some row' =>
      obtain ⟨new,kept,move⟩ := moved.rows id row' old
      cases stored.symm.trans kept
      rw [move.spec] at found covered
      have done := storeValid.covered trivial _ fence found id row' old rfl covered
      have same := move.terminal done
      refine ⟨by rw [same]; exact done,moved.consumptions id row' old done,fun succeeded => ⟨row',rfl,?_⟩⟩
      exact same.symm.trans succeeded
  · intro id row found done
    obtain ⟨row',stored,move⟩ := moved.rows id row found
    exact ⟨row',stored,move.terminal done⟩
  · intro id row found
    refine ⟨?_,?_,nextValid.confirmed id row found⟩
    · by_cases named : ∃ fact ∈ t.store.facts, fact.pushRequestId = id
      · obtain ⟨fact,member,rfl⟩ := named
        rw [KeyedRows.filter_key nextValid.facts member]
        exact Nat.le_refl _
      · rw [List.filter_eq_nil_iff.mpr fun fact member same => named ⟨fact,member,of_decide_eq_true same⟩]
        exact Nat.zero_le _
    · rintro ⟨fact,member,rfl,topic⟩
      obtain ⟨row',stored,⟨_,succeeded⟩ | ⟨other,_⟩⟩ := nextValid.factual fact member
      · cases found.symm.trans stored
        exact succeeded
      · cases topic.symm.trans other
  · intro attemptId fence found
    obtain ⟨fence',stored,_,raised⟩ := moved.fences attemptId fence found
    exact ⟨fence',stored,raised⟩

def sampleCryptography : DeliveryCryptography :=
  ⟨AgentPushRequestSpec.idempotencyKey,fun raw => if blank raw then none else some raw⟩

def samplePolicy : AgentDeliveryPolicy := ⟨100,fun now attempts => now + 5 * attempts⟩

def sampleProgram : Program DeliveryStore DeliveryWorker DeliveryTransaction DeliveryEvent :=
  deliveryProgram sampleCryptography samplePolicy

def sampleSpec : AgentPushRequestSpec :=
  ⟨"push","correlation",3,1,4,5,6,"repository",7,"task/1","base","target","content",[],50⟩

def sampleBinding (active : Bool) : AgentExecutionBindingSnapshot :=
  ⟨3,1,"binding",4,5,6,"repository",7,"task/1",active,false⟩

-- Worker 0 checks a request and finds no fence of its attempt.
def sampleAuthorize : List DeliveryLabel :=
  [.transact (.repository ⟨"repository",6,"project","path","main","connection","secret",.authorized,1,0⟩),
    .transact (.branch ⟨7,5,4,6,"repository",1,"base","task/1",8,0⟩),
    .act 0 (.authorize ⟨1,10,"grant",sampleBinding true⟩ sampleSpec)]

-- The request is inserted and its grant consumed.
def sampleConsume : List DeliveryLabel :=
  sampleAuthorize ++ [.act 0 .insert,.act 0 (.load 10),.act 0 (.validate (some (sampleBinding true))),
    .act 0 (.consume "grant" 2)]

def samplePush : DeliveryLabel := .act 0 (.push (.head "target") 3)

def sampleUnraced := unracedProgram sampleCryptography samplePolicy

def sampleConsumed : DeliverySystem := (execute sampleUnraced.advance deliveryInitial sampleConsume).get (by decide)

def sampleDeliver : List DeliveryLabel :=
  [samplePush,.act 0 (.validate (some (sampleBinding true))),.act 0 (.judge 4),.act 0 (.finish 4 20),
    .act 1 (.fence ⟨3,1,"LEASE_LOST","correlation"⟩ 5),.act 1 .raise]

def sampleDelivered : DeliverySystem := (execute sampleUnraced.advance sampleConsumed sampleDeliver).get (by decide)

theorem sampleUnraced_runs (path : Runs (Enabled sampleUnraced.advance) s labels t) :
    Runs (UnracedStep sampleCryptography samplePolicy) s labels t :=
  path.mono fun _ _ _ taken => Program.restrict_permitted _ taken

theorem agent_push_delivery_sample :
    GrantConsumed sampleCryptography sampleConsumed.store 10 ∧
      ∃ row fact, sampleDelivered.store.requests 10 = some row ∧ row.state = .succeeded ∧
        sampleDelivered.store.facts = [fact] ∧ fact.topic = .confirmed := by
  have reached : Runs (Enabled sampleUnraced.advance) deliveryInitial sampleConsume sampleConsumed :=
    execute_get (by decide)
  have continued : Runs (Enabled sampleUnraced.advance) sampleConsumed sampleDeliver sampleDelivered :=
    execute_get (by decide)
  have safe := agent_push_delivery (sampleUnraced_runs reached) (sampleUnraced_runs continued)
  cases taken : sampleProgram.advance sampleConsumed samplePush with
  | none => cases taken
  | some middle =>
    refine ⟨(safe.1 samplePush 10 middle rfl taken).1,_,_,rfl,?_,rfl,rfl⟩
    exact (safe.2.2.2.1 10 _ rfl).2.mp ⟨_,List.mem_singleton.mpr rfl,rfl,rfl⟩

-- The fence of the attempt commits between the check and the INSERT.
def sampleRace : List DeliveryLabel :=
  sampleAuthorize ++ [.act 1 (.fence ⟨3,1,"LEASE_LOST","correlation"⟩ 2),.act 1 .raise,.act 0 .insert]

def sampleRaced : DeliverySystem := (execute sampleProgram.advance deliveryInitial sampleRace).get (by decide)

theorem agent_push_delivery_raced :
    ¬ ∀ (labels : List DeliveryLabel) (s : DeliverySystem), Runs (Enabled sampleProgram.advance) deliveryInitial labels s →
      ∀ id row, s.store.requests id = some row → Fenced s.store row → row.state.terminal = true := by
  intro claim
  have reached : Runs (Enabled sampleProgram.advance) deliveryInitial sampleRace sampleRaced := execute_get (by decide)
  exact absurd (claim _ _ reached 10 _ rfl ⟨_,rfl,by decide⟩) (by decide)

def FencedIn (s : DeliveryStore) (requestId : Uuid) : Prop :=
  ∃ row, s.requests requestId = some row ∧ row.state = .fenced

-- A worker runs its fenced completion only on a request that is FENCED already or
-- still held by the worker's own claim.
def fencesOwn (s : DeliveryStore) : DeliveryWorker → DeliveryEvent → Bool
  | .fencing task _ _,.finish _ _ => (s.requests task.row.id).any fun row =>
      row.state = .fenced ∨ row.state = task.expected ∧ row.attempts = task.row.attempts
  | _,_ => true

abbrev FencingStep (crypto : DeliveryCryptography) (policy : AgentDeliveryPolicy) :=
  Guarded (Program.Permitted (fun _ _ => True) fun s memory event => fencesOwn s memory event = true)
    (Enabled (deliveryProgram crypto policy).advance)

def fencingProgram (crypto : DeliveryCryptography) (policy : AgentDeliveryPolicy) :=
  (deliveryProgram crypto policy).restrict (fun _ _ => True) fun s memory event => fencesOwn s memory event = true

def FreezeHolds (s : DeliveryStore) : DeliveryWorker → Prop
  | .recording task _ _ | .freezing task => FencedIn s task.row.id
  | _ => True

theorem FencedIn.kept (fenced : FencedIn s requestId) (moved : PushMoves guarded s next) : FencedIn next requestId := by
  obtain ⟨row,found,state⟩ := fenced
  obtain ⟨row',stored,move⟩ := moved.rows requestId row found
  exact ⟨row',stored,(move.terminal (by rw [state]; rfl)).trans state⟩

theorem FreezeHolds.kept (holds : FreezeHolds s memory) (moved : PushMoves guarded s next) : FreezeHolds next memory := by
  cases memory with
  | recording task head observedAt => exact FencedIn.kept holds moved
  | freezing task => exact FencedIn.kept holds moved
  | _ => trivial

theorem Task.next_freezes (task : Task) (s : DeliveryStore) : FreezeHolds s task.next := by
  unfold Task.next
  split <;> trivial

theorem afterFence_freezes (fence : AgentDeliveryFence) (s : DeliveryStore) : FreezeHolds s (afterFence fence) := by
  unfold afterFence
  split <;> trivial

-- A fenced completion within the condition leaves the request FENCED.
theorem finish_fenced (valid : DeliveryValid crypto guarded s) {task : Task}
    (own : fencesOwn s (.fencing task head observedAt) (.finish now factId) = true)
    (ran : task.finish (.fenced head observedAt) now factId s = .ok (next,row)) : FencedIn next task.row.id := by
  have used : AgentPushState.fenced ≠ .authorized := fun absurd => by cases absurd
  obtain ⟨_,stored,⟨old,_,_,_,rfl⟩ | ⟨rfl,lost⟩⟩ := finishTask_write valid used ran
  · exact ⟨_,stored,rfl⟩
  · obtain ⟨current,found,held⟩ := (Option.any_eq_true ..).mp own
    rcases of_decide_eq_true held with fenced | ⟨state,attempts⟩
    · exact ⟨current,found,fenced⟩
    · cases found.symm.trans stored
      exact absurd attempts (lost.resolve_left (not_not_intro state))

theorem deliveryStep_freezes (valid : DeliveryValid crypto guarded s) (holds : FreezeHolds s memory)
    (own : fencesOwn s memory event = true) (moved : PushMoves guarded s next)
    (taken : deliveryStep crypto policy s memory event = some (next,memory')) : FreezeHolds next memory' := by
  unfold deliveryStep at taken
  split at taken
  · split at taken <;> obtain ⟨_,_,same⟩ := toOption_map_some.mp taken <;> cases same <;> trivial
  · obtain ⟨_,_,same⟩ := toOption_map_some.mp taken
    cases same
    trivial
  · obtain ⟨found,_,same⟩ := Option.map_eq_some_iff.mp taken
    cases same
    split <;> trivial
  · split at taken <;> cases taken
    trivial
  · obtain ⟨⟨_,consumed⟩,_,same⟩ := toOption_map_some.mp taken
    cases same
    cases consumed <;> trivial
  · cases taken
    unfold pushed
    split <;> try trivial
    split <;> trivial
  · cases taken
    trivial
  · obtain ⟨⟨_,claimed⟩,_,same⟩ := Option.map_eq_some_iff.mp taken
    cases same
    cases claimed <;> trivial
  · obtain ⟨seen,answered,same⟩ := Option.map_eq_some_iff.mp taken
    cases same
    unfold observed at answered
    split at answered <;> cases answered <;> trivial
  · cases taken
    unfold judged
    split <;> split <;> trivial
  · obtain ⟨_,_,same⟩ := toOption_map_some.mp taken
    cases same
    exact Task.next_freezes _ _
  · obtain ⟨⟨_,row⟩,ran,same⟩ := toOption_map_some.mp taken
    cases same
    unfold afterConfirm
    split
    · rename_i fenced
      have used : AgentPushState.succeeded ≠ .authorized := fun absurd => by cases absurd
      exact ⟨row,(finishTask_write valid used ran).2.1,fenced⟩
    · exact Task.next_freezes _ _
  · obtain ⟨⟨_,row⟩,ran,same⟩ := toOption_map_some.mp taken
    cases same
    exact finish_fenced valid own ran
  · obtain ⟨_,_,same⟩ := toOption_map_some.mp taken
    cases same
    exact FencedIn.kept holds moved
  · cases taken
    exact Task.next_freezes _ _
  · obtain ⟨_,_,same⟩ := toOption_map_some.mp taken
    cases same
    trivial
  · split at taken <;> cases taken
    exact afterFence_freezes _ _
  · obtain ⟨⟨_,claimed⟩,_,same⟩ := Option.map_eq_some_iff.mp taken
    cases same
    cases claimed <;> trivial
  · cases taken
    trivial
  · rename_i rest now
    cases taken
    cases rest <;> trivial
  · cases taken

def freezeContract (crypto : DeliveryCryptography) (policy : AgentDeliveryPolicy) :
    Contract (fencingProgram crypto policy) where
  valid := PushValid crypto False
  holds s memory := PushHolds s memory ∧ FreezeHolds s memory
  apart := PushApart
  rely := PushMoves False
  symmetric := pushApart_symmetric
  idle s valid := ⟨(deliveryContract crypto policy).idle s valid,trivial⟩
  idle_apart := pushApart_idle
  transacted s transaction next valid taken := by
    have write : Write crypto False s next := commitDelivery_write (Program.restrict_transact _ taken).2
    exact ⟨write.pushValid valid,write.pushMoves,fun _ held => ⟨write.pushHolds held.1,held.2.kept write.pushMoves⟩⟩
  acted s memory event next memory' valid holds taken := by
    obtain ⟨own,taken⟩ := Program.restrict_act _ taken
    obtain ⟨validNext,moved,held,others⟩ := deliveryStep_spec valid holds.1 False.elim taken
    refine ⟨validNext,moved,⟨held,deliveryStep_freezes valid.toDeliveryValid holds.2 own moved taken⟩,?_⟩
    intro other known apart
    obtain ⟨kept,apart'⟩ := others other known.1 apart
    exact ⟨⟨kept,known.2.kept moved⟩,apart'⟩

theorem fencing_runs {s next : DeliverySystem} (path : Runs (FencingStep crypto policy) s labels next) :
    Runs (Enabled (fencingProgram crypto policy).advance) s labels next := by
  exact path.mono fun _ _ _ taken => Program.restrict_advance _ taken.1 taken.2

theorem delivered_branch_not_frozen {s : DeliverySystem}
    (reached : Runs (FencingStep crypto policy) deliveryInitial labels s)
    (freezing : freezes s label = some requestId) :
    ∃ row, s.store.requests requestId = some row ∧ row.state = .fenced ∧
      ∀ fact ∈ s.store.facts, fact.pushRequestId = requestId → fact.topic ≠ .confirmed := by
  have valid := (freezeContract crypto policy).runs_valid (fencing_runs reached)
    (Contract.initial_valid _ PushValid.initial)
  unfold freezes at freezing
  split at freezing
  · rename_i worker
    split at freezing
    · rename_i task memory
      cases freezing
      have held : FreezeHolds s.store (s.workers worker) := (valid.holds worker).2
      rw [memory] at held
      obtain ⟨row,found,fenced⟩ := held
      have storeValid : PushValid crypto False s.store := valid.store
      refine ⟨row,found,fenced,fun fact member about topic => ?_⟩
      obtain ⟨row',stored,⟨_,succeeded⟩ | ⟨other,_⟩⟩ := storeValid.factual fact member
      · rw [about] at stored
        cases found.symm.trans stored
        cases fenced.symm.trans succeeded
      · cases topic.symm.trans other
    · cases freezing
  · cases freezing

-- The binding is gone after the push, while the worker still holds its claim.
def sampleFence : List DeliveryLabel :=
  sampleConsume ++ [samplePush,.act 0 (.validate none),.act 0 (.judge 4),.act 0 (.finish 4 20),.act 0 (.record 4 20)]

-- The lease of worker 0 expires at 7: worker 1 delivers the request, then worker 0
-- finds the binding gone.
def sampleSupersede : List DeliveryLabel :=
  sampleConsume ++ [samplePush,.act 1 (.claim 5 10 [10]),.act 1 (.observe (.head "target") 10),.act 1 (.judge 10),
    .act 1 (.finish 11 21),.act 0 (.validate none),.act 0 (.judge 12),.act 0 (.finish 12 22),.act 0 (.record 12 22)]

def sampleFencing : DeliverySystem :=
  (execute (fencingProgram sampleCryptography samplePolicy).advance deliveryInitial sampleFence).get (by decide)

def sampleSuperseded : DeliverySystem := (execute sampleProgram.advance deliveryInitial sampleSupersede).get (by decide)

theorem delivered_branch_not_frozen_fenced :
    freezes sampleFencing (.act 0 .freeze) = some 10 ∧
      ∃ row, sampleFencing.store.requests 10 = some row ∧ row.state = .fenced := by
  have reached : Runs (Enabled (fencingProgram sampleCryptography samplePolicy).advance) deliveryInitial sampleFence
      sampleFencing := execute_get (by decide)
  have fencing : Runs (FencingStep sampleCryptography samplePolicy) deliveryInitial sampleFence sampleFencing :=
    reached.mono fun _ _ _ taken => Program.restrict_permitted _ taken
  have freezing : freezes sampleFencing (.act 0 .freeze) = some 10 := by decide
  obtain ⟨row,found,fenced,_⟩ := delivered_branch_not_frozen fencing freezing
  exact ⟨freezing,row,found,fenced⟩

theorem delivered_branch_frozen :
    ¬ ∀ (labels : List DeliveryLabel) (s : DeliverySystem) (label : DeliveryLabel) (requestId : Uuid),
      Runs (Enabled sampleProgram.advance) deliveryInitial labels s → freezes s label = some requestId →
      ∃ row, s.store.requests requestId = some row ∧ row.state = .fenced ∧
        ∀ fact ∈ s.store.facts, fact.pushRequestId = requestId → fact.topic ≠ .confirmed := by
  intro claim
  have reached : Runs (Enabled sampleProgram.advance) deliveryInitial sampleSupersede sampleSuperseded :=
    execute_get (by decide)
  obtain ⟨row,found,fenced,_⟩ := claim _ _ (.act 0 .freeze) 10 reached (by decide)
  cases found
  revert fenced
  decide

end EngineeringPlatform.Delivery
