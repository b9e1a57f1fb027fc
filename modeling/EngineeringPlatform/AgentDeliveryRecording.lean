import EngineeringPlatform.AgentDeliverySafety
namespace EngineeringPlatform.Delivery
open Checked ClaimedRows SharedWorkers EngineeringPlatform.SourceControl TransitionRuns
variable {crypto : DeliveryCryptography} {policy : AgentDeliveryPolicy} {guarded : Prop}

def FencedFact (s : DeliveryStore) (requestId : Uuid) : Prop :=
  ∃ fact ∈ s.facts, fact.pushRequestId = requestId ∧ fact.topic = .fenced

def AgentPushRequest.reached (row : AgentPushRequest) : Bool := row.remoteHeadSha = some row.spec.targetCommitSha

-- A fenced push that reached the remote has its fact, or is still there to claim.
def FencedRecorded (s : DeliveryStore) : Prop :=
  ∀ id row, s.requests id = some row → row.state = .fenced → row.reached = true →
    FencedFact s id ∨ ∃ now, reconcilable now row = true

-- A worker runs its fenced completion only on a request that is no longer held by
-- the worker's own claim: a fence or another worker was there first.
def fencesLate (s : DeliveryStore) : DeliveryWorker → DeliveryEvent → Bool
  | .fencing task _ _,.finish _ _ => (s.requests task.row.id).all fun row =>
      ¬(row.state = task.expected ∧ row.attempts = task.row.attempts)
  | _,_ => true

abbrev LateStep (crypto : DeliveryCryptography) (policy : AgentDeliveryPolicy) :=
  Guarded (Program.Permitted (fun _ _ => True) fun s memory event => fencesLate s memory event = true)
    (Enabled (deliveryProgram crypto policy).advance)

def lateProgram (crypto : DeliveryCryptography) (policy : AgentDeliveryPolicy) :=
  (deliveryProgram crypto policy).restrict (fun _ _ => True) fun s memory event => fencesLate s memory event = true

-- The target is only ever recorded together with the outcome it stands for.
def Settled (s : DeliveryStore) : Prop :=
  ∀ id row, s.requests id = some row → row.reached = true →
    row.state = .succeeded ∨ row.state = .fenced ∧ FencedFact s id

theorem Settled.recorded (settled : Settled s) : FencedRecorded s := by
  intro id row found fenced reached
  rcases settled id row found reached with succeeded | ⟨_,fact⟩
  · cases fenced.symm.trans succeeded
  · exact .inl fact

-- A row that a write leaves alone, or one that was open and keeps what was recorded.
structure Unrecorded (s next : DeliveryStore) : Prop where
  facts : next.facts = s.facts
  rows : ∀ id new, next.requests id = some new → s.requests id = some new ∨
    ∃ old, s.requests id = some old ∧ old.state.terminal = false ∧ new.reached = old.reached

theorem Unrecorded.same (requests : next.requests = s.requests) (facts : next.facts = s.facts) : Unrecorded s next :=
  ⟨facts,fun _ _ stored => .inl (requests ▸ stored)⟩

theorem Unrecorded.put {s : DeliveryStore} (found : s.requests id' = some old) (opened : old.state.terminal = false)
    (kept : new.reached = old.reached) : Unrecorded s (s.putRequests (s.requests.put id' new)) := by
  refine ⟨rfl,fun id row stored => ?_⟩
  rcases Table.put_some stored with ⟨rfl,rfl⟩ | ⟨_,before⟩
  · exact .inr ⟨old,found,opened,kept⟩
  · exact .inl before

theorem Settled.open_unreached (settled : Settled s) (found : s.requests id' = some row)
    (opened : row.state.terminal = false) : row.reached = false := by
  cases reached : row.reached with
  | false => rfl
  | true =>
    rcases settled id' row found reached with done | ⟨done,_⟩ <;> rw [done] at opened <;> cases opened

theorem Settled.unrecorded (settled : Settled s) (wrote : Unrecorded s next) : Settled next := by
  intro id new stored reached
  rcases wrote.rows id new stored with before | ⟨old,found,opened,same⟩
  · rcases settled id new before reached with done | ⟨fenced,fact⟩
    · exact .inl done
    · exact .inr ⟨fenced,by rw [FencedFact,wrote.facts]; exact fact⟩
  · rw [same,settled.open_unreached found opened] at reached
    cases reached

theorem Settled.put (settled : Settled s) {rows : Table Uuid AgentPushRequest} {facts : List AgentDeliveryFact}
    (grows : ∀ fact ∈ s.facts, fact ∈ facts)
    (new : ∀ row, rows id' = some row → row.reached = true →
      row.state = .succeeded ∨ row.state = .fenced ∧ ∃ fact ∈ facts, fact.pushRequestId = id' ∧ fact.topic = .fenced)
    (others : ∀ id, id ≠ id' → rows id = s.requests id) :
    Settled {s with requests := rows, facts := facts} := by
  intro id row stored reached
  by_cases here : id = id'
  · subst here
    exact new row stored reached
  · have before : s.requests id = some row := (others id here) ▸ stored
    rcases settled id row before reached with done | ⟨fenced,fact,member,about⟩
    · exact .inl done
    · exact .inr ⟨fenced,fact,grows fact member,about⟩

theorem consumeGrant_unrecorded (ran : consumeGrant crypto policy requestId rawGrant now s = .ok (next,consumed)) :
    Unrecorded s next := by
  obtain ⟨digest,_,ran⟩ := orRaise_bind_ok.mp ran
  split at ran
  · rename_i taken
    cases pure_ok.mp ran
    obtain ⟨row,found,unused,_,_,_,rfl,rfl⟩ := consumeAgentPush_some taken
    have wrote : Unrecorded s (s.putRequests (s.requests.put requestId (row.inFlight now (policy.nextReconcileAt now 1)))) :=
      .put found (by rw [unused]; rfl) rfl
    exact ⟨wrote.facts,wrote.rows⟩
  · obtain ⟨current,_,ran⟩ := orRaise_bind_ok.mp ran
    split at ran
    · cases pure_ok.mp ran
      exact .same rfl rfl
    · split at ran
      · obtain ⟨⟨moved,new⟩,taken,ran⟩ := orRaise_bind_ok.mp ran
        cases pure_ok.mp ran
        obtain ⟨row,found,state,_,rfl,rfl⟩ := transitionAgentPush_some taken
        exact .put found (by rw [state]; rfl) rfl
      · obtain ⟨_,ran⟩ := require_bind_ok.mp ran
        cases ran

theorem claimReconcilable_unrecorded
    (ran : claimReconcilable limit now leaseUntil ids s = some (next,claimed)) : Unrecorded s next := by
  unfold claimReconcilable at ran
  split at ran
  · rename_i checked
    cases ran
    refine ⟨rfl,fun id new stored => ?_⟩
    obtain ⟨old,found,⟨chosen,rfl⟩ | ⟨_,rfl⟩⟩ := claimAll_some stored
    · have due := checked.2.2.2 id chosen
      rw [found] at due
      exact .inr ⟨old,found,(reconcilable_open (Option.any_some .. ▸ due)).1,rfl⟩
    · exact .inl found
  · cases ran

theorem fenceOpenAgentPushes_unrecorded (s : DeliveryStore) (fence : AgentDeliveryFence) (now : Time)
    (missed : List Uuid) : Unrecorded s (fenceOpenAgentPushes fence now missed s) := by
  refine ⟨rfl,fun id new stored => ?_⟩
  obtain ⟨old,found,rfl⟩ := Option.map_eq_some_iff.mp stored
  dsimp only
  split
  · rename_i chosen
    simp only [openFor,decide_eq_true_eq] at chosen
    exact .inr ⟨old,found,chosen.1.2.2,rfl⟩
  · exact .inl found

theorem fenceAgentAttempt_unrecorded (s : DeliveryStore) (command : FenceCommand) (now : Time) (missed : List Uuid) :
    Unrecorded s (fenceAgentAttempt command now missed s).1 := by
  have upserted : (upsertAttemptFence command now s).1.requests = s.requests ∧
      (upsertAttemptFence command now s).1.facts = s.facts := by
    unfold upsertAttemptFence
    split
    · exact ⟨rfl,rfl⟩
    · split <;> exact ⟨rfl,rfl⟩
  have closed := fenceOpenAgentPushes_unrecorded (upsertAttemptFence command now s).1
    (upsertAttemptFence command now s).2 now missed
  exact ⟨closed.facts.trans upserted.2,fun id new stored => by
    have moved := closed.rows id new stored
    rwa [upserted.1] at moved⟩

theorem completeRevocation_unrecorded (policy : AgentDeliveryPolicy) (fence : AgentDeliveryFence)
    (target : RevocationState) (attempts : Nat) (now : Time) (s : DeliveryStore) :
    Unrecorded s (completeRevocation policy fence target attempts now s) := by
  unfold completeRevocation
  split
  · split <;> exact .same rfl rfl
  · exact .same rfl rfl

theorem claimDueRevocations_unrecorded
    (ran : claimDueRevocations limit now leaseUntil attemptIds s = some (next,claimed)) : Unrecorded s next := by
  unfold claimDueRevocations at ran
  split at ran
  · cases ran
    exact .same rfl rfl
  · cases ran

-- What a completion leaves: nothing, or the claimed row completed.
theorem finish_cases (ran : finish expected claimed completion now factId s = .ok (next,row)) :
    next = s ∨ ∃ old facts, s.requests claimed.id = some old ∧ old.state = expected ∧
      old.attempts = claimed.attempts ∧ (∀ fact ∈ s.facts, fact ∈ facts) ∧
      (completion.state ≠ .succeeded → facts = s.facts) ∧
      next = {s with requests := s.requests.put claimed.id (old.complete now completion), facts := facts} := by
  unfold finish at ran
  split at ran
  · rename_i moved new taken
    obtain ⟨old,found,state,held,rfl,rfl⟩ := transitionAgentPush_some taken
    split at ran
    · rename_i done _
      obtain ⟨inserted,insert,ran⟩ := bind_ok.mp ran
      cases pure_ok.mp ran
      obtain ⟨_,rfl⟩ := insertFact_ok insert
      exact .inr ⟨old,_,found,state,held _ rfl,fun _ member => List.mem_append_left _ member,absurd done,rfl⟩
    · cases ran
    · cases pure_ok.mp ran
      exact .inr ⟨old,s.facts,found,state,held _ rfl,fun _ member => member,fun _ => rfl,rfl⟩
  · obtain ⟨current,found,ran⟩ := orRaise_bind_ok.mp ran
    cases pure_ok.mp ran
    exact .inl rfl

theorem finishTask_cases {task : Task} (ran : task.finish completion now factId s = .ok (next,row)) :
    next = s ∨ ∃ old facts, s.requests task.row.id = some old ∧ old.state = task.expected ∧
      old.attempts = task.row.attempts ∧ (∀ fact ∈ s.facts, fact ∈ facts) ∧
      (completion.state ≠ .succeeded → facts = s.facts) ∧
      next = {s with requests := s.requests.put task.row.id (old.complete now completion), facts := facts} := by
  obtain ⟨claimed,rest⟩ := task
  cases rest with
  | none => exact finish_cases ran
  | some rest => exact finish_cases ran

theorem Task.expected_open (task : Task) : task.expected.terminal = false := by
  obtain ⟨claimed,rest⟩ := task
  cases rest <;> rfl

-- A completion that reports another head than the target, or a success.
def Completion.Plain (completion : Completion) (spec : AgentPushRequestSpec) : Prop :=
  completion.state = .succeeded ∨
    ∀ head observedAt, completion.observation = some (head,observedAt) → head ≠ spec.targetCommitSha

theorem Settled.finish (settled : Settled s) {task : Task}
    (plain : ∀ old, s.requests task.row.id = some old → completion.Plain old.spec)
    (ran : task.finish completion now factId s = .ok (next,row)) : Settled next := by
  rcases finishTask_cases ran with rfl | ⟨old,facts,found,state,_,grows,_,rfl⟩
  · exact settled
  · refine settled.put grows (fun new stored reached => ?_) (fun id other => Table.put_other _ _ other)
    cases (Table.put_same _ _ _).symm.trans stored
    rcases plain old found with succeeded | elsewhere
    · exact .inl succeeded
    · have before := settled.open_unreached found (by rw [state]; exact task.expected_open)
      simp only [AgentPushRequest.reached,decide_eq_true_eq,decide_eq_false_iff_not] at reached before
      change (completion.observation.map Prod.fst).or old.remoteHeadSha = some old.spec.targetCommitSha at reached
      cases seen : completion.observation with
      | none =>
        rw [seen] at reached
        exact absurd reached before
      | some observation =>
        obtain ⟨head,observedAt⟩ := observation
        rw [seen] at reached
        exact absurd (Option.some.inj reached) (elsewhere head observedAt seen)

theorem fact_some {s : DeliveryStore} (present : s.fact requestId ≠ none) :
    ∃ fact ∈ s.facts, fact.pushRequestId = requestId := by
  obtain ⟨fact,found⟩ := Option.ne_none_iff_exists'.mp present
  obtain ⟨member,about⟩ := KeyedRows.find_some found
  exact ⟨fact,member,about⟩

-- The observation of a fence goes into the row together with its fact.
theorem Settled.recordFencedObservation (settled : Settled s) (valid : DeliveryValid crypto guarded s)
    (ran : recordFencedObservation requestId head observedAt now factId s = .ok (next,row)) : Settled next := by
  unfold Delivery.recordFencedObservation at ran
  split at ran
  · rename_i moved new taken
    obtain ⟨old,found,state,_,rfl,rfl⟩ := transitionAgentPush_some taken
    have same : old.id = requestId := valid.identified _ _ found
    split at ran
    · obtain ⟨inserted,insert,ran⟩ := bind_ok.mp ran
      cases pure_ok.mp ran
      obtain ⟨_,rfl⟩ := insertFact_ok insert
      refine settled.put (fun _ member => List.mem_append_left _ member) (fun row stored _ => ?_)
        (fun id other => Table.put_other _ _ other)
      cases (Table.put_same _ _ _).symm.trans stored
      exact .inr ⟨state,_,List.mem_append_right _ (List.mem_singleton.mpr rfl),same,rfl⟩
    · rename_i present
      cases pure_ok.mp ran
      refine settled.put (fun _ member => member) (fun row stored _ => ?_) (fun id other => Table.put_other _ _ other)
      cases (Table.put_same _ _ _).symm.trans stored
      obtain ⟨fact,member,about⟩ := fact_some (s := s) present
      obtain ⟨row,stored,⟨_,succeeded⟩ | ⟨topic,_⟩⟩ := valid.factual fact member
      · rw [about] at stored
        cases found.symm.trans stored
        cases state.symm.trans succeeded
      · exact .inr ⟨state,fact,member,about,topic⟩
  · obtain ⟨current,found,ran⟩ := orRaise_bind_ok.mp ran
    cases pure_ok.mp ran
    exact settled

theorem recordAgentPush_settled (settled : Settled s)
    (ran : recordAgentPush crypto env spec s = .ok (next,row,replayed)) : Settled next := by
  obtain ⟨_,rfl⟩ | ⟨_,rfl,_,_,rfl⟩ := recordAgentPush_ok ran
  · exact settled
  · have put : Settled {s with
        requests := s.requests.put env.requestId (authorizedRequest crypto env spec)
        facts := s.facts} := by
      refine settled.put (fun _ member => member) (fun row stored reached => ?_) (fun id other => Table.put_other _ _ other)
      cases (Table.put_same _ _ _).symm.trans stored
      cases of_decide_eq_true reached
    exact put

-- The claimed rows in a worker's hands.
def DeliveryWorker.claimed : DeliveryWorker → List AgentPushRequest
  | .consumed row | .delivered row _ => [row]
  | .observing task | .judging task _ _ | .finishing task _ | .confirming task _ _ | .fencing task _ _
  | .recording task _ _ | .freezing task => task.row :: task.rest.getD []
  | _ => []

-- Only a fenced completion, or a success, reports the target.
def DeliveryWorker.Aimed : DeliveryWorker → Prop
  | .finishing task completion => completion.Plain task.row.spec
  | .fencing task head _ => head = task.row.spec.targetCommitSha
  | _ => True

-- A claimed row is stored under its own specification.
structure RecordHolds (s : DeliveryStore) (memory : DeliveryWorker) : Prop where
  stored : ∀ row ∈ memory.claimed, ∃ found, s.requests row.id = some found ∧ found.spec = row.spec
  aimed : memory.Aimed

theorem RecordHolds.idle (s : DeliveryStore) : RecordHolds s .idle :=
  ⟨fun _ member => (by cases member),trivial⟩

theorem RecordHolds.kept (holds : RecordHolds s memory) (moved : PushMoves guarded s next) : RecordHolds next memory := by
  refine ⟨fun row member => ?_,holds.aimed⟩
  obtain ⟨found,stored,same⟩ := holds.stored row member
  obtain ⟨row',stored',move⟩ := moved.rows row.id found stored
  exact ⟨row',stored',move.spec.trans same⟩

theorem RecordHolds.subset (holds : RecordHolds s memory) (within : ∀ row ∈ memory'.claimed, row ∈ memory.claimed)
    (aimed : memory'.Aimed) : RecordHolds s memory' :=
  ⟨fun row member => holds.stored row (within row member),aimed⟩

theorem RecordHolds.passed (holds : RecordHolds s memory) (moved : PushMoves guarded s next)
    (within : ∀ row ∈ memory'.claimed, row ∈ memory.claimed) (aimed : memory'.Aimed) : RecordHolds next memory' :=
  (holds.subset within aimed).kept moved

theorem nextTask_claimed (claimed : List AgentPushRequest) : (nextTask claimed).claimed = claimed := by
  cases claimed <;> rfl

theorem nextTask_aimed (claimed : List AgentPushRequest) : (nextTask claimed).Aimed := by
  cases claimed <;> trivial

theorem Task.next_claimed (task : Task) : task.next = nextTask (task.rest.getD []) := by
  obtain ⟨row,rest⟩ := task
  cases rest with
  | none => rfl
  | some rest => cases rest <;> rfl

theorem RecordHolds.next (holds : RecordHolds s memory) {task : Task}
    (within : ∀ row ∈ task.rest.getD [], row ∈ memory.claimed) : RecordHolds s task.next := by
  rw [task.next_claimed]
  refine holds.subset (fun row member => within row ?_) (nextTask_aimed _)
  rwa [nextTask_claimed] at member

theorem nextRevocation_records (s : DeliveryStore) (rest : List AgentDeliveryFence) :
    RecordHolds s (nextRevocation rest) := by
  cases rest <;> exact ⟨fun _ member => (by cases member),trivial⟩

theorem afterFence_records (s : DeliveryStore) (fence : AgentDeliveryFence) : RecordHolds s (afterFence fence) := by
  unfold afterFence
  split <;> exact ⟨fun _ member => (by cases member),trivial⟩

theorem pushed_records (holds : RecordHolds s (.consumed row)) (answer : BrokerAnswer) (now : Time) :
    RecordHolds s (pushed policy row answer now) := by
  have plain (completion : Completion) (elsewhere : completion.Plain row.spec) :
      RecordHolds s (.finishing ⟨row,none⟩ completion) := holds.subset (fun _ member => member) elsewhere
  have silent {state : AgentPushState} {code : Option String} {due : Option Time} :
      (Completion.mk state code none due).Plain row.spec := .inr fun _ _ absurd => by cases absurd
  unfold pushed
  split
  · exact plain _ silent
  · exact plain _ silent
  · exact plain _ silent
  · split
    · rename_i other
      refine plain _ (.inr ?_)
      rintro _ _ ⟨⟩
      exact other
    · exact holds.subset (fun _ member => member) trivial

theorem observed_records (holds : RecordHolds s (.observing task))
    (seen : observed policy task answer now = some memory) : RecordHolds s memory := by
  unfold observed at seen
  split at seen <;> cases seen
  · exact holds.subset (fun _ member => member) (.inr fun _ _ absurd => by cases absurd)
  · exact holds.subset (fun _ member => member) (.inr fun _ _ absurd => by cases absurd)
  · exact holds.subset (fun _ member => member) trivial

theorem judged_records (holds : RecordHolds s (.judging task head bindingValid)) (fenced : Bool) (now : Time) :
    RecordHolds s (judged policy task head bindingValid fenced now) := by
  unfold judged
  split
  · rename_i same
    split
    · exact holds.subset (fun _ member => member) same
    · exact holds.subset (fun _ member => member) trivial
  · rename_i other
    have plain (observedAt : Time) (state : AgentPushState) (code : Option String) (due : Option Time) :
        (Completion.mk state code (some (head,observedAt)) due).Plain task.row.spec := by
      refine .inr ?_
      rintro _ _ ⟨⟩
      exact other
    split <;> exact holds.subset (fun _ member => member) (plain ..)

theorem deliveryStep_records (valid : DeliveryValid crypto guarded s) (holds : RecordHolds s memory)
    (late : fencesLate s memory event = true) (moved : PushMoves guarded s next) (settled : Settled s)
    (taken : deliveryStep crypto policy s memory event = some (next,memory')) :
    RecordHolds next memory' ∧ Settled next := by
  unfold deliveryStep at taken
  split at taken
  · split at taken
    · obtain ⟨_,_,same⟩ := toOption_map_some.mp taken
      cases same
      exact ⟨⟨fun _ member => (by cases member),trivial⟩,settled⟩
    · obtain ⟨_,ran,same⟩ := toOption_map_some.mp taken
      cases same
      obtain ⟨_,_,ran⟩ := bind_ok.mp ran
      exact ⟨.idle _,recordAgentPush_settled settled ran⟩
  · obtain ⟨⟨_,_,replayed⟩,ran,same⟩ := toOption_map_some.mp taken
    cases same
    have done := recordAgentPush_settled settled ran
    exact ⟨.idle _,by cases replayed <;> exact done⟩
  · obtain ⟨row,_,same⟩ := Option.map_eq_some_iff.mp taken
    cases same
    refine ⟨?_,settled⟩
    split <;> exact holds.subset (fun _ member => member) trivial
  · split at taken <;> cases taken
    exact ⟨holds.subset (fun _ member => member) trivial,settled⟩
  · obtain ⟨⟨_,consumed⟩,ran,same⟩ := toOption_map_some.mp taken
    cases same
    refine ⟨?_,settled.unrecorded (consumeGrant_unrecorded ran)⟩
    cases consumed with
    | none => exact .idle _
    | some row =>
      obtain ⟨same,_,stored,_⟩ := (consumeGrant_write valid ran).2 row rfl
      refine ⟨fun row' member => ?_,trivial⟩
      cases List.mem_singleton.mp member
      exact ⟨row,same.symm ▸ stored,rfl⟩
  · cases taken
    exact ⟨(pushed_records holds _ _).kept moved,settled.unrecorded (.same rfl rfl)⟩
  · cases taken
    exact ⟨holds.subset (fun _ member => member) trivial,settled⟩
  · obtain ⟨⟨_,claimed⟩,ran,same⟩ := Option.map_eq_some_iff.mp taken
    cases same
    refine ⟨⟨fun row member => ?_,nextTask_aimed claimed⟩,
      settled.unrecorded (claimReconcilable_unrecorded ran)⟩
    rw [nextTask_claimed] at member
    exact ⟨row,(claimReconcilable_write valid ran).2.1 row member,rfl⟩
  · obtain ⟨seen,answered,same⟩ := Option.map_eq_some_iff.mp taken
    cases same
    exact ⟨observed_records holds answered,settled⟩
  · cases taken
    exact ⟨judged_records holds _ _,settled⟩
  · rename_i task completion now factId
    obtain ⟨⟨_,row⟩,ran,same⟩ := toOption_map_some.mp taken
    cases same
    have plain (old : AgentPushRequest) (found : s.requests task.row.id = some old) : completion.Plain old.spec := by
      obtain ⟨stored,here,same⟩ := holds.stored task.row (List.mem_cons_self ..)
      cases found.symm.trans here
      rw [same]
      exact holds.aimed
    exact ⟨(holds.next fun _ member => List.mem_cons_of_mem _ member).kept moved,settled.finish plain ran⟩
  · rename_i task head observedAt now factId
    obtain ⟨⟨_,row⟩,ran,same⟩ := toOption_map_some.mp taken
    cases same
    refine ⟨?_,settled.finish (fun _ _ => .inl rfl) ran⟩
    unfold afterConfirm
    split
    · exact holds.passed moved (fun _ member => member) trivial
    · exact (holds.next fun _ member => List.mem_cons_of_mem _ member).kept moved
  · rename_i task head observedAt now factId
    obtain ⟨⟨_,row⟩,ran,same⟩ := toOption_map_some.mp taken
    cases same
    refine ⟨holds.passed moved (fun _ member => member) trivial,?_⟩
    rcases finishTask_cases ran with rfl | ⟨old,_,found,state,held,_,_,_⟩
    · exact settled
    · have lost : (s.requests task.row.id).all (fun row =>
          decide ¬(row.state = task.expected ∧ row.attempts = task.row.attempts)) = true := late
      rw [found] at lost
      exact absurd ⟨state,held⟩ (of_decide_eq_true lost)
  · obtain ⟨⟨_,row⟩,ran,same⟩ := toOption_map_some.mp taken
    cases same
    exact ⟨holds.passed moved (fun _ member => member) trivial,
      settled.recordFencedObservation valid ran⟩
  · cases taken
    exact ⟨holds.next fun _ member => List.mem_cons_of_mem _ member,settled⟩
  · obtain ⟨_,_,same⟩ := toOption_map_some.mp taken
    cases same
    exact ⟨⟨fun _ member => (by cases member),trivial⟩,settled⟩
  · split at taken <;> cases taken
    exact ⟨afterFence_records _ _,settled.unrecorded (fenceAgentAttempt_unrecorded ..)⟩
  · obtain ⟨⟨_,claimed⟩,ran,same⟩ := Option.map_eq_some_iff.mp taken
    cases same
    exact ⟨nextRevocation_records _ _,settled.unrecorded (claimDueRevocations_unrecorded ran)⟩
  · cases taken
    exact ⟨⟨fun _ member => (by cases member),trivial⟩,settled⟩
  · cases taken
    exact ⟨nextRevocation_records _ _,settled.unrecorded (completeRevocation_unrecorded ..)⟩
  · cases taken

theorem commitDelivery_settled (settled : Settled s) (taken : commitDelivery s transaction = some next) :
    Settled next := by
  cases transaction with
  | repository row =>
    cases taken
    exact settled
  | branch row =>
    cases taken
    exact settled

def recordContract (crypto : DeliveryCryptography) (policy : AgentDeliveryPolicy) :
    Contract (lateProgram crypto policy) where
  valid s := PushValid crypto False s ∧ Settled s
  holds s memory := PushHolds s memory ∧ RecordHolds s memory
  apart := PushApart
  rely := PushMoves False
  symmetric := pushApart_symmetric
  idle s valid := ⟨(deliveryContract crypto policy).idle s valid.1,.idle s⟩
  idle_apart := pushApart_idle
  transacted s transaction next valid taken := by
    have committed := (Program.restrict_transact _ taken).2
    have write : Write crypto False s next := commitDelivery_write committed
    exact ⟨⟨write.pushValid valid.1,commitDelivery_settled valid.2 committed⟩,write.pushMoves,
      fun _ held => ⟨write.pushHolds held.1,held.2.kept write.pushMoves⟩⟩
  acted s memory event next memory' valid holds taken := by
    obtain ⟨late,taken⟩ := Program.restrict_act _ taken
    obtain ⟨validNext,moved,held,others⟩ := deliveryStep_spec valid.1 holds.1 False.elim taken
    obtain ⟨records,settled⟩ := deliveryStep_records valid.1.toDeliveryValid holds.2 late moved valid.2 taken
    refine ⟨⟨validNext,settled⟩,moved,⟨held,records⟩,?_⟩
    intro other known apart
    obtain ⟨kept,apart'⟩ := others other known.1 apart
    exact ⟨⟨kept,known.2.kept moved⟩,apart'⟩

theorem late_valid {s : DeliverySystem} (reached : Runs (LateStep crypto policy) deliveryInitial labels s) :
    (recordContract crypto policy).Valid s := by
  have path : Runs (Enabled (lateProgram crypto policy).advance) deliveryInitial labels s :=
    reached.mono fun _ _ _ taken => Program.restrict_advance _ taken.1 taken.2
  refine (recordContract crypto policy).runs_valid path (Contract.initial_valid _ ⟨.initial,?_⟩)
  exact fun _ _ found => by cases found

-- A fenced completion of a claim that is still held leaves a FENCED request whose
-- head is the target, and no fact.
theorem fenced_early (valid : DeliveryValid crypto guarded s) {task : Task} (holds : RecordHolds s (.fencing task head observedAt))
    (early : fencesLate s (.fencing task head observedAt) (.finish now factId) = false)
    (ran : task.finish (.fenced head observedAt) now factId s = .ok (next,row)) : ¬FencedRecorded next := by
  intro recorded
  obtain ⟨stored,here,same⟩ := holds.stored task.row (List.mem_cons_self ..)
  have held : (s.requests task.row.id).all (fun row =>
      decide ¬(row.state = task.expected ∧ row.attempts = task.row.attempts)) = false := early
  rw [here] at held
  obtain ⟨state,attempts⟩ := Classical.not_not.mp (of_decide_eq_false held)
  have opened : stored.state.terminal = false := by rw [state]; exact task.expected_open
  have used : AgentPushState.fenced ≠ .authorized := fun absurd => by cases absurd
  rcases finishTask_cases ran with rfl | ⟨old,facts,found,_,_,_,unchanged,rfl⟩
  · obtain ⟨_,completed,⟨old,_,_,_,rfl⟩ | ⟨_,lost⟩⟩ := finishTask_write valid used ran
    · cases here.symm.trans completed
      cases opened
    · cases here.symm.trans completed
      exact lost.elim (fun other => other state) (fun other => other attempts)
  · cases found.symm.trans here
    cases unchanged fun absurd => by cases absurd
    have target : head = stored.spec.targetCommitSha := by
      rw [same]
      exact holds.aimed
    have reached : (stored.complete now (.fenced head observedAt)).reached = true :=
      decide_eq_true (congrArg some target)
    rcases recorded _ _ (Table.put_same _ _ _) rfl reached with ⟨fact,member,about,_⟩ | ⟨_,due⟩
    · obtain ⟨row,found',settled⟩ := valid.factual fact member
      rw [about] at found'
      cases found'.symm.trans here
      rcases settled with ⟨_,done⟩ | ⟨_,done⟩ <;> rw [done] at opened <;> cases opened
    · cases (reconcilable_open due).1

theorem fenced_push_recorded {s : DeliverySystem}
    (path : Runs (Enabled (deliveryProgram crypto policy).advance) deliveryInitial labels s) :
    Runs (LateStep crypto policy) deliveryInitial labels s ↔
      ∀ before after middle, labels = before ++ after →
        Runs (Enabled (deliveryProgram crypto policy).advance) deliveryInitial before middle →
        FencedRecorded middle.store := by
  constructor
  · rintro late before after middle rfl reached
    obtain ⟨middle',first,_⟩ := late.split
    cases reached.unique first.unguarded
    exact (late_valid first).store.2.recorded
  · intro recorded
    refine path.guarded fun before label after middle last same earlier taken => ?_
    have valid := late_valid earlier
    cases label with
    | transact transaction => trivial
    | crash worker => trivial
    | act worker event =>
      change fencesLate middle.store (middle.workers worker) event = true
      cases late : fencesLate middle.store (middle.workers worker) event with
      | true => rfl
      | false =>
        refine absurd (recorded (before ++ [.act worker event]) after last (by simp [same])
          (earlier.unguarded.snoc taken)) ?_
        obtain ⟨⟨store,memory⟩,acted,rfl⟩ := Option.map_eq_some_iff.mp taken
        have holds : RecordHolds middle.store (middle.workers worker) := (valid.holds worker).2
        generalize middle.workers worker = before at holds acted late
        unfold fencesLate at late
        split at late
        · rename_i task head observedAt now factId
          obtain ⟨⟨_,row⟩,ran,same⟩ := toOption_map_some.mp acted
          cases same
          exact fenced_early valid.store.1.toDeliveryValid holds late ran
        · cases late

-- The lease is fenced while worker 0 pushes; the observation is recorded afterwards.
def sampleRecord : List DeliveryLabel :=
  sampleConsume ++ [samplePush,.act 1 (.fence ⟨3,1,"LEASE_LOST","correlation"⟩ 4),.act 1 .raise,
    .act 0 (.validate (some (sampleBinding true))),.act 0 (.judge 5),.act 0 (.finish 5 20),.act 0 (.record 5 20)]

def sampleRecorded : DeliverySystem :=
  (execute (lateProgram sampleCryptography samplePolicy).advance deliveryInitial sampleRecord).get (by decide)

-- The binding is gone after the push, and worker 0 dies between its two transactions.
def sampleLose : List DeliveryLabel :=
  sampleConsume ++ [samplePush,.act 0 (.validate none),.act 0 (.judge 4),.act 0 (.finish 4 20),.crash 0]

def sampleLost : DeliverySystem := (execute sampleProgram.advance deliveryInitial sampleLose).get (by decide)

theorem fenced_push_recorded_sample : FencedFact sampleRecorded.store 10 := by
  have path : Runs (Enabled (lateProgram sampleCryptography samplePolicy).advance) deliveryInitial sampleRecord
      sampleRecorded := execute_get (by decide)
  have late : Runs (LateStep sampleCryptography samplePolicy) deliveryInitial sampleRecord sampleRecorded :=
    path.mono fun _ _ _ taken => Program.restrict_permitted _ taken
  have recorded := (fenced_push_recorded late.unguarded).mp late sampleRecord [] sampleRecorded rfl late.unguarded
  rcases recorded 10 _ rfl (by decide) (by decide) with fact | ⟨_,due⟩
  · exact fact
  · cases (reconcilable_open due).1

theorem fenced_push_unrecorded :
    ¬∀ (labels : List DeliveryLabel) (s : DeliverySystem), Runs (Enabled sampleProgram.advance) deliveryInitial labels s →
      FencedRecorded s.store := by
  intro claim
  have reached : Runs (Enabled sampleProgram.advance) deliveryInitial sampleLose sampleLost := execute_get (by decide)
  rcases claim _ _ reached 10 _ rfl (by decide) (by decide) with ⟨fact,member,_⟩ | ⟨_,due⟩
  · cases member
  · cases (reconcilable_open due).1

end EngineeringPlatform.Delivery
