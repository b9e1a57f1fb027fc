import EngineeringPlatform.AgentDeliveryWorkers
namespace EngineeringPlatform.Delivery
open Checked ClaimedRows SharedWorkers EngineeringPlatform.SourceControl TransitionRuns
-- `guarded` says of a run that no request was inserted under a fence and no fence
-- missed one: what rests on that is stated under it.
variable {crypto : DeliveryCryptography} {policy : AgentDeliveryPolicy} {guarded : Prop}

-- How any write moves a request: what was requested and granted never changes, no
-- terminal state is left and no grant becomes unused again.
structure RowMoves (old new : AgentPushRequest) : Prop where
  id : new.id = old.id
  spec : new.spec = old.spec
  grant : new.grantDigest = old.grantDigest
  moves : Moves requestColumns AgentPushState.terminal old new
  used : new.state = .authorized → old.state = .authorized

theorem RowMoves.refl (row : AgentPushRequest) : RowMoves row row := ⟨rfl,rfl,rfl,.refl row,fun unused => unused⟩

theorem RowMoves.trans (first : RowMoves one two) (second : RowMoves two three) : RowMoves one three :=
  ⟨second.id.trans first.id,second.spec.trans first.spec,second.grant.trans first.grant,
    first.moves.trans second.moves,fun unused => first.used (second.used unused)⟩

-- The same without a success.
structure RowStep (old new : AgentPushRequest) : Prop extends RowMoves old new where
  unconfirmed : new.state = .succeeded → old.state = .succeeded

theorem RowStep.refl (row : AgentPushRequest) : RowStep row row := ⟨.refl row,fun done => done⟩

structure RowsStep (rows next : Table Uuid AgentPushRequest) : Prop where
  steps : Table.Advances RowStep rows next
  closed : ∀ id, rows id = none → next id = none

theorem RowsStep.refl (rows : Table Uuid AgentPushRequest) : RowsStep rows rows :=
  ⟨.refl .refl rows,fun _ absent => absent⟩

theorem RowsStep.put {rows : Table Uuid AgentPushRequest} (found : rows id' = some old) (step : RowStep old new) :
    RowsStep rows (rows.put id' new) := by
  refine ⟨.put .refl fun other stored => ?_,fun id absent => ?_⟩
  · cases found.symm.trans stored
    exact step
  · by_cases same : id = id'
    · subst same
      cases absent.symm.trans found
    · rw [Table.put_other _ _ same]
      exact absent

theorem RowsStep.updateAll {rows : Table Uuid AgentPushRequest} {change : Uuid → AgentPushRequest → AgentPushRequest}
    (step : ∀ id row, rows id = some row → RowStep row (change id row)) : RowsStep rows (rows.updateAll change) :=
  ⟨.updateAll step,fun id absent => by simp [absent]⟩

def Raised (old new : AgentDeliveryFence) : Prop :=
  new.attemptId = old.attemptId ∧ old.fencedGeneration ≤ new.fencedGeneration

theorem Raised.refl (fence : AgentDeliveryFence) : Raised fence fence := ⟨rfl,Nat.le_refl _⟩

-- A fence that covers more than before leaves nothing open below it.
structure FencesStep (guarded : Prop) (s : DeliveryStore) (fences : Table Uuid AgentDeliveryFence)
    (rows : Table Uuid AgentPushRequest) : Prop where
  raised : Table.Advances Raised s.fences fences
  identified : ∀ attemptId fence, fences attemptId = some fence → fence.attemptId = attemptId
  covers : guarded → ∀ attemptId fence, fences attemptId = some fence →
    (∃ old, s.fences attemptId = some old ∧ fence.fencedGeneration ≤ old.fencedGeneration) ∨
    ∀ id row, rows id = some row → row.spec.attemptId = attemptId →
      row.spec.attemptGeneration ≤ fence.fencedGeneration → row.state.terminal = true

-- What one transaction writes, with what it checked before.
inductive Write (crypto : DeliveryCryptography) (guarded : Prop) (s : DeliveryStore) : DeliveryStore → Prop where
  | elsewhere (repositories : Table String WorkspaceRepository) (branches : Table Uuid RepositoryBranchBinding) :
      Write crypto guarded s {s with repositories := repositories, branches := branches}
  | inserted (fresh : s.requests row.id = none) (unused : row.state = .authorized)
      (open' : guarded → isLocallyFenced row.spec.attemptId row.spec.attemptGeneration s = false)
      (byIdempotency : Table (Uuid × String) Uuid) (byCoordinate : Table Coordinate Uuid) (unguarded : List Uuid) :
      Write crypto guarded s {s with
        requests := s.requests.put row.id row, byIdempotency := byIdempotency, byCoordinate := byCoordinate
        unguarded := unguarded}
  | consumed (now next : Time) (found : s.requests id' = some row) (unused : row.state = .authorized)
      (granted : crypto.grantDigest rawGrant = some row.grantDigest) (unexpired : now < row.spec.expiresAt)
      (open' : isLocallyFenced row.spec.attemptId row.spec.attemptGeneration s = false) :
      Write crypto guarded s ((s.putRequests (s.requests.put id' (row.inFlight now next))).consume ⟨id',rawGrant,now,
        (s.fences row.spec.attemptId).map AgentDeliveryFence.fencedGeneration⟩)
  | rows (step : RowsStep s.requests rows) : Write crypto guarded s (s.putRequests rows)
  | fences (step : RowsStep s.requests rows) (fenced : FencesStep guarded s fences rows) :
      Write crypto guarded s ((s.putFences fences).putRequests rows)
  | confirmed (found : s.requests id' = some row) (moved : RowMoves row new) (succeeded : new.state = .succeeded)
      (absent : s.fact id' = none) (about : fact.pushRequestId = id') (topic : fact.topic = .confirmed) :
      Write crypto guarded s ((s.putRequests (s.requests.put id' new)).addFact fact)
  | recorded (found : s.requests id' = some row) (step : RowStep row new) (fenced : new.state = .fenced)
      (absent : s.fact id' = none) (about : fact.pushRequestId = id') (topic : fact.topic = .fenced) :
      Write crypto guarded s ((s.putRequests (s.requests.put id' new)).addFact fact)

structure DeliveryValid (crypto : DeliveryCryptography) (guarded : Prop) (s : DeliveryStore) : Prop where
  identified : ∀ id row, s.requests id = some row → row.id = id
  fenceIds : ∀ attemptId fence, s.fences attemptId = some fence → fence.attemptId = attemptId
  once : KeyedRows.Unique Consumption.requestId s.consumptions
  consumed : ∀ entry ∈ s.consumptions, ∃ row, s.requests entry.requestId = some row ∧ row.state ≠ .authorized ∧
    crypto.grantDigest entry.rawGrant = some row.grantDigest ∧ entry.consumedAt < row.spec.expiresAt ∧
    ∀ generation, entry.fencedGeneration = some generation → generation < row.spec.attemptGeneration
  covered : guarded → ∀ attemptId fence, s.fences attemptId = some fence → ∀ id row, s.requests id = some row →
    row.spec.attemptId = attemptId → row.spec.attemptGeneration ≤ fence.fencedGeneration →
    row.state.terminal = true
  facts : KeyedRows.Unique AgentDeliveryFact.pushRequestId s.facts
  factual : ∀ fact ∈ s.facts, ∃ row, s.requests fact.pushRequestId = some row ∧
    ((fact.topic = .confirmed ∧ row.state = .succeeded) ∨ (fact.topic = .fenced ∧ row.state = .fenced))
  confirmed : ∀ id row, s.requests id = some row → row.state = .succeeded →
    ∃ fact ∈ s.facts, fact.pushRequestId = id ∧ fact.topic = .confirmed

-- What holds of the row of a request between any two moments of a run.
structure DeliveryMoves (guarded : Prop) (s next : DeliveryStore) : Prop where
  rows : Table.Advances RowMoves s.requests next.requests
  inserted : guarded → ∀ id row, s.requests id = none → next.requests id = some row →
    isLocallyFenced row.spec.attemptId row.spec.attemptGeneration s = false
  fences : Table.Advances Raised s.fences next.fences
  consumptions : ∀ id row, s.requests id = some row → row.state.terminal = true →
    next.consumptions.filter (fun entry => entry.requestId = id) =
      s.consumptions.filter fun entry => entry.requestId = id
  grows : ∀ entry ∈ s.consumptions, entry ∈ next.consumptions

theorem isLocallyFenced_raised {s next : DeliveryStore} (raised : Table.Advances Raised s.fences next.fences)
    (open' : isLocallyFenced attemptId generation next = false) : isLocallyFenced attemptId generation s = false := by
  cases found : s.fences attemptId with
  | none => simp [isLocallyFenced,found]
  | some fence =>
    obtain ⟨fence',stored,_,higher⟩ := raised attemptId fence found
    simp only [isLocallyFenced,stored,found,Option.any_some,AgentDeliveryFence.covers,decide_eq_false_iff_not] at open' ⊢
    omega

theorem DeliveryMoves.refl (s : DeliveryStore) : DeliveryMoves guarded s s :=
  ⟨.refl .refl _,(fun _ _ _ absent stored => by cases absent.symm.trans stored),.refl .refl _,
    fun _ _ _ _ => rfl,fun _ member => member⟩

theorem DeliveryMoves.trans (first : DeliveryMoves guarded one two) (second : DeliveryMoves guarded two three) :
    DeliveryMoves guarded one three := by
  refine ⟨first.rows.trans (fun _ _ _ => .trans) second.rows,?_,
    first.fences.trans (fun _ _ _ left right => ⟨right.1.trans left.1,Nat.le_trans left.2 right.2⟩) second.fences,
    ?_,fun entry member => second.grows entry (first.grows entry member)⟩
  · intro safe id row absent stored
    cases found : two.requests id with
    | none => exact isLocallyFenced_raised first.fences (second.inserted safe id row found stored)
    | some middle =>
      obtain ⟨row',kept,moved⟩ := second.rows id middle found
      cases stored.symm.trans kept
      rw [moved.spec]
      exact first.inserted safe id middle absent found
  · intro id row found done
    obtain ⟨row',stored,moved⟩ := first.rows id row found
    have still : row'.state.terminal = true := by
      have same : row'.state = row.state := moved.moves.final done
      rw [same]
      exact done
    exact (second.consumptions id row' stored still).trans (first.consumptions id row found done)

theorem DeliveryValid.initial : DeliveryValid crypto guarded .initial := by
  refine ⟨?_,?_,List.nodup_nil,?_,?_,List.nodup_nil,?_,?_⟩
  · intro id row found
    cases found
  · intro attemptId fence found
    cases found
  · intro entry member
    cases member
  · intro _ attemptId fence found
    cases found
  · intro fact member
    cases member
  · intro id row found
    cases found

theorem RowsStep.some (step : RowsStep rows next) (stored : next id' = some new) :
    ∃ old, rows id' = some old ∧ RowStep old new := by
  cases found : rows id' with
  | none => cases (step.closed id' found).symm.trans stored
  | some old =>
    obtain ⟨new',kept,moved⟩ := step.steps id' old found
    cases stored.symm.trans kept
    exact ⟨old,rfl,moved⟩

theorem RowMoves.terminal (moved : RowMoves old new) (done : old.state.terminal = true) :
    new.state = old.state := moved.moves.final done

-- Rows that move without a success, nothing else written.
theorem DeliveryValid.stepped (valid : DeliveryValid crypto guarded s) (step : RowsStep s.requests rows) :
    DeliveryValid crypto guarded (s.putRequests rows) := by
  refine ⟨?_,valid.fenceIds,valid.once,?_,?_,valid.facts,?_,?_⟩
  · intro id new stored
    obtain ⟨old,found,moved⟩ := step.some stored
    exact moved.id.trans (valid.identified id old found)
  · intro entry member
    obtain ⟨row,found,used,granted,unexpired,unfenced⟩ := valid.consumed entry member
    obtain ⟨new,stored,moved⟩ := step.steps _ row found
    refine ⟨new,stored,fun unused => used (moved.used unused),?_,?_,?_⟩
    · rw [moved.grant]
      exact granted
    · rw [moved.spec]
      exact unexpired
    · rw [moved.spec]
      exact unfenced
  · intro safe attemptId fence fenced id new stored about covered
    obtain ⟨old,found,moved⟩ := step.some stored
    rw [moved.spec] at about covered
    have done := valid.covered safe attemptId fence fenced id old found about covered
    rw [moved.terminal done]
    exact done
  · intro fact member
    obtain ⟨row,found,agrees⟩ := valid.factual fact member
    obtain ⟨new,stored,moved⟩ := step.steps _ row found
    have same : new.state = row.state := by
      rcases agrees with ⟨_,done⟩ | ⟨_,done⟩ <;> exact moved.terminal (by rw [done]; rfl)
    exact ⟨new,stored,by rw [same]; exact agrees⟩
  · intro id new stored succeeded
    obtain ⟨old,found,moved⟩ := step.some stored
    exact valid.confirmed id old found (moved.unconfirmed succeeded)

theorem DeliveryValid.inserted (valid : DeliveryValid crypto guarded s) {row : AgentPushRequest}
    (fresh : s.requests row.id = none) (unused : row.state = .authorized)
    (unfenced : guarded → isLocallyFenced row.spec.attemptId row.spec.attemptGeneration s = false) :
    DeliveryValid crypto guarded (s.putRequests (s.requests.put row.id row)) := by
  have kept {id : Uuid} {old : AgentPushRequest} (found : s.requests id = some old) :
      (s.requests.put row.id row) id = some old := by
    rw [Table.put_other _ _ fun same => by cases (same ▸ fresh).symm.trans found]
    exact found
  refine ⟨?_,valid.fenceIds,valid.once,?_,?_,valid.facts,?_,?_⟩
  · intro id new stored
    rcases Table.put_some stored with ⟨rfl,rfl⟩ | ⟨_,found⟩
    · rfl
    · exact valid.identified id new found
  · intro entry member
    obtain ⟨old,found,rest⟩ := valid.consumed entry member
    exact ⟨old,kept found,rest⟩
  · intro safe attemptId fence fenced id new stored about covered
    rcases Table.put_some stored with ⟨rfl,rfl⟩ | ⟨_,found⟩
    · subst about
      have found : s.fences new.spec.attemptId = some fence := fenced
      replace unfenced := unfenced safe
      simp [isLocallyFenced,found,AgentDeliveryFence.covers] at unfenced
      omega
    · exact valid.covered safe attemptId fence fenced id new found about covered
  · intro fact member
    obtain ⟨old,found,agrees⟩ := valid.factual fact member
    exact ⟨old,kept found,agrees⟩
  · intro id new stored succeeded
    rcases Table.put_some stored with ⟨rfl,rfl⟩ | ⟨_,found⟩
    · cases unused.symm.trans succeeded
    · exact valid.confirmed id new found succeeded

-- The grant a consumption takes was not consumed before: its row left AUTHORIZED
-- with it.
theorem DeliveryValid.consume (valid : DeliveryValid crypto guarded s) {entry : Consumption}
    (fresh : ∀ other ∈ s.consumptions, other.requestId ≠ entry.requestId)
    (found : s.requests entry.requestId = some row) (used : row.state ≠ .authorized)
    (granted : crypto.grantDigest entry.rawGrant = some row.grantDigest)
    (unexpired : entry.consumedAt < row.spec.expiresAt)
    (unfenced : ∀ generation, entry.fencedGeneration = some generation → generation < row.spec.attemptGeneration) :
    DeliveryValid crypto guarded (s.consume entry) := by
  refine ⟨valid.identified,valid.fenceIds,?_,?_,valid.covered,valid.facts,valid.factual,valid.confirmed⟩
  · refine KeyedRows.unique_insert valid.once ?_
    exact List.find?_eq_none.mpr fun other member => by simpa using fresh other member
  · intro other member
    rcases List.mem_append.mp member with old | new
    · exact valid.consumed other old
    · cases List.mem_singleton.mp new
      exact ⟨row,found,used,granted,unexpired,unfenced⟩

theorem DeliveryValid.addFact (valid : DeliveryValid crypto guarded s) {fact : AgentDeliveryFact}
    (absent : s.fact fact.pushRequestId = none) (found : s.requests fact.pushRequestId = some row)
    (agrees : (fact.topic = .confirmed ∧ row.state = .succeeded) ∨ (fact.topic = .fenced ∧ row.state = .fenced)) :
    DeliveryValid crypto guarded (s.addFact fact) := by
  refine ⟨valid.identified,valid.fenceIds,valid.once,valid.consumed,valid.covered,
    KeyedRows.unique_insert valid.facts absent,?_,?_⟩
  · intro other member
    rcases List.mem_append.mp member with old | new
    · exact valid.factual other old
    · cases List.mem_singleton.mp new
      exact ⟨row,found,agrees⟩
  · intro id new stored succeeded
    obtain ⟨other,member,about,topic⟩ := valid.confirmed id new stored succeeded
    exact ⟨other,List.mem_append_left _ member,about,topic⟩

-- A success and its fact are one write.
theorem DeliveryValid.succeeded (valid : DeliveryValid crypto guarded s) {fact : AgentDeliveryFact}
    (found : s.requests fact.pushRequestId = some row) (moved : RowMoves row new) (done : new.state = .succeeded)
    (absent : s.fact fact.pushRequestId = none) (topic : fact.topic = .confirmed) :
    DeliveryValid crypto guarded ((s.putRequests (s.requests.put fact.pushRequestId new)).addFact fact) := by
  have advances : Table.Advances RowMoves s.requests (s.requests.put fact.pushRequestId new) := by
    refine .put .refl fun old stored => ?_
    cases found.symm.trans stored
    exact moved
  have unnamed : ∀ other ∈ s.facts, other.pushRequestId ≠ fact.pushRequestId := KeyedRows.find_none absent
  refine ⟨?_,valid.fenceIds,valid.once,?_,?_,KeyedRows.unique_insert valid.facts absent,?_,?_⟩
  · intro id row' stored
    rcases Table.put_some stored with ⟨rfl,rfl⟩ | ⟨_,old⟩
    · exact moved.id.trans (valid.identified _ row found)
    · exact valid.identified id row' old
  · intro entry member
    obtain ⟨old,stored,used,granted,unexpired,unfenced⟩ := valid.consumed entry member
    obtain ⟨row',kept,moved⟩ := advances _ old stored
    refine ⟨row',kept,fun unused => used (moved.used unused),?_,?_,?_⟩
    · rw [moved.grant]
      exact granted
    · rw [moved.spec]
      exact unexpired
    · rw [moved.spec]
      exact unfenced
  · intro safe attemptId fence fenced id row' stored about covered
    rcases Table.put_some stored with ⟨rfl,rfl⟩ | ⟨_,old⟩
    · rw [done]
      rfl
    · exact valid.covered safe attemptId fence fenced id row' old about covered
  · intro other member
    rcases List.mem_append.mp member with old | latest
    · obtain ⟨row',stored,agrees⟩ := valid.factual other old
      exact ⟨row',(Table.put_other _ _ (unnamed other old)).trans stored,agrees⟩
    · cases List.mem_singleton.mp latest
      exact ⟨new,Table.put_same _ _ _,.inl ⟨topic,done⟩⟩
  · intro id row' stored success
    rcases Table.put_some stored with ⟨rfl,rfl⟩ | ⟨_,old⟩
    · exact ⟨fact,List.mem_append_right _ (List.mem_singleton.mpr rfl),rfl,topic⟩
    · obtain ⟨other,member,about,named⟩ := valid.confirmed id row' old success
      exact ⟨other,List.mem_append_left _ member,about,named⟩

theorem RowStep.inFlight (unused : row.state = .authorized) (now next : Time) :
    RowStep row (row.inFlight now next) := by
  refine ⟨⟨rfl,rfl,rfl,⟨Nat.le_succ _,fun done => ?_⟩,fun absurd => by cases absurd⟩,fun absurd => by cases absurd⟩
  have here : row.state.terminal = true := done
  rw [unused] at here
  cases here

theorem Write.valid (valid : DeliveryValid crypto guarded s) (write : Write crypto guarded s next) :
    DeliveryValid crypto guarded next := by
  cases write with
  | elsewhere =>
    exact ⟨valid.identified,valid.fenceIds,valid.once,valid.consumed,valid.covered,valid.facts,valid.factual,
      valid.confirmed⟩
  | inserted fresh unused unfenced =>
    have kept := valid.inserted fresh unused unfenced
    exact ⟨kept.identified,kept.fenceIds,kept.once,kept.consumed,kept.covered,kept.facts,kept.factual,kept.confirmed⟩
  | consumed now next found unused granted unexpired unfenced =>
    have step := RowStep.inFlight unused now next
    have moved := valid.stepped (.put found step)
    refine moved.consume ?_ (Table.put_same _ _ _) (fun absurd => by cases absurd) granted unexpired ?_
    · intro other member same
      obtain ⟨row,stored,used,_⟩ := valid.consumed other member
      rw [same] at stored
      cases found.symm.trans stored
      exact used unused
    · intro generation seen
      obtain ⟨fence,fenced,rfl⟩ := Option.map_eq_some_iff.mp seen
      simp [isLocallyFenced,fenced,AgentDeliveryFence.covers] at unfenced
      exact unfenced
  | rows step => exact valid.stepped step
  | fences step fenced =>
    have moved := valid.stepped step
    refine ⟨moved.identified,fenced.identified,moved.once,moved.consumed,?_,moved.facts,moved.factual,moved.confirmed⟩
    intro safe attemptId fence stored
    rcases fenced.covers safe attemptId fence stored with ⟨old,before,lower⟩ | closed
    · intro id row found about covered
      exact moved.covered safe attemptId old before id row found about (Nat.le_trans covered lower)
    · exact closed
  | confirmed found moved succeeded absent about topic =>
    subst about
    exact valid.succeeded found moved succeeded absent topic
  | recorded found step fenced absent about topic =>
    subst about
    exact (valid.stepped (.put found step)).addFact absent (Table.put_same _ _ _) (.inr ⟨topic,fenced⟩)

theorem DeliveryMoves.still (rows : Table.Advances RowMoves s.requests next.requests)
    (closed : ∀ id, s.requests id = none → next.requests id = none) (fences : Table.Advances Raised s.fences next.fences)
    (same : next.consumptions = s.consumptions) : DeliveryMoves guarded s next := by
  refine ⟨rows,fun _ id row absent stored => ?_,fences,fun _ _ _ _ => by rw [same],fun entry member => ?_⟩
  · cases (closed id absent).symm.trans stored
  · rw [same]
    exact member

theorem Write.moves (write : Write crypto guarded s next) : DeliveryMoves guarded s next := by
  cases write with
  | elsewhere => exact .still (.refl .refl _) (fun _ absent => absent) (.refl .refl _) rfl
  | inserted fresh unused unfenced =>
    refine ⟨.put .refl fun old stored => ?_,?_,.refl .refl _,fun _ _ _ _ => rfl,fun _ member => member⟩
    · cases fresh.symm.trans stored
    · intro safe id row absent stored
      rcases Table.put_some stored with ⟨rfl,rfl⟩ | ⟨_,old⟩
      · exact unfenced safe
      · cases absent.symm.trans old
  | consumed now next found unused =>
    have step := RowsStep.put found (RowStep.inFlight unused now next)
    refine ⟨fun id row stored => ?_,fun _ id row absent stored => ?_,.refl .refl _,?_,
      fun _ member => List.mem_append_left _ member⟩
    · obtain ⟨row',kept,moved⟩ := step.steps id row stored
      exact ⟨row',kept,moved.toRowMoves⟩
    · cases (step.closed id absent).symm.trans stored
    · intro id row stored done
      refine (List.filter_append ..).trans ?_
      rw [List.filter_cons_of_neg,List.filter_nil,List.append_nil]
      · rfl
      · intro same
        cases of_decide_eq_true same
        cases found.symm.trans stored
        rw [unused] at done
        cases done
  | rows step =>
    exact .still (fun id row stored => (step.steps id row stored).imp fun _ kept => ⟨kept.1,kept.2.toRowMoves⟩)
      step.closed (.refl .refl _) rfl
  | fences step fenced =>
    exact .still (fun id row stored => (step.steps id row stored).imp fun _ kept => ⟨kept.1,kept.2.toRowMoves⟩)
      step.closed fenced.raised rfl
  | confirmed found moved =>
    refine .still (.put .refl fun old stored => ?_) (fun id absent => ?_) (.refl .refl _) rfl
    · cases found.symm.trans stored
      exact moved
    · exact (Table.put_other _ _ fun same => by cases (same ▸ found).symm.trans absent).trans absent
  | recorded found step =>
    have moved := RowsStep.put found step
    exact .still (fun id row stored => (moved.steps id row stored).imp fun _ kept => ⟨kept.1,kept.2.toRowMoves⟩)
      moved.closed (.refl .refl _) rfl

theorem Write.none (s : DeliveryStore) : Write crypto guarded s s := .rows (.refl s.requests)

theorem Write.pushed (write : Write crypto guarded s next) : next.pushed = s.pushed := by
  cases write <;> rfl

theorem checkAgentPush_unfenced (ran : checkAgentPush policy env spec s = .ok ()) :
    isLocallyFenced spec.attemptId spec.attemptGeneration s = false := by
  obtain ⟨_,ran⟩ := require_bind_ok.mp ran
  obtain ⟨_,_,ran⟩ := bind_ok.mp ran
  obtain ⟨_,ran⟩ := require_bind_ok.mp ran
  exact require_ok.mp ran

-- What an authorization writes: nothing for a key that is there, else the new row.
theorem recordAgentPush_ok (ran : recordAgentPush crypto env spec s = .ok (next,row,replayed)) :
    (replayed = true ∧ next = s) ∨ (replayed = false ∧ row = authorizedRequest crypto env spec ∧
      s.byIdempotency (spec.workspaceId,spec.idempotencyKey) = none ∧ s.requests row.id = none ∧
      next = {s with
        requests := s.requests.put row.id row
        byIdempotency := s.byIdempotency.put (spec.workspaceId,spec.idempotencyKey) row.id
        byCoordinate := s.byCoordinate.put spec.coordinate row.id}) := by
  unfold recordAgentPush at ran
  split at ran
  · obtain ⟨_,ran⟩ := require_bind_ok.mp ran
    cases pure_ok.mp ran
    exact .inl ⟨rfl,rfl⟩
  · obtain ⟨inserted,insert,ran⟩ := bind_ok.mp ran
    cases pure_ok.mp ran
    simp only [insertAgentPush,require_bind_ok,pure_ok] at insert
    obtain ⟨fresh,unnamed,_,rfl⟩ := insert
    exact .inr ⟨rfl,rfl,unnamed,fresh,rfl⟩

theorem authorizeAgentPush_write
    (ran : authorizeAgentPush crypto policy env spec s = .ok (next,row,replayed)) : Write crypto guarded s next := by
  obtain ⟨_,checked,ran⟩ := bind_ok.mp ran
  obtain ⟨_,rfl⟩ | ⟨_,rfl,_,fresh,rfl⟩ := recordAgentPush_ok ran
  · exact .none _
  · exact .inserted fresh rfl (fun _ => checkAgentPush_unfenced checked) _ _ _

-- The INSERT of an authorization that found no fence row to lock.
theorem recordAgentPush_write
    (unfenced : guarded → isLocallyFenced spec.attemptId spec.attemptGeneration s = false ∨
      (s.byIdempotency (spec.workspaceId,spec.idempotencyKey)).isSome = true)
    (ran : recordAgentPush crypto env spec s = .ok (next,row,replayed)) :
    Write crypto guarded s (if replayed then next else next.unguard row.id) := by
  obtain ⟨rfl,rfl⟩ | ⟨rfl,rfl,unnamed,fresh,rfl⟩ := recordAgentPush_ok ran
  · exact .none _
  · refine .inserted fresh rfl (fun safe => ?_) _ _ _
    rcases unfenced safe with here | named
    · exact here
    · rw [unnamed] at named
      cases named

theorem consumeAgentPush_some
    (taken : consumeAgentPush crypto requestId rawGrant now nextReconcileAt s = some (next,consumed)) :
    ∃ row, s.requests requestId = some row ∧ row.state = .authorized ∧
      crypto.grantDigest rawGrant = some row.grantDigest ∧ now < row.spec.expiresAt ∧
      isLocallyFenced row.spec.attemptId row.spec.attemptGeneration s = false ∧
      consumed = row.inFlight now nextReconcileAt ∧
      next = (s.putRequests (s.requests.put requestId consumed)).consume ⟨requestId,rawGrant,now,
        (s.fences row.spec.attemptId).map AgentDeliveryFence.fencedGeneration⟩ := by
  unfold consumeAgentPush at taken
  split at taken
  · rename_i row found
    split at taken
    · rename_i checked
      cases taken
      exact ⟨row,found,checked.1,checked.2.1,checked.2.2.1,checked.2.2.2,rfl,rfl⟩
    · cases taken
  · cases taken

theorem transitionAgentPush_some
    (taken : transitionAgentPush requestId expected attempts change s = some (next,new)) :
    ∃ row, s.requests requestId = some row ∧ row.state = expected ∧ (∀ n, attempts = some n → row.attempts = n) ∧
      new = change row ∧ next = s.putRequests (s.requests.put requestId new) := by
  obtain ⟨⟨rows,row⟩,moved,same⟩ := Option.map_eq_some_iff.mp taken
  cases same
  obtain ⟨row,found,state,held,rfl,rfl⟩ := transition_some moved
  exact ⟨row,found,state,held,rfl,rfl⟩

-- A change of the bookkeeping columns only, from an open state or within one.
theorem RowStep.of (id : new.id = old.id) (spec : new.spec = old.spec) (grant : new.grantDigest = old.grantDigest)
    (attempts : old.attempts ≤ new.attempts) (final : old.state.terminal = true → new.state = old.state)
    (used : new.state ≠ .authorized) (unconfirmed : new.state = .succeeded → old.state = .succeeded) :
    RowStep old new :=
  ⟨⟨id,spec,grant,⟨attempts,final⟩,fun unused => absurd unused used⟩,unconfirmed⟩

theorem consumeGrant_write (valid : DeliveryValid crypto guarded s)
    (ran : consumeGrant crypto policy requestId rawGrant now s = .ok (next,consumed)) :
    Write crypto guarded s next ∧ ∀ row, consumed = some row → row.id = requestId ∧
      (∃ old, s.requests requestId = some old ∧ old.state = .authorized) ∧
      next.requests requestId = some row ∧ ∃ entry ∈ next.consumptions, entry.requestId = requestId := by
  unfold consumeGrant at ran
  obtain ⟨digest,_,ran⟩ := orRaise_bind_ok.mp ran
  split at ran
  · rename_i taken
    cases pure_ok.mp ran
    obtain ⟨row,found,unused,granted,unexpired,unfenced,rfl,rfl⟩ := consumeAgentPush_some taken
    refine ⟨.consumed _ _ found unused granted unexpired unfenced,?_⟩
    rintro _ ⟨⟩
    have same : row.id = requestId := valid.identified _ _ found
    exact ⟨same,⟨row,found,unused⟩,Table.put_same _ _ _,
      ⟨_,List.mem_append_right _ (List.mem_singleton.mpr rfl),rfl⟩⟩
  · obtain ⟨current,_,ran⟩ := orRaise_bind_ok.mp ran
    split at ran
    · cases pure_ok.mp ran
      exact ⟨.none s,fun _ absurd => by cases absurd⟩
    · split at ran
      · obtain ⟨⟨moved,new⟩,taken,ran⟩ := orRaise_bind_ok.mp ran
        cases pure_ok.mp ran
        obtain ⟨row,found,state,_,rfl,rfl⟩ := transitionAgentPush_some taken
        refine ⟨.rows (.put found (.of rfl rfl rfl (Nat.le_refl _) ?_ ?_ ?_)),fun _ absurd => by cases absurd⟩
        · rw [state]
          intro absurd
          cases absurd
        · intro absurd
          cases absurd
        · intro absurd
          cases absurd
      · obtain ⟨_,ran⟩ := require_bind_ok.mp ran
        cases ran

theorem insertFact_ok (ran : insertFact id' topic row observedAt reasonCode s = .ok next) :
    s.fact row.id = none ∧
      next = s.addFact ⟨id',row.id,topic,factPayload row observedAt reasonCode,row.spec.correlationId,observedAt⟩ := by
  simp only [insertFact,require_bind_ok,pure_ok] at ran
  exact ⟨ran.1,ran.2.symm⟩

theorem AgentPushRequest.complete_moves {row : AgentPushRequest} (opened : row.state.terminal = false)
    (used : completion.state ≠ .authorized) : RowMoves row (row.complete now completion) := by
  refine ⟨rfl,rfl,rfl,⟨Nat.le_refl _,fun done => ?_⟩,fun unused => absurd unused used⟩
  have here : row.state.terminal = true := done
  rw [opened] at here
  cases here

-- What a completion wrote: the claimed row, still held, or nothing.
theorem finish_write (valid : DeliveryValid crypto guarded s) (opened : expected.terminal = false)
    (used : completion.state ≠ .authorized)
    (ran : finish expected claimed completion now factId s = .ok (next,row)) :
    Write crypto guarded s next ∧ next.requests claimed.id = some row ∧
      ((∃ old, s.requests claimed.id = some old ∧ old.state = expected ∧ old.attempts = claimed.attempts ∧
        row = old.complete now completion) ∨
        next = s ∧ (row.state ≠ expected ∨ row.attempts ≠ claimed.attempts)) := by
  unfold finish at ran
  split at ran
  · rename_i moved new taken
    obtain ⟨old,found,state,held,rfl,rfl⟩ := transitionAgentPush_some taken
    have step : RowMoves old (old.complete now completion) :=
      AgentPushRequest.complete_moves (by rw [state]; exact opened) used
    have same : old.id = claimed.id := valid.identified _ _ found
    have taken : ∃ old', s.requests claimed.id = some old' ∧ old'.state = expected ∧
        old'.attempts = claimed.attempts ∧ old.complete now completion = old'.complete now completion :=
      ⟨old,found,state,held _ rfl,rfl⟩
    split at ran
    · rename_i done _
      obtain ⟨inserted,insert,ran⟩ := bind_ok.mp ran
      cases pure_ok.mp ran
      obtain ⟨absent,rfl⟩ := insertFact_ok insert
      exact ⟨.confirmed found step done (same ▸ absent) same rfl,Table.put_same _ _ _,.inl taken⟩
    · cases ran
    · rename_i unconfirmed missing
      cases pure_ok.mp ran
      have lost : completion.state ≠ .succeeded := by
        intro success
        cases observation : completion.observation with
        | none => exact missing success observation
        | some seen => exact unconfirmed _ _ success observation
      exact ⟨.rows (.put found ⟨step,fun success => absurd success lost⟩),Table.put_same _ _ _,.inl taken⟩
  · rename_i missed
    obtain ⟨current,found,ran⟩ := orRaise_bind_ok.mp ran
    cases pure_ok.mp ran
    exact ⟨.none s,found,.inr ⟨rfl,transition_none (Option.map_eq_none_iff.mp missed) found⟩⟩

theorem recordFencedObservation_write (valid : DeliveryValid crypto guarded s)
    (ran : recordFencedObservation requestId head observedAt now factId s = .ok (next,row)) :
    Write crypto guarded s next ∧ next.requests requestId = some row ∧
      ∀ old, s.requests requestId = some old → row.state = old.state := by
  unfold recordFencedObservation at ran
  split at ran
  · rename_i moved new taken
    obtain ⟨old,found,state,_,rfl,rfl⟩ := transitionAgentPush_some taken
    have fenced : (old.recordObservation head observedAt now).state = .fenced := state
    have step : RowStep old (old.recordObservation head observedAt now) := by
      refine .of rfl rfl rfl (Nat.le_refl _) (fun _ => rfl) ?_ ?_ <;> rw [fenced] <;> intro absurd <;> cases absurd
    have same : old.id = requestId := valid.identified _ _ found
    have still (before : AgentPushRequest) (stored : s.requests requestId = some before) :
        (old.recordObservation head observedAt now).state = before.state := by
      cases found.symm.trans stored
      rfl
    split at ran
    · obtain ⟨inserted,insert,ran⟩ := bind_ok.mp ran
      cases pure_ok.mp ran
      obtain ⟨absent,rfl⟩ := insertFact_ok insert
      exact ⟨.recorded found step fenced (same ▸ absent) same rfl,Table.put_same _ _ _,still⟩
    · cases pure_ok.mp ran
      exact ⟨.rows (.put found step),Table.put_same _ _ _,still⟩
  · obtain ⟨current,found,ran⟩ := orRaise_bind_ok.mp ran
    cases pure_ok.mp ran
    refine ⟨.none s,found,fun old stored => ?_⟩
    cases found.symm.trans stored
    rfl

theorem reconcilable_open (due : reconcilable now row = true) :
    row.state.terminal = false ∧ row.state ≠ .authorized := by
  have states : row.state = .inFlight ∨ row.state = .unknown ∨ row.state = .reconciliation := by
    simp only [reconcilable,decide_eq_true_eq] at due
    exact due.1
  rcases states with same | same | same <;> rw [same] <;> exact ⟨rfl,fun absurd => by cases absurd⟩

theorem claimReconcilable_write (valid : DeliveryValid crypto guarded s)
    (ran : claimReconcilable limit now leaseUntil ids s = some (next,claimed)) :
    Write crypto guarded s next ∧ (∀ row ∈ claimed, next.requests row.id = some row) ∧
      ∀ row ∈ claimed, ∃ old, s.requests row.id = some old ∧ row = old.claim now leaseUntil := by
  unfold claimReconcilable at ran
  split at ran
  · rename_i checked
    obtain ⟨_,_,_,due⟩ := checked
    cases ran
    have step : RowsStep s.requests (claimAll s.requests ids (AgentPushRequest.claim now leaseUntil)) := by
      refine .updateAll fun id row found => ?_
      split
      · rename_i chosen
        have here := due id chosen
        rw [found] at here
        have opened := reconcilable_open (Option.any_some .. ▸ here)
        refine .of rfl rfl rfl (Nat.le_succ _) (fun done => ?_) (fun absurd => by cases absurd)
          (fun absurd => by cases absurd)
        rw [opened.1] at done
        cases done
      · exact .refl row
    have read {row : AgentPushRequest} (member : row ∈ ids.filterMap
        (claimAll s.requests ids (AgentPushRequest.claim now leaseUntil))) :
        claimAll s.requests ids (AgentPushRequest.claim now leaseUntil) row.id = some row ∧
          ∃ old, s.requests row.id = some old ∧ row = old.claim now leaseUntil := by
      obtain ⟨id,chosen,stored⟩ := List.mem_filterMap.mp member
      obtain ⟨old,found,⟨_,rfl⟩ | ⟨missing,_⟩⟩ := claimAll_some stored
      · have same : (old.claim now leaseUntil).id = id := valid.identified id old found
        rw [same]
        exact ⟨stored,old,found,rfl⟩
      · exact absurd chosen missing
    exact ⟨.rows step,fun row member => (read member).1,fun row member => (read member).2⟩
  · cases ran

theorem FencesStep.put (valid : DeliveryValid crypto guarded s) {fence : AgentDeliveryFence} (about : fence.attemptId = attempt)
    (raised : ∀ old, s.fences attempt = some old → old.fencedGeneration ≤ fence.fencedGeneration)
    (covers : guarded → (∃ old, s.fences attempt = some old ∧ fence.fencedGeneration ≤ old.fencedGeneration) ∨
      ∀ id row, rows id = some row → row.spec.attemptId = attempt →
        row.spec.attemptGeneration ≤ fence.fencedGeneration → row.state.terminal = true) :
    FencesStep guarded s (s.fences.put attempt fence) rows := by
  refine ⟨.put .refl fun old found => ⟨about.trans (valid.fenceIds _ old found).symm,raised old found⟩,?_,?_⟩
  · intro attemptId stored found
    rcases Table.put_some found with ⟨rfl,rfl⟩ | ⟨_,before⟩
    · exact about
    · exact valid.fenceIds attemptId stored before
  · intro safe attemptId stored found
    rcases Table.put_some found with ⟨rfl,rfl⟩ | ⟨_,before⟩
    · exact covers safe
    · exact .inl ⟨stored,before,Nat.le_refl _⟩

theorem fenceOpenAgentPushes_step (s : DeliveryStore) (fence : AgentDeliveryFence) (now : Time) (missed : List Uuid) :
    RowsStep s.requests (fenceOpenAgentPushes fence now missed s).requests := by
  refine .updateAll fun id row found => ?_
  split
  · rename_i chosen
    have opened : row.state.terminal = false := by
      simp only [openFor,decide_eq_true_eq] at chosen
      exact chosen.1.2.2
    refine .of rfl rfl rfl (Nat.le_refl _) (fun done => ?_) (fun absurd => by cases absurd)
      (fun absurd => by cases absurd)
    rw [opened] at done
    cases done
  · exact .refl row

-- What fencing leaves behind when it misses nothing: nothing open that the fence covers.
theorem fenceOpenAgentPushes_closes {s : DeliveryStore} {fence : AgentDeliveryFence} {now : Time} {missed : List Uuid}
    (unmissed : ∀ id ∈ missed, (s.requests id).any (openFor fence.attemptId fence.fencedGeneration) = false)
    (stored : (fenceOpenAgentPushes fence now missed s).requests id' = some row) (about : row.spec.attemptId = fence.attemptId)
    (covered : row.spec.attemptGeneration ≤ fence.fencedGeneration) : row.state.terminal = true := by
  obtain ⟨old,found,same⟩ := Option.map_eq_some_iff.mp stored
  subst same
  dsimp only at about covered ⊢
  split
  · rfl
  · rename_i skipped
    rw [if_neg skipped] at about covered
    have settled : ¬old.state.terminal = false := by
      intro opened
      have chosen : openFor fence.attemptId fence.fencedGeneration old = true :=
        decide_eq_true ⟨about,covered,opened⟩
      refine skipped ⟨chosen,fun member => ?_⟩
      have other := unmissed id' member
      rw [found] at other
      exact absurd chosen (by simpa using other)
    simpa using settled

theorem fenceAgentAttempt_write (valid : DeliveryValid crypto guarded s) {missed : List Uuid}
    (covers : guarded → unmissed command now missed s = true) :
    Write crypto guarded s (fenceAgentAttempt command now missed s).1 := by
  have none' (safe : guarded) (id : Uuid) (member : id ∈ missed) :
      (s.requests id).any (openFor command.attemptId (upsertAttemptFence command now s).2.fencedGeneration) = false := by
    simpa using List.all_eq_true.mp (covers safe) id member
  unfold fenceAgentAttempt
  unfold upsertAttemptFence at none' ⊢
  cases found : s.fences command.attemptId with
  | none =>
    simp only [found] at none' ⊢
    have step := fenceOpenAgentPushes_step s (newFence command now) now missed
    refine .fences step (.put valid rfl (fun old stored => ?_) fun safe => .inr fun id row stored => ?_)
    · cases found.symm.trans stored
    · exact fenceOpenAgentPushes_closes (none' safe) stored
  | some current =>
    simp only [found] at none' ⊢
    by_cases lower : current.fencedGeneration < command.fencedGeneration
    · simp only [lower,if_true] at none' ⊢
      have step := fenceOpenAgentPushes_step s (current.raise command now) now missed
      refine .fences step (.put valid rfl (fun old stored => ?_) fun safe => .inr fun id row stored => ?_)
      · cases found.symm.trans stored
        exact Nat.le_of_lt lower
      · exact fenceOpenAgentPushes_closes (none' safe) stored
    · simp only [lower,if_false]
      exact .rows (fenceOpenAgentPushes_step s _ now missed)

theorem completeRevocation_write (valid : DeliveryValid crypto guarded s) (policy : AgentDeliveryPolicy)
    (fence : AgentDeliveryFence) (target : RevocationState) (attempts : Nat) (now : Time) :
    Write crypto guarded s (completeRevocation policy fence target attempts now s) := by
  unfold completeRevocation
  split
  · rename_i current found
    split
    · have still (due : Option Time) : FencesStep guarded s
          (s.fences.put fence.attemptId (current.settle target attempts due now)) s.requests := by
        refine .put valid (valid.fenceIds _ current found) (fun old stored => ?_)
          fun _ => .inl ⟨current,found,Nat.le_refl _⟩
        cases found.symm.trans stored
        exact Nat.le_refl _
      exact .fences (.refl s.requests) (still _)
    · exact .none s
  · exact .none s

theorem claimDueRevocations_write (valid : DeliveryValid crypto guarded s)
    (ran : claimDueRevocations limit now leaseUntil attemptIds s = some (next,claimed)) : Write crypto guarded s next := by
  unfold claimDueRevocations at ran
  split at ran
  · cases ran
    refine .fences (.refl s.requests) ⟨.updateAll fun attemptId fence found => ?_,?_,?_⟩
    · split
      · exact ⟨rfl,Nat.le_refl _⟩
      · exact .refl fence
    · intro attemptId fence stored
      obtain ⟨old,found,⟨_,rfl⟩ | ⟨_,rfl⟩⟩ := claimAll_some stored
      · exact valid.fenceIds attemptId old found
      · exact valid.fenceIds attemptId fence found
    · intro _ attemptId fence stored
      obtain ⟨old,found,⟨_,rfl⟩ | ⟨_,rfl⟩⟩ := claimAll_some stored
      · exact .inl ⟨old,found,Nat.le_refl _⟩
      · exact .inl ⟨fence,found,Nat.le_refl _⟩
  · cases ran

end EngineeringPlatform.Delivery
