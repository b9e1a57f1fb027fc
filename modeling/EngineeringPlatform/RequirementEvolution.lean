import EngineeringPlatform.RequirementConsistent
-- What one command can do to the rows of a consistent requirement: to a row
-- that waits for Source Control, to a merged one, to evidence in force.
namespace EngineeringPlatform.Requirement
open Checked
open Aggregate (invalidationBlock)

-- The formal callback a pending row waits for.
def Command.Answers : Command → WorkItem → Prop
  | .recordFormalReconciliationPending workItemId _ expectedRevision,row =>
    row.id = workItemId ∧ row.revision = expectedRevision
  | .recordFormalDeliveryBlocked workItemId _ _ expectedRevision,row =>
    row.id = workItemId ∧ matchesFormalCallbackRevision row expectedRevision
  | .recordFormalMrReady workItemId _ _ expectedRevision _,row =>
    row.id = workItemId ∧ matchesFormalCallbackRevision row expectedRevision
  | .recordFormalMerged workItemId _ _ _ expectedRevision,row =>
    row.id = workItemId ∧ matchesFormalCallbackRevision row expectedRevision
  | _,_ => False

-- The operations that send delivered work back.
def Command.Reworks : Command → Prop
  | .decideRequirementAcceptance _ outcome _ _ _ => outcome ≠ .approved
  | .decideFormalReview _ outcome _ _ _ => outcome ≠ .approved
  | .recordFormalDeliveryBlocked _ _ _ _ => True
  | .recordFormalMrReady _ _ _ _ _ => True
  | .recordFormalMerged _ _ _ _ _ => True
  | _ => False

-- Back at work, with no evidence in force and nothing waiting.
structure Withdrawn (a : Aggregate) : Prop where
  state : a.requirement.state = .inProgress
  selections : ∀ selection ∈ a.selections, selection.invalidatedAt ≠ none
  gates : ∀ gate ∈ a.deliveryGates, gate.state = .invalidated
  decisions : ∀ decision ∈ a.decisions, decision.validity = .invalidated
  calm : ∀ row ∈ a.workItems, row.formalDeliveryState.pending = false

structure SameFormal (old new : WorkItem) : Prop where
  state : new.formalDeliveryState = old.formalDeliveryState
  binding : new.formalMergeRequestBindingId = old.formalMergeRequestBindingId
  reason : new.formalBlockedReasonCode = old.formalBlockedReasonCode
  updated : new.formalUpdatedAt = old.formalUpdatedAt

inductive RowStep (command : Command) (a' : Aggregate) (old : WorkItem) : WorkItem → Prop where
  | same : RowStep command a' old old
  | delivery (formal : SameFormal old new) (settled : old.Settled)
      (keeps : old.integrationDeliveryState = .integrated → new.integrationDeliveryState = .integrated) :
      RowStep command a' old new
  | requested (settled : old.Settled) (unmerged : old.formalDeliveryState ≠ .merged)
      (integration : new.integrationDeliveryState = old.integrationDeliveryState) : RowStep command a' old new
  | answered (waits : old.formalDeliveryState.pending = true) (answers : command.Answers old)
      (integration : new.integrationDeliveryState = old.integrationDeliveryState) : RowStep command a' old new
  | reworked (unmerged : old.formalDeliveryState ≠ .merged)
      (waits : old.formalDeliveryState.pending = true → command.Answers old) (reworks : command.Reworks)
      (withdrawn : Withdrawn a') : RowStep command a' old new

def RowsStep (command : Command) (a a' : Aggregate) : Prop :=
  ∀ old ∈ a.workItems, ∃ new ∈ a'.workItems, new.id = old.id ∧ RowStep command a' old new

-- Every selection, gate and decision in force is still in force.
structure EvidenceStands (a a' : Aggregate) : Prop where
  selections : ∀ id selection, a.selectionById id = some selection → a'.selectionById id = some selection
  gates : ∀ id gate, a.deliveryGateById id = some gate →
    ∃ gate', a'.deliveryGateById id = some gate' ∧ (gate'.state = .invalidated → gate.state = .invalidated)
  decisions : ∀ id decision, a.deliveryDecisionByGate id = some decision →
    a'.deliveryDecisionByGate id = some decision

structure Evolution (command : Command) (a a' : Aggregate) : Prop where
  rows : RowsStep command a a'
  requests : ∀ old ∈ a.workItems, old.formalDeliveryState.pending = true →
    latestFormalRequest a'.outbox old.id = latestFormalRequest a.outbox old.id
  evidence : EvidenceStands a a' ∨ ∀ row ∈ a'.workItems, row.formalDeliveryState.pending = false

theorem EvidenceStands.of_eq (selections : a'.selections = a.selections) (gates : a'.deliveryGates = a.deliveryGates)
    (decisions : a'.decisions = a.decisions) : EvidenceStands a a' := by
  refine ⟨?_,?_,?_⟩
  · intro id selection found
    unfold Aggregate.selectionById at found ⊢
    rw [selections]
    exact found
  · intro id gate found
    refine ⟨gate,?_,fun dead => dead⟩
    unfold Aggregate.deliveryGateById at found ⊢
    rw [gates]
    exact found
  · intro id decision found
    unfold Aggregate.deliveryDecisionByGate at found ⊢
    rw [decisions]
    exact found

theorem Evolution.plain (rows : RowsStep command a a')
    (outbox : ∀ workItemId, latestFormalRequest a'.outbox workItemId = latestFormalRequest a.outbox workItemId)
    (selections : a'.selections = a.selections) (gates : a'.deliveryGates = a.deliveryGates)
    (decisions : a'.decisions = a.decisions) : Evolution command a a' :=
  ⟨rows,fun old _ _ => outbox old.id,.inl (.of_eq selections gates decisions)⟩

theorem RowsStep.same (items : a'.workItems = a.workItems) : RowsStep command a a' := by
  intro old present
  exact ⟨old,items ▸ present,rfl,.same⟩

theorem RowsStep.replaced {a : Aggregate} {old new : WorkItem} (rows : RowsOk a.workItems)
    (found : a.workItemById workItemId = some old) (keyed : new.id = old.id)
    (items : a'.workItems = (a.replaced workItemId new).workItems) (step : RowStep command a' old new) :
    RowsStep command a a' := by
  intro row present
  obtain ⟨there,here⟩ := KeyedRows.find_some found
  rw [items]
  by_cases same : row.id = workItemId
  · have one : a.workItemById row.id = some row := KeyedRows.find_of_mem rows.unique present
    rw [same] at one
    cases found.symm.trans one
    exact ⟨new,List.mem_map.mpr ⟨old,present,if_pos same⟩,keyed,step⟩
  · exact ⟨row,List.mem_map.mpr ⟨row,present,if_neg same⟩,rfl,.same⟩

variable {change : WorkItem → WorkItem}

theorem RowsStep.mapped (items : a'.workItems = a.workItems.map change)
    (step : ∀ row ∈ a.workItems, (change row).id = row.id ∧ RowStep command a' row (change row)) :
    RowsStep command a a' := by
  intro row present
  obtain ⟨keyed,steps⟩ := step row present
  exact ⟨change row,items ▸ List.mem_map_of_mem present,keyed,steps⟩

theorem RowsStep.writtenIf {chosen : WorkItem → Bool}
    (items : a'.workItems = a.workItems.map (WorkItem.writtenIf chosen change))
    (step : ∀ row ∈ a.workItems, chosen row = true →
      (change row).id = row.id ∧ RowStep command a' row (row.written change)) : RowsStep command a a' := by
  refine .mapped items fun row present => ?_
  unfold WorkItem.writtenIf
  split
  · rename_i taken
    exact step row present taken
  · exact ⟨rfl,.same⟩

-- Planning.

theorem Evolution.same (items : a'.workItems = a.workItems)
    (outbox : ∀ workItemId, latestFormalRequest a'.outbox workItemId = latestFormalRequest a.outbox workItemId)
    (selections : a'.selections = a.selections) (gates : a'.deliveryGates = a.deliveryGates)
    (decisions : a'.decisions = a.decisions) : Evolution command a a' :=
  .plain (.same items) outbox selections gates decisions

theorem Evolution.refl (command : Command) (a : Aggregate) : Evolution command a a := .same rfl (fun _ => rfl) rfl rfl rfl

theorem Evolution.moved (command : Command) (a : Aggregate) (state : RequirementState) :
    Evolution command a (a.moved state) := .same rfl (fun _ => rfl) rfl rfl rfl

theorem acknowledgeRepositoryBindingRequest_evolves
    (ran : acknowledgeRepositoryBindingRequest a messageId = .ok a') : Evolution command a a' := by
  unfold acknowledgeRepositoryBindingRequest at ran
  rw [require_bind_ok] at ran
  obtain ⟨_,ran⟩ := ran
  split at ran
  · obtain ⟨_,rfl⟩ := Aggregate.updateRequirementState_ok.mp ran
    exact .moved command a .preparing
  · cases pure_ok.mp ran
    exact .refl command a

theorem startRequirementPreparation_evolves (ran : startRequirementPreparation a expectedRevision = .ok a') :
    Evolution command a a' := by
  unfold startRequirementPreparation at ran
  rw [require_bind_ok,require_bind_ok,bind_ok] at ran
  obtain ⟨_,_,target,_,ran⟩ := ran
  obtain ⟨_,rfl⟩ := Aggregate.updateRequirementState_ok.mp ran
  exact .moved command a target

theorem createSddArtifact_evolves (ran : createSddArtifact a expectedRevision = .ok a') : Evolution command a a' := by
  unfold createSddArtifact at ran
  rw [require_bind_ok,require_bind_ok] at ran
  obtain ⟨_,_,ran⟩ := ran
  obtain ⟨_,rfl⟩ := Aggregate.updateRequirementState_ok.mp ran
  exact .moved command a .preparing

theorem registerSddBaseline_evolves
    (ran : registerSddBaseline d a artifactId artifactVersion expectedRevision actor = .ok a') :
    Evolution command a a' := by
  unfold registerSddBaseline at ran
  simp only [bind_ok,require_ok,orRaise_ok,exists_const] at ran
  obtain ⟨_,_,_,artifacts,_,_,_,_,_,snapshot,_,_,ran⟩ := ran
  split at ran
  · simp only [bind_ok,require_ok,pure_ok,exists_const] at ran
    obtain ⟨_,_,rfl⟩ := ran
    exact .refl command a
  · obtain ⟨_,rfl⟩ := Aggregate.writeRequirement_ok.mp ran
    exact .same rfl (fun _ => rfl) rfl rfl rfl

theorem submitBaselineConfirmation_evolves
    (ran : submitBaselineConfirmation d a sddBaselineId expectedRevision = .ok a') : Evolution command a a' := by
  unfold submitBaselineConfirmation at ran
  simp only [bind_ok,require_ok,orRaise_ok,exists_const] at ran
  obtain ⟨_,baseline,_,_,_,_,target,_,_,_,policy,_,_,_,ran⟩ := ran
  obtain ⟨_,rfl⟩ := Aggregate.updateRequirementState_ok.mp ran
  exact .same rfl (fun _ => rfl) rfl rfl rfl

theorem reassignBaselineGate_evolves
    (ran : reassignBaselineGate d a gateId reviewerId reason expectedGateRevision actor = .ok a') :
    Evolution command a a' := by
  unfold reassignBaselineGate at ran
  simp only [bind_ok,require_ok,orRaise_ok,exists_const] at ran
  obtain ⟨gate,_,_,_,_,current,_,_,candidateId,_,_,_,_,guard,_,_,_,_,ran⟩ := ran
  obtain ⟨row,_,_,rfl⟩ := writeOpenGate_ok.mp ran
  exact .same rfl (fun _ => rfl) rfl rfl rfl

-- A row whose delivery has not started is settled.
theorem Consistent.unstarted_settled (consistent : Consistent a) (present : row ∈ a.workItems)
    (unstarted : row.integrationDeliveryState = .notStarted) : row.Settled := by
  refine consistent.phased.idle (fun merging => ?_) present
  have integrated := consistent.phased.selected (by rw [merging]; rfl) row present
  cases unstarted.symm.trans integrated

theorem RowsStep.planned_write {row : WorkItem} (consistent : Consistent a)
    (found : a.workItemById workItemId = some row) (unstarted : row.integrationDeliveryState = .notStarted)
    (wrote : a.writeWorkItem workItemId expectedRevision chosen change missing = .ok written)
    (keeps : ∀ row, (change row).id = row.id ∧ SameFormal row (row.written change))
    (items : a'.workItems = written.workItems) : RowsStep command a a' := by
  obtain ⟨row',found',_,_,rfl⟩ := Aggregate.writeWorkItem_ok.mp wrote
  cases found.symm.trans found'
  obtain ⟨keyed,formal⟩ := keeps row
  have settled := consistent.unstarted_settled (KeyedRows.find_some found).1 unstarted
  have step : RowStep command a' row (row.written change) :=
    .delivery formal settled fun integrated => by cases unstarted.symm.trans integrated
  have same : (row.written change).id = row.id := keyed
  exact .replaced consistent.rows found same items step

theorem Evolution.planned_write {row : WorkItem} (consistent : Consistent a)
    (found : a.workItemById workItemId = some row) (unstarted : row.integrationDeliveryState = .notStarted)
    (wrote : a.writeWorkItem workItemId expectedRevision chosen change missing = .ok a')
    (keeps : ∀ row, (change row).id = row.id ∧ SameFormal row (row.written change)) : Evolution command a a' := by
  have rows : RowsStep command a a' := .planned_write consistent found unstarted wrote keeps rfl
  obtain ⟨row',_,_,_,rfl⟩ := Aggregate.writeWorkItem_ok.mp wrote
  exact .plain rows (fun _ => rfl) rfl rfl rfl

theorem recordRepositoryBinding_evolves (consistent : Consistent a)
    (ran : recordRepositoryBinding a workItemId repositoryId baseCommitSha taskBranch expectedRevision = .ok a') :
    Evolution command a a' := by
  unfold recordRepositoryBinding at ran
  simp only [bind_ok,require_ok,orRaise_ok,exists_const] at ran
  obtain ⟨row,found,_,sha,_,branch,_,ran⟩ := ran
  split at ran
  · simp only [bind_ok,require_ok,pure_ok,exists_const] at ran
    obtain ⟨_,rfl⟩ := ran
    exact .refl command a
  · rename_i unbound
    simp only [bind_ok,require_ok,exists_const] at ran
    obtain ⟨_,ran⟩ := ran
    exact .planned_write consistent found (consistent.unbound found unbound) ran fun _ => ⟨rfl,rfl,rfl,rfl,rfl⟩

theorem recordRepositoryBindingBlocked_evolves (consistent : Consistent a)
    (ran : recordRepositoryBindingBlocked d a workItemId repositoryId reasonCode expectedRevision = .ok a') :
    Evolution command a a' := by
  unfold recordRepositoryBindingBlocked at ran
  simp only [bind_ok,require_ok,orRaise_ok,exists_const] at ran
  obtain ⟨row,found,_,unbound,ran⟩ := ran
  split at ran
  · cases pure_ok.mp ran
    exact .refl command a
  · simp only [bind_ok,require_ok,exists_const] at ran
    obtain ⟨_,ran⟩ := ran
    exact .planned_write consistent found (consistent.unbound found unbound) ran fun _ => ⟨rfl,rfl,rfl,rfl,rfl⟩

theorem assignWorkItem_evolves (consistent : Consistent a)
    (ran : assignWorkItem d a workItemId humanOwnerId reason expectedRevision actor = .ok a') :
    Evolution command a a' := by
  unfold assignWorkItem at ran
  simp only [bind_ok,require_ok,orRaise_ok,exists_const] at ran
  obtain ⟨_,row,found,_,unstarted,candidateId,_,_,_,eligible,_,_,_,assigned,wrote,ran⟩ := ran
  have rows {a' : Aggregate} (items : a'.workItems = assigned.workItems) : RowsStep command a a' :=
    .planned_write consistent found unstarted wrote (fun _ => ⟨rfl,rfl,rfl,rfl,rfl⟩) items
  obtain ⟨row',_,_,_,rfl⟩ := Aggregate.writeWorkItem_ok.mp wrote
  split at ran
  · cases pure_ok.mp ran
    exact .plain (rows rfl) (fun _ => latestFormalRequest_other rfl) rfl rfl rfl
  · cases pure_ok.mp ran
    exact .plain (rows rfl) (fun _ => rfl) rfl rfl rfl

theorem addWorkItem_evolves (ran : addWorkItem texts d a repositoryId expectedRevision actor = .ok a') :
    Evolution command a a' := by
  unfold addWorkItem at ran
  simp only [bind_ok,require_ok,orRaise_ok,pure_ok,exists_const] at ran
  obtain ⟨_,_,repository,_,capabilities,_,_,inserted,added,planned,wrote,rfl⟩ := ran
  obtain ⟨_,rfl⟩ := Aggregate.insertWorkItem_ok.mp added
  obtain ⟨_,rfl⟩ := Aggregate.writeRequirement_ok.mp wrote
  refine .plain ?_ (fun _ => latestFormalRequest_other rfl) rfl rfl rfl
  intro old present
  exact ⟨old,List.mem_append_left _ present,rfl,.same⟩

theorem decideBaseline_evolves (consistent : Consistent a)
    (ran : decideBaseline d a gateId outcome reason expectedRevision actor = .ok a') : Evolution command a a' := by
  unfold decideBaseline at ran
  simp only [bind_ok,require_ok,orRaise_ok,exists_const] at ran
  obtain ⟨_,gate,found,opened,_,baseline,_,⟨current,_⟩,assignment,_,_,guard,_,eligible,_,_,_,_,target,_,
    inserted,added,decided,closed,moved,updated,ran⟩ := ran
  obtain ⟨_,rfl⟩ := Aggregate.insertDecision_ok.mp added
  obtain ⟨row,_,_,rfl⟩ := writeOpenGate_ok.mp closed
  obtain ⟨_,rfl⟩ := Aggregate.updateRequirementState_ok.mp updated
  obtain ⟨_,rfl⟩ := Aggregate.writeWorkItems_ok.mp ran
  have planning : a.requirement.state.planning = true := by
    rcases consistent.confirming.current gate (KeyedRows.find_some found).1 opened current with state | state <;>
      rw [state] <;> rfl
  refine .plain (.writtenIf rfl fun row present _ => ⟨rfl,?_⟩) (fun _ => rfl) rfl rfl rfl
  exact .delivery ⟨rfl,rfl,rfl,rfl⟩ (consistent.unmerged planning row present) fun integrated => integrated

-- Integration delivery.

theorem Evolution.worked {old new : WorkItem} (consistent : Consistent a)
    (found : a.workItemById workItemId = some old) (working : a.requirement.state ≠ .awaitingMerge)
    (keyed : new.id = old.id) (formal : SameFormal old new)
    (keeps : old.integrationDeliveryState = .integrated → new.integrationDeliveryState = .integrated)
    (items : a'.workItems = (a.replaced workItemId new).workItems)
    (outbox : ∀ workItemId, latestFormalRequest a'.outbox workItemId = latestFormalRequest a.outbox workItemId)
    (selections : a'.selections = a.selections) (gates : a'.deliveryGates = a.deliveryGates)
    (decisions : a'.decisions = a.decisions) : Evolution command a a' :=
  .plain (.replaced consistent.rows found keyed items
    (.delivery formal (consistent.phased.idle working (KeyedRows.find_some found).1) keeps)) outbox selections gates
    decisions

theorem startWorkItem_evolves (consistent : Consistent a)
    (ran : startWorkItem a workItemId expectedRevision actor = .ok a') : Evolution command a a' := by
  unfold startWorkItem at ran
  simp only [bind_ok,require_ok,exists_const] at ran
  obtain ⟨row,subject,⟨requirementState,workItemState⟩,moves,unstarted,written,wrote,ran⟩ := ran
  obtain ⟨found,_⟩ := deliverySubject_ok subject
  obtain ⟨before,rfl⟩ := transitionHumanWorkStarted_ok moves
  obtain ⟨row',again,_,_,rfl⟩ := Aggregate.writeWorkItem_ok.mp wrote
  cases found.symm.trans again
  obtain ⟨_,rfl⟩ := Aggregate.updateRequirementState_ok.mp ran
  refine .worked consistent found ?_ ?_ ?_ ?_ rfl (fun _ => rfl) rfl rfl rfl
  · intro merging
    rcases before with state | state <;> cases state.symm.trans merging
  · rfl
  · exact ⟨rfl,rfl,rfl,rfl⟩
  · intro integrated
    cases unstarted.symm.trans integrated

theorem requestDelivery_evolves (consistent : Consistent a)
    (ran : requestDelivery d kind a workItemId expectedRevision actor = .ok a') : Evolution command a a' := by
  unfold requestDelivery at ran
  simp only [bind_ok,require_ok,pure_ok,exists_const] at ran
  obtain ⟨row,subject,⟨state,_,delivery⟩,_,written,wrote,touched,moved,rfl⟩ := ran
  obtain ⟨found,_⟩ := deliverySubject_ok subject
  obtain ⟨row',again,_,_,rfl⟩ := Aggregate.writeWorkItem_ok.mp wrote
  cases found.symm.trans again
  obtain ⟨_,rfl⟩ := Aggregate.updateRequirementState_ok.mp moved
  refine .worked consistent found ?_ ?_ ?_ ?_ rfl (fun _ => latestFormalRequest_other rfl) rfl rfl rfl
  · rw [state]
    cases kind <;> exact fun same => by cases same
  · rfl
  · exact ⟨rfl,rfl,rfl,rfl⟩
  · intro integrated
    rw [delivery] at integrated
    cases kind <;> cases integrated

theorem recordCallback_evolves {row : WorkItem → Except RequirementError Projection} (consistent : Consistent a)
    (underway : ∀ subject projection, row subject = .ok projection →
      subject.integrationDeliveryState ≠ .notStarted ∧ subject.integrationDeliveryState ≠ .integrated)
    (ran : recordCallback a workItemId expectedRevision row = .ok a') : Evolution command a a' := by
  obtain ⟨subject,projection,found,_,projected,_,_,rfl⟩ := recordCallback_ok.mp ran
  obtain ⟨started,open_⟩ := underway subject projection projected
  have working := consistent.underway (KeyedRows.find_some found).1 started open_
  obtain ⟨state,revision,frame,_⟩ := advancedIf_frame
    (a.replaced workItemId (subject.written projection.change)) projection.advanceRequirement
  rw [frame]
  refine .worked consistent found ?_ ?_ ?_ (fun integrated => absurd integrated open_) rfl (fun _ => rfl) rfl rfl rfl
  · intro merging
    rcases working with state | state <;> cases state.symm.trans merging
  · rfl
  · exact ⟨rfl,rfl,rfl,rfl⟩

theorem TerminalOutcome.record_evolves (outcome : TerminalOutcome) (consistent : Consistent a)
    (ran : outcome.record a workItemId expectedRevision = .ok a') : Evolution command a a' := by
  rw [record_eq] at ran
  exact recordCallback_evolves consistent (fun _ _ => projection_underway) ran

theorem recordIntegrationReconciliationPending_evolves (consistent : Consistent a)
    (ran : recordIntegrationReconciliationPending a workItemId bindingId expectedRevision = .ok a') :
    Evolution command a a' :=
  recordCallback_evolves consistent (fun _ _ => pendingProjection_underway) ran

-- Evidence.

theorem Invalidation.carried (invalidation : Invalidation a a') (present : old ∈ a.workItems) :
    ∃ new ∈ a'.workItems, new.id = old.id ∧ SameFormal old new ∧
      new.integrationDeliveryState = old.integrationDeliveryState := by
  rw [invalidation.items]
  refine ⟨_,List.mem_map_of_mem present,?_⟩
  unfold WorkItem.writtenIf
  split
  · exact ⟨rfl,⟨rfl,rfl,rfl,rfl⟩,rfl⟩
  · exact ⟨rfl,⟨rfl,rfl,rfl,rfl⟩,rfl⟩

theorem Invalidation.calm_after (invalidation : Invalidation a a') :
    ∀ row ∈ a'.workItems, row.formalDeliveryState.pending = false := by
  intro row member
  obtain ⟨old,there,_,_,formal,_⟩ := invalidation.integrated member
  rw [formal]
  exact invalidation.calm old there

theorem submitExternalValidation_evolves (consistent : Consistent a)
    (ran : submitExternalValidation texts d a given expectedRevision actor = .ok a') : Evolution command a a' := by
  unfold submitExternalValidation at ran
  simp only [bind_ok,require_ok,orRaise_ok,pure_ok,exists_const] at ran
  obtain ⟨stable,_,row,_,_,_,_,_,_,bindingId,_,invalid,ranInvalid,advanced,wrote,rfl⟩ := ran
  have invalidation := invalidateCurrentDeliveryEvidence_ok ranInvalid
  obtain ⟨_,rfl⟩ := Aggregate.writeRequirement_ok.mp wrote
  refine ⟨?_,?_,.inr invalidation.calm_after⟩
  · intro old present
    obtain ⟨new,there,keyed,formal,integration⟩ := invalidation.carried present
    exact ⟨new,there,keyed,.delivery formal (consistent.phased.calm invalidation.calm present)
      fun integrated => integration.trans integrated⟩
  · intro old present waits
    cases (invalidation.calm old present).symm.trans waits

theorem requestIntegrationBaseline_evolves
    (ran : requestIntegrationBaseline texts d a expectedRevision expectedRequirementVersion actor = .ok a') :
    Evolution command a a' := by
  unfold requestIntegrationBaseline at ran
  simp only [bind_ok,require_ok,pure_ok,exists_const] at ran
  obtain ⟨_,_,_,_,_,_,inserted,added,touched,wrote,rfl⟩ := ran
  obtain ⟨_,_,rfl⟩ := Aggregate.insertDeliverySnapshot_ok.mp added
  obtain ⟨_,rfl⟩ := Aggregate.touchRequirement_ok.mp wrote
  exact .same rfl (fun _ => latestFormalRequest_other rfl) rfl rfl rfl

-- A row with a key of its own is seen by no other lookup.
theorem found_past {rows : List α} {key : α → Uuid} (fresh : KeyedRows.find key rows (key new) = none)
    (found : KeyedRows.find key rows id' = some row) : KeyedRows.find key (rows ++ [new]) id' = some row := by
  refine (KeyedRows.find_insert id' fresh).trans ?_
  rw [if_neg]
  · exact found
  · rintro rfl
    cases fresh.symm.trans found

theorem selectIntegrationBaseline_evolves
    (ran : selectIntegrationBaseline d a deliverySnapshotId integrationBaselineId expectedRevision
      expectedRequirementVersion actor = .ok a') : Evolution command a a' := by
  unfold selectIntegrationBaseline at ran
  simp only [bind_ok,require_ok,pure_ok,exists_const] at ran
  obtain ⟨_,evidence,_,inserted,added,applied,wrote,rfl⟩ := ran
  obtain ⟨fresh,_,_,rfl⟩ := Aggregate.insertIntegrationBaselineSelection_ok.mp added
  obtain ⟨_,rfl⟩ := Aggregate.writeRequirement_ok.mp wrote
  exact ⟨.same rfl,fun _ _ _ => latestFormalRequest_other rfl,.inl ⟨fun _ _ found => found_past fresh found,
    fun _ gate found => ⟨gate,found,fun dead => dead⟩,fun _ _ found => found⟩⟩

theorem confirmRequirementAcceptance_evolves
    (ran : confirmRequirementAcceptance d a selectionId expectedRevision = .ok a') : Evolution command a a' := by
  unfold confirmRequirementAcceptance at ran
  simp only [bind_ok,require_ok,orRaise_ok,exists_const] at ran
  obtain ⟨_,_,selection,_,_,_,_,policy,_,gated,added,wrote⟩ := ran
  obtain ⟨fresh,_,rfl⟩ := Aggregate.insertDeliveryGate_ok.mp added
  obtain ⟨_,rfl⟩ := Aggregate.writeRequirement_ok.mp wrote
  exact ⟨.same rfl,fun _ _ _ => rfl,.inl ⟨fun _ _ found => found,
    fun _ gate found => ⟨gate,found_past fresh found,fun dead => dead⟩,fun _ _ found => found⟩⟩

-- One gate is decided or reassigned, one decision recorded.
theorem gates_stand {a : Aggregate} {gate new : DeliveryGate} (found : a.deliveryGateById gateId = some gate)
    (keyed : new.id = gate.id) (lives : new.state ≠ .invalidated) :
    ∀ id other, a.deliveryGateById id = some other → ∃ gate', KeyedRows.find DeliveryGate.id
      (KeyedRows.update DeliveryGate.id a.deliveryGates gateId fun _ => new) id = some gate' ∧
        (gate'.state = .invalidated → other.state = .invalidated) := by
  intro id other there
  by_cases same : id = gateId
  · subst same
    exact ⟨new,KeyedRows.find_replaced found keyed,fun dead => absurd dead lives⟩
  · refine ⟨other,?_,fun dead => dead⟩
    rw [KeyedRows.find_replace (keyed.trans (KeyedRows.find_some found).2),if_neg same]
    exact there

theorem Invalidation.withdrawn (invalidation : Invalidation a a') (items : ∀ row ∈ a''.workItems,
      row.formalDeliveryState.pending = false)
    (state : a''.requirement.state = .inProgress) (selections : a''.selections = a'.selections)
    (gates : a''.deliveryGates = a'.deliveryGates) (decisions : a''.decisions = a'.decisions) : Withdrawn a'' := by
  refine ⟨state,?_,?_,?_,items⟩
  · rw [selections]
    exact invalidation.dead
  · rw [gates]
    exact invalidation.closed
  · rw [decisions]
    exact invalidation.revoked

theorem decideRequirementAcceptance_evolves (consistent : Consistent a)
    (ran : decideRequirementAcceptance d a gateId outcome reason expectedRevision actor = .ok a') :
    Evolution (.decideRequirementAcceptance gateId outcome reason expectedRevision actor) a a' := by
  unfold decideRequirementAcceptance at ran
  simp only [bind_ok,require_ok,orRaise_ok,exists_const] at ran
  obtain ⟨stable,_,_,⟨awaiting,_⟩,gate,found,_,selectionId,_,selection,_,_,_,_,assignment,_,_,_,_,inserted,added,
    decided,closed,applied,wrote,ran⟩ := ran
  obtain ⟨undecided,rfl⟩ := Aggregate.insertDeliveryDecision_ok.mp added
  obtain ⟨gate',again,_,rfl⟩ := Aggregate.writeOpenDeliveryGate_ok.mp closed
  cases found.symm.trans again
  obtain ⟨_,rfl⟩ := Aggregate.writeRequirement_ok.mp wrote
  have settled : ∀ row ∈ a.workItems, row.Settled := fun row present => consistent.phased.idle
    (fun merging => by cases merging.symm.trans awaiting) present
  split at ran
  · cases pure_ok.mp ran
    exact ⟨.same rfl,fun _ _ _ => rfl,.inl ⟨fun _ _ found => found,
      gates_stand found rfl fun same => (by cases same),fun _ _ found => found_past undecided found⟩⟩
  · rename_i refused
    simp only [bind_ok] at ran
    obtain ⟨invalid,ranInvalid,ran⟩ := ran
    have invalidation := invalidateCurrentDeliveryEvidence_ok ranInvalid
    obtain ⟨wrote,_⟩ := Aggregate.reopenIntegratedWorkItemsForRework_ok.mp ran
    obtain ⟨_,reopened⟩ := Aggregate.writeWorkItems_ok.mp wrote
    have withdrawn : Withdrawn a' := by
      subst reopened
      exact invalidation.withdrawn (fun row member => (reopened_settled
        (fun row present _ => invalidation.settled settled row present) row member).1)
        (congrArg RequirementRow.state invalidation.requirement) rfl rfl rfl
    subst reopened
    refine ⟨?_,?_,.inr withdrawn.calm⟩
    · intro old present
      obtain ⟨new,there,keyed,formal,integration⟩ := invalidation.carried present
      refine ⟨_,List.mem_map_of_mem there,?_⟩
      unfold WorkItem.writtenIf
      split
      · rename_i reopens
        have both : new.integrationDeliveryState = .integrated ∧ new.formalDeliveryState ≠ .merged := by
          simpa using reopens
        have waits : old.formalDeliveryState.pending = true →
            Command.Answers (.decideRequirementAcceptance gateId outcome reason expectedRevision actor) old :=
          fun waits => by cases (settled old present).1.symm.trans waits
        exact ⟨keyed,.reworked (formal.state ▸ both.2) waits refused withdrawn⟩
      · exact ⟨keyed,.delivery formal (settled old present) fun integrated => integration.trans integrated⟩
    · intro old present waits
      cases (settled old present).1.symm.trans waits

-- Formal delivery.

theorem requestFormalDelivery_evolves (consistent : Consistent a)
    (ran : requestFormalDelivery d kind a workItemId expectedRevision actor = .ok a') : Evolution command a a' := by
  unfold requestFormalDelivery at ran
  simp only [bind_ok,require_ok,orRaise_ok,pure_ok,exists_const] at ran
  obtain ⟨_,row,found,unblocked,item,_,acceptance,_,_,accepted,_,written,wrote,touched,moved,rfl⟩ := ran
  obtain ⟨unmerged,idle,_,_⟩ := formalRequestAccepted_states accepted
  obtain ⟨row',again,_,_,rfl⟩ := Aggregate.writeWorkItem_ok.mp wrote
  cases found.symm.trans again
  obtain ⟨_,rfl⟩ := Aggregate.touchRequirement_ok.mp moved
  obtain ⟨present,here⟩ := KeyedRows.find_some found
  have settled : row.Settled := ⟨idle,(formalInvalidationBlockReason_none a).mp unblocked row present⟩
  refine ⟨.replaced consistent.rows found ?_ rfl (.requested settled unmerged ?_),?_,.inl (.of_eq rfl rfl rfl)⟩
  · rfl
  · rfl
  · intro old there waits
    refine latestFormalRequest_elsewhere fun same => ?_
    have one : a.workItemById old.id = some old := KeyedRows.find_of_mem consistent.rows.unique there
    have same : workItemId = old.id := same
    rw [←same] at one
    cases found.symm.trans one
    cases idle.symm.trans waits

theorem recordFormalReconciliationPending_evolves (consistent : Consistent a)
    (ran : recordFormalReconciliationPending d a workItemId bindingId expectedRevision = .ok a') :
    Evolution (.recordFormalReconciliationPending workItemId bindingId expectedRevision) a a' := by
  unfold recordFormalReconciliationPending at ran
  simp only [bind_ok,require_ok,orRaise_ok,exists_const] at ran
  obtain ⟨row,found,revision,⟨state,_⟩,written,wrote,moved⟩ := ran
  obtain ⟨row',again,_,_,rfl⟩ := Aggregate.writeWorkItem_ok.mp wrote
  cases found.symm.trans again
  obtain ⟨_,rfl⟩ := Aggregate.touchRequirement_ok.mp moved
  have waits := pending_of_mem _ (by decide) state
  refine .plain (.replaced consistent.rows found ?_ rfl (.answered waits ⟨(KeyedRows.find_some found).2,revision⟩ ?_))
    (fun _ => rfl) rfl rfl rfl
  · rfl
  · rfl

theorem FormalAnswer.carried (answer : FormalAnswer a workItemId expectedRevision row new written)
    (rows : RowsOk a.workItems) (present : old ∈ a.workItems) :
    ∃ kept ∈ written.workItems, kept.id = old.id ∧ (old = row ∧ kept = new ∨ kept = old) := by
  rw [answer.items]
  by_cases same : old.id = workItemId
  · have one : a.workItemById old.id = some old := KeyedRows.find_of_mem rows.unique present
    rw [same] at one
    cases answer.found.symm.trans one
    exact ⟨new,List.mem_map.mpr ⟨row,present,if_pos same⟩,answer.keyed,.inl ⟨rfl,rfl⟩⟩
  · exact ⟨old,List.mem_map.mpr ⟨old,present,if_neg same⟩,rfl,.inr rfl⟩

theorem settle_withdrawn (ready : Aggregate.readyFormalInvalidationReason written = some reason)
    (ran : Aggregate.settle written state now = .ok a') : Withdrawn a' := by
  unfold Aggregate.settle at ran
  rw [ready] at ran
  unfold Aggregate.applyReadyFormalInvalidation at ran
  simp only [bind_ok] at ran
  obtain ⟨moved,updated,reopened,reopens,ran⟩ := ran
  obtain ⟨_,rfl⟩ := Aggregate.updateRequirementState_ok.mp updated
  obtain ⟨wrote,_⟩ := Aggregate.reopenFormalInvalidationBlocksForRework_ok.mp reopens
  obtain ⟨_,rfl⟩ := Aggregate.writeWorkItems_ok.mp wrote
  have invalidation := invalidateCurrentDeliveryEvidence_ok ran
  exact invalidation.withdrawn invalidation.calm_after (congrArg RequirementRow.state invalidation.requirement) rfl rfl rfl

theorem settle_evolves (consistent : Consistent a)
    (answer : FormalAnswer a workItemId expectedRevision row new written)
    (answers : ∀ row : WorkItem, row.id = workItemId → matchesFormalCallbackRevision row expectedRevision →
      command.Answers row) (reworks : command.Reworks)
    (ran : written.settle state now = .ok a') : Evolution command a a' := by
  obtain ⟨present,here⟩ := KeyedRows.find_some answer.found
  have answers := answers row here answer.revision
  unfold Aggregate.settle at ran
  cases ready : written.readyFormalInvalidationReason with
  | none =>
    rw [ready] at ran
    obtain ⟨_,rfl⟩ := Aggregate.updateRequirementState_ok.mp ran
    refine ⟨.replaced consistent.rows answer.found answer.keyed answer.items
      (.answered answer.waits answers answer.integration),?_,.inl ⟨?_,?_,?_⟩⟩
    · intro old _ _
      exact congrArg (latestFormalRequest · old.id) answer.outbox
    · intro id selection found
      unfold Aggregate.selectionById at found ⊢
      exact answer.selections ▸ found
    · intro id gate found
      exact ⟨gate,answer.kept id gate found,fun dead => dead⟩
    · intro id decision found
      unfold Aggregate.deliveryDecisionByGate at found ⊢
      exact answer.decisions ▸ found
  | some reason =>
    have withdrawn : Withdrawn a' := settle_withdrawn ready (by unfold Aggregate.settle; exact ran)
    rw [ready] at ran
    obtain ⟨calm,_⟩ := readyFormalInvalidationReason_some ready
    unfold Aggregate.applyReadyFormalInvalidation at ran
    simp only [bind_ok] at ran
    obtain ⟨moved,updated,reopened,reopens,ran⟩ := ran
    obtain ⟨_,rfl⟩ := Aggregate.updateRequirementState_ok.mp updated
    obtain ⟨wrote,_⟩ := Aggregate.reopenFormalInvalidationBlocksForRework_ok.mp reopens
    obtain ⟨_,rfl⟩ := Aggregate.writeWorkItems_ok.mp wrote
    have invalidation := invalidateCurrentDeliveryEvidence_ok ran
    refine ⟨?_,?_,.inr withdrawn.calm⟩
    · intro old there
      obtain ⟨kept,member,keyed,which⟩ := answer.carried consistent.rows there
      obtain ⟨after,stays,same,formal,integration⟩ := invalidation.carried (List.mem_map_of_mem member)
      unfold WorkItem.writtenIf at same formal integration
      cases blocked : invalidationBlock kept with
      | true =>
        rw [if_pos blocked] at same
        refine ⟨after,stays,same.trans keyed,.reworked ?_ ?_ reworks withdrawn⟩
        · rcases which with ⟨rfl,_⟩ | rfl
          · intro merged
            have waits := answer.waits
            rw [merged] at waits
            cases waits
          · intro merged
            simp [invalidationBlock,merged] at blocked
        · intro waits
          rcases which with ⟨rfl,_⟩ | rfl
          · exact answers
          · cases (calm _ member).symm.trans waits
      | false =>
        rw [if_neg (by simp [blocked])] at same formal integration
        rcases which with ⟨rfl,rfl⟩ | rfl
        · exact ⟨after,stays,same.trans keyed,.answered answer.waits answers (integration.trans answer.integration)⟩
        · exact ⟨after,stays,same,.delivery formal ⟨calm _ member,blocked⟩ fun integrated =>
            integration.trans integrated⟩
    · intro old _ _
      exact congrArg (latestFormalRequest · old.id) (invalidation.outbox.trans answer.outbox)

theorem recordFormalDeliveryBlocked_evolves (consistent : Consistent a)
    (ran : recordFormalDeliveryBlocked d a workItemId bindingId reasonCode expectedRevision = .ok a') :
    Evolution (.recordFormalDeliveryBlocked workItemId bindingId reasonCode expectedRevision) a a' := by
  obtain ⟨row,new,written,settled,answer,_⟩ := recordFormalDeliveryBlocked_ok ran
  exact settle_evolves consistent answer (fun _ here current => ⟨here,current⟩) trivial settled

theorem recordFormalMerged_evolves (consistent : Consistent a)
    (ran : recordFormalMerged d a workItemId bindingId headSha mergeCommitSha expectedRevision = .ok a') :
    Evolution (.recordFormalMerged workItemId bindingId headSha mergeCommitSha expectedRevision) a a' := by
  obtain ⟨row,new,written,state,settled,answer,_⟩ := recordFormalMerged_ok ran
  exact settle_evolves consistent answer (fun _ here current => ⟨here,current⟩) trivial settled

theorem recordFormalMrReady_evolves (consistent : Consistent a)
    (ran : recordFormalMrReady d a workItemId bindingId headSha expectedRevision assignment = .ok a') :
    Evolution (.recordFormalMrReady workItemId bindingId headSha expectedRevision assignment) a a' := by
  obtain ⟨row,new,written,settled,answer,_⟩ := recordFormalMrReady_ok ran
  exact settle_evolves consistent answer (fun _ here current => ⟨here,current⟩) trivial settled

theorem decideFormalReview_evolves (consistent : Consistent a)
    (ran : decideFormalReview d a gateId outcome reason expectedRevision actor = .ok a') :
    Evolution (.decideFormalReview gateId outcome reason expectedRevision actor) a a' := by
  unfold decideFormalReview at ran
  simp only [bind_ok,require_ok,orRaise_ok,exists_const] at ran
  obtain ⟨stable,_,_,gate,foundGate,formal,_,row,subject,item,current,⟨open_,_⟩,selection,_,_,assignment,_,_,_,_,
    inserted,added,decided,closed,ran⟩ := ran
  obtain ⟨undecided,rfl⟩ := Aggregate.insertDeliveryDecision_ok.mp added
  obtain ⟨gate',again,_,rfl⟩ := Aggregate.writeOpenDeliveryGate_ok.mp closed
  cases foundGate.symm.trans again
  obtain ⟨workItemId,_,found⟩ := Option.bind_eq_some_iff.mp subject
  obtain ⟨present,here⟩ := KeyedRows.find_some found
  subst here
  split at ran
  · obtain ⟨_,rfl⟩ := Aggregate.touchRequirement_ok.mp ran
    exact ⟨.same rfl,fun _ _ _ => rfl,.inl ⟨fun _ _ found => found,
      gates_stand foundGate rfl fun same => (by cases same),fun _ _ found => found_past undecided found⟩⟩
  · rename_i refused
    simp only [bind_ok] at ran
    obtain ⟨reopened,wrote,moved,updated,ran⟩ := ran
    obtain ⟨row',again,_,_,rfl⟩ := Aggregate.writeWorkItem_ok.mp wrote
    cases found.symm.trans again
    obtain ⟨_,rfl⟩ := Aggregate.updateRequirementState_ok.mp updated
    have invalidation := invalidateCurrentDeliveryEvidence_ok ran
    have withdrawn : Withdrawn a' :=
      invalidation.withdrawn invalidation.calm_after (congrArg RequirementRow.state invalidation.requirement) rfl rfl rfl
    have calm : ∀ other ∈ a.workItems, other.formalDeliveryState.pending = false := by
      intro other there
      by_cases same : other.id = row.id
      · have one : a.workItemById other.id = some other := KeyedRows.find_of_mem consistent.rows.unique there
        rw [same] at one
        cases found.symm.trans one
        rw [open_]
        rfl
      · exact invalidation.calm other (List.mem_map.mpr ⟨other,there,if_neg same⟩)
    refine ⟨?_,fun old _ _ => congrArg (latestFormalRequest · old.id) invalidation.outbox,.inr withdrawn.calm⟩
    intro old there
    by_cases same : old.id = row.id
    · have one : a.workItemById old.id = some old := KeyedRows.find_of_mem consistent.rows.unique there
      rw [same] at one
      cases found.symm.trans one
      obtain ⟨after,stays,keyed,_⟩ := invalidation.carried (List.mem_map.mpr ⟨row,there,if_pos same⟩)
      refine ⟨after,stays,keyed,.reworked ?_ ?_ refused withdrawn⟩
      · rw [open_]
        exact fun same => by cases same
      · intro waits
        cases (calm row there).symm.trans waits
    · obtain ⟨after,stays,keyed,formal,integration⟩ := invalidation.carried (List.mem_map.mpr ⟨old,there,if_neg same⟩)
      exact ⟨after,stays,keyed,.delivery formal (consistent.phased.calm calm there) fun integrated =>
        integration.trans integrated⟩

theorem reassignDeliveryGate_evolves
    (ran : reassignDeliveryGate d a gateId candidateId expectedGateRevision reason actor = .ok a') :
    Evolution command a a' := by
  unfold reassignDeliveryGate at ran
  simp only [bind_ok,require_ok,orRaise_ok,exists_const] at ran
  obtain ⟨_,gate,found,⟨opened,_⟩,_,selection,_,_,_,_,_,_,assignment,_,_,guard,_,capabilities,_,actorFacts,_,
    candidateFacts,_,_,_,_,_,advanced,advances,superseded,supersedes,touched⟩ := ran
  obtain ⟨gate',again,_,rfl⟩ := Aggregate.writeOpenDeliveryGate_ok.mp advances
  cases found.symm.trans again
  obtain ⟨rows,rfl⟩ := supersedeDeliveryGateAssignment_ok supersedes
  obtain ⟨_,rfl⟩ := Aggregate.touchRequirement_ok.mp touched
  exact ⟨.same rfl,fun _ _ _ => rfl,.inl ⟨fun _ _ found => found,
    gates_stand found rfl fun dead => (by cases opened.symm.trans dead),fun _ _ found => found⟩⟩

theorem step_evolves (consistent : Consistent a) (step : Step texts a command a') : Evolution command a a' := by
  obtain ⟨d,ran⟩ := step
  cases command with
  | acknowledgeRepositoryBindingRequest => exact acknowledgeRepositoryBindingRequest_evolves ran
  | startRequirementPreparation => exact startRequirementPreparation_evolves ran
  | recordRepositoryBinding => exact recordRepositoryBinding_evolves consistent ran
  | recordRepositoryBindingBlocked => exact recordRepositoryBindingBlocked_evolves consistent ran
  | addWorkItem => exact addWorkItem_evolves ran
  | assignWorkItem => exact assignWorkItem_evolves consistent ran
  | createSddArtifact => exact createSddArtifact_evolves ran
  | registerSddBaseline => exact registerSddBaseline_evolves ran
  | submitBaselineConfirmation => exact submitBaselineConfirmation_evolves ran
  | reassignBaselineGate => exact reassignBaselineGate_evolves ran
  | decideBaseline => exact decideBaseline_evolves consistent ran
  | startWorkItem => exact startWorkItem_evolves consistent ran
  | requestDelivery => exact requestDelivery_evolves consistent ran
  | recordIntegrationMrReady _ bindingId => exact TerminalOutcome.record_evolves (.ready bindingId) consistent ran
  | recordIntegrationDeliveryBlocked _ bindingId reasonCode =>
    exact TerminalOutcome.record_evolves (.blocked bindingId reasonCode) consistent ran
  | recordIntegrationReconciliationPending => exact recordIntegrationReconciliationPending_evolves consistent ran
  | recordIntegrationMerged _ bindingId => exact TerminalOutcome.record_evolves (.merged bindingId) consistent ran
  | recordExternalMergeDrift _ bindingId =>
    exact TerminalOutcome.record_evolves (.externalMergeDrift bindingId) consistent ran
  | submitExternalValidation => exact submitExternalValidation_evolves consistent ran
  | requestIntegrationBaseline => exact requestIntegrationBaseline_evolves ran
  | selectIntegrationBaseline => exact selectIntegrationBaseline_evolves ran
  | confirmRequirementAcceptance => exact confirmRequirementAcceptance_evolves ran
  | decideRequirementAcceptance => exact decideRequirementAcceptance_evolves consistent ran
  | requestFormalDelivery => exact requestFormalDelivery_evolves consistent ran
  | recordFormalReconciliationPending => exact recordFormalReconciliationPending_evolves consistent ran
  | recordFormalDeliveryBlocked => exact recordFormalDeliveryBlocked_evolves consistent ran
  | recordFormalMrReady => exact recordFormalMrReady_evolves consistent ran
  | recordFormalMerged => exact recordFormalMerged_evolves consistent ran
  | decideFormalReview => exact decideFormalReview_evolves consistent ran
  | reassignDeliveryGate => exact reassignDeliveryGate_evolves ran

end EngineeringPlatform.Requirement
