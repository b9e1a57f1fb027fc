import EngineeringPlatform.RequirementInvariant
import EngineeringPlatform.IntegrationReconciliation
-- Integration delivery keeps a requirement consistent.
namespace EngineeringPlatform.Requirement
open Checked

-- A delivery that is under way belongs to a requirement that is.
theorem Consistent.underway (consistent : Consistent a) (member : row ∈ a.workItems)
    (started : row.integrationDeliveryState ≠ .notStarted) (open_ : row.integrationDeliveryState ≠ .integrated) :
    a.requirement.state.Working := by
  have unplanned := fun planning => started (consistent.phased.planned planning row member)
  have unselected := fun selected => open_ (consistent.phased.selected selected row member)
  unfold RequirementState.Working
  cases state : a.requirement.state <;> rw [state] at unplanned unselected <;>
    first | exact .inl rfl | exact .inr rfl | exact absurd rfl unplanned | exact absurd rfl unselected

-- One row of a requirement at work is written, and no formal column of it.
theorem Consistent.worked {old new : WorkItem} (consistent : Consistent a)
    (found : a.workItemById workItemId = some old)
    (before : a.requirement.state = .ready ∨ a.requirement.state.Working) (after : state.Working)
    (checked : new.Checks) (keyed : new.id = old.id) (bound : new.repositoryState = .bound)
    (formal : new.formalDeliveryState = old.formalDeliveryState)
    (blocked : new.formalBlockedReasonCode = old.formalBlockedReasonCode)
    (keeps : old.integrationDeliveryState = .integrated → new.integrationDeliveryState = .integrated)
    (items : a'.workItems = (a.replaced workItemId new).workItems)
    (requirement : a'.requirement = {a.requirement with state, revision}) (gates : a'.gates = a.gates)
    (snapshots : a'.snapshots = a.snapshots) (selections : a'.selections = a.selections)
    (deliveryGates : a'.deliveryGates = a.deliveryGates) (decisions : a'.decisions = a.decisions) :
    Consistent a' := by
  obtain ⟨present,here⟩ := KeyedRows.find_some found
  have unselected : a.requirement.state.selected = false := by
    rcases before with ready | working
    · rw [ready]
      rfl
    · exact working.unplanned.2
  have elsewhere : a.requirement.state ≠ .awaitingMerge := by
    intro merging
    rw [merging] at unselected
    cases unselected
  have member : ∀ row ∈ a'.workItems, row ∈ a.workItems ∨ row = new := by
    intro row there
    rw [items] at there
    rcases mem_replaced consistent.rows found there with ⟨kept,_⟩ | rfl
    · exact .inl kept
    · exact .inr rfl
  have settled : ∀ row ∈ a'.workItems, row.Settled := by
    intro row there
    rcases member row there with kept | rfl
    · exact consistent.phased.idle elsewhere kept
    · have idle := consistent.phased.idle elsewhere present
      unfold WorkItem.Settled Aggregate.invalidationBlock at idle ⊢
      rw [formal,blocked]
      exact idle
  have moved : a'.requirement.state = state := by rw [requirement]
  refine ⟨?_,?_,?_,?_,Requested.none fun row there => (settled row there).1⟩
  · rw [items]
    exact consistent.rows.replaced (keyed.trans here) checked fun _ => bound
  · rw [moved]
    refine Phased.of_settled settled ?_ ?_ ?_
    · rintro rfl
      rcases after with done | done <;> cases done
    · intro planning
      cases after.unplanned.1.symm.trans planning
    · intro selected
      cases after.unplanned.2.symm.trans selected
  · rw [gates,requirement]
    refine consistent.confirming.moved fun plans => ?_
    rcases before with ready | working | working
    · rcases plans with state | state <;> cases state.symm.trans ready
    · rcases plans with state | state <;> cases state.symm.trans working
    · rcases plans with state | state <;> cases state.symm.trans working
  · refine consistent.evident.quiet (.of_eq snapshots selections deliveryGates decisions ?_ ?_ ?_) ?_ ?_ ?_
    · rw [requirement]
    · rw [requirement]
    · rw [requirement]
    · rw [moved]
      exact after.unplanned.2.trans unselected.symm
    · rw [moved]
      intro accepted
      cases after.unplanned.2.symm.trans (RequirementState.accepted_selected accepted)
    · intro integrated row there
      rcases member row there with kept | rfl
      · exact integrated row kept
      · exact keeps (integrated old present)

theorem deliverySubject_ok {workItemId : Uuid} :
    deliverySubject a workItemId expectedRevision actor ownerRequired = .ok row →
      a.workItemById workItemId = some row ∧ row.repositoryState = .bound ∧
        a.requirement.revision = expectedRevision := by
  intro ran
  unfold deliverySubject validateHumanSubject at ran
  simp only [bind_ok,require_ok,orRaise_ok,pure_ok,exists_const] at ran
  obtain ⟨row,found,⟨_,_,bound⟩,current,rfl⟩ := ran
  exact ⟨found,bound,current⟩

theorem transitionHumanWorkStarted_ok
    (moves : transitionHumanWorkStarted requirement workItem = .ok (requirement',workItem')) :
    (requirement = .ready ∨ requirement = .inProgress) ∧ requirement' = .inProgress := by
  unfold transitionHumanWorkStarted at moves
  split at moves
  · rename_i started
    cases moves
    exact ⟨by simpa using started.1,rfl⟩
  · cases moves

theorem startWorkItem_consistent (consistent : Consistent a)
    (ran : startWorkItem a workItemId expectedRevision actor = .ok a') : Consistent a' := by
  unfold startWorkItem at ran
  simp only [bind_ok,require_ok,exists_const] at ran
  obtain ⟨row,subject,⟨requirementState,workItemState⟩,moves,unstarted,written,wrote,ran⟩ := ran
  obtain ⟨found,bound,_⟩ := deliverySubject_ok subject
  obtain ⟨before,rfl⟩ := transitionHumanWorkStarted_ok moves
  obtain ⟨row',again,_,checked,rfl⟩ := Aggregate.writeWorkItem_ok.mp wrote
  cases found.symm.trans again
  obtain ⟨_,rfl⟩ := Aggregate.updateRequirementState_ok.mp ran
  refine consistent.worked found ?_ (.inl rfl) checked rfl bound rfl rfl ?_
    rfl rfl rfl rfl rfl rfl rfl
  · rcases before with ready | progress
    · exact .inl ready
    · exact .inr (.inl progress)
  · intro integrated
    cases unstarted.symm.trans integrated

theorem requestDelivery_consistent (consistent : Consistent a)
    (ran : requestDelivery d kind a workItemId expectedRevision actor = .ok a') : Consistent a' := by
  unfold requestDelivery at ran
  simp only [bind_ok,require_ok,pure_ok,exists_const] at ran
  obtain ⟨row,subject,⟨state,_,delivery⟩,_,written,wrote,touched,moved,rfl⟩ := ran
  obtain ⟨found,bound,_⟩ := deliverySubject_ok subject
  obtain ⟨row',again,_,checked,rfl⟩ := Aggregate.writeWorkItem_ok.mp wrote
  cases found.symm.trans again
  obtain ⟨_,rfl⟩ := Aggregate.updateRequirementState_ok.mp moved
  have working : (deliveryRequestStates kind).requirement.Working := by
    cases kind
    · exact .inl rfl
    · exact .inr rfl
  have open_ : (deliveryRequestStates kind).delivery ≠ .integrated := by
    cases kind <;> exact fun same => by cases same
  refine consistent.worked found (.inr (state ▸ working)) working checked rfl
    bound rfl rfl (fun integrated => absurd (delivery.symm.trans integrated) open_) rfl rfl rfl rfl rfl rfl rfl

theorem transitionIntegrationMrReady_working (states : List WorkItemState) :
    (transitionIntegrationMrReady states).Working := by
  unfold transitionIntegrationMrReady
  split
  · exact .inr rfl
  · exact .inl rfl

theorem advancedIf_frame (a : Aggregate) (advance : Bool) :
    ∃ state revision, a.advancedIf advance = {a with requirement := {a.requirement with state, revision}} ∧
      (state = a.requirement.state ∨ state.Working) := by
  unfold Aggregate.advancedIf
  dsimp only
  split
  · exact ⟨_,_,rfl,.inr (transitionIntegrationMrReady_working _)⟩
  · exact ⟨_,_,rfl,.inl rfl⟩

-- Every callback finds its delivery somewhere between its start and its end.
theorem TerminalOutcome.projection_underway {outcome : TerminalOutcome} {projected : Projection}
    (ran : outcome.projection row = .ok projected) :
    row.integrationDeliveryState ≠ .notStarted ∧ row.integrationDeliveryState ≠ .integrated := by
  cases outcome with
  | ready bindingId =>
    simp only [TerminalOutcome.projection,mrReadyProjection,bind_ok,require_ok,exists_const] at ran
    constructor <;> intro same <;> simp [same] at ran
  | blocked bindingId reasonCode =>
    simp only [TerminalOutcome.projection,problemProjection,bind_ok,require_ok,exists_const] at ran
    constructor <;> intro same <;> simp [same] at ran
  | merged bindingId =>
    simp only [TerminalOutcome.projection,boundTerminalProjection,bind_ok,require_ok,exists_const] at ran
    constructor <;> intro same <;> simp [same] at ran
  | externalMergeDrift bindingId =>
    simp only [TerminalOutcome.projection,boundTerminalProjection,bind_ok,require_ok,exists_const] at ran
    constructor <;> intro same <;> simp [same] at ran

theorem pendingProjection_underway
    (ran : problemProjection .reconciliationPending .reconciliationPending bindingId row = .ok projection) :
    row.integrationDeliveryState ≠ .notStarted ∧ row.integrationDeliveryState ≠ .integrated := by
  simp only [problemProjection,bind_ok,require_ok,exists_const] at ran
  constructor <;> intro same <;> simp [same] at ran

theorem recordCallback_consistent {command : WorkItem → Except RequirementError Projection}
    (consistent : Consistent a)
    (underway : ∀ row projection, command row = .ok projection →
      row.integrationDeliveryState ≠ .notStarted ∧ row.integrationDeliveryState ≠ .integrated)
    (ran : recordCallback a workItemId expectedRevision command = .ok a') : Consistent a' := by
  obtain ⟨row,projection,found,_,projected,_,checked,rfl⟩ := recordCallback_ok.mp ran
  obtain ⟨started,open_⟩ := underway row projection projected
  have present := (KeyedRows.find_some found).1
  have working := consistent.underway present started open_
  obtain ⟨state,revision,frame,moves⟩ := advancedIf_frame
    (a.replaced workItemId (row.written projection.change)) projection.advanceRequirement
  rw [frame]
  have after : state.Working := by
    rcases moves with rfl | works
    · exact working
    · exact works
  exact consistent.worked found (.inr working) after checked rfl (consistent.rows.started row present started) rfl rfl
    (fun integrated => absurd integrated open_) rfl rfl rfl rfl rfl rfl rfl

theorem TerminalOutcome.record_consistent (outcome : TerminalOutcome) (consistent : Consistent a)
    (ran : outcome.record a workItemId expectedRevision = .ok a') : Consistent a' := by
  rw [record_eq] at ran
  exact recordCallback_consistent consistent (fun _ _ => projection_underway) ran

theorem recordIntegrationReconciliationPending_consistent (consistent : Consistent a)
    (ran : recordIntegrationReconciliationPending a workItemId bindingId expectedRevision = .ok a') :
    Consistent a' :=
  recordCallback_consistent consistent (fun _ _ => pendingProjection_underway) ran

end EngineeringPlatform.Requirement
