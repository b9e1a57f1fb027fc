import EngineeringPlatform.RequirementSelected
-- Formal delivery keeps a requirement consistent.
namespace EngineeringPlatform.Requirement
open Checked
open Aggregate (FormalDeliveryContext invalidationBlock)

theorem hasPendingFormalDelivery_false (a : Aggregate) :
    a.hasPendingFormalDelivery = false ↔ ∀ row ∈ a.workItems, row.formalDeliveryState.pending = false := by
  unfold Aggregate.hasPendingFormalDelivery
  simp

theorem formalInvalidationBlockReason_none (a : Aggregate) :
    a.formalInvalidationBlockReason = none ↔ ∀ row ∈ a.workItems, invalidationBlock row = false := by
  unfold Aggregate.formalInvalidationBlockReason
  cases first : RankedRows.top Aggregate.blockedBefore (a.workItems.filter invalidationBlock) with
  | none =>
    have empty := RankedRows.top_none.mp first
    simpa [List.filter_eq_nil_iff] using empty
  | some row =>
    obtain ⟨member,blocked⟩ := List.mem_filter.mp (RankedRows.top_mem first)
    have reasoned : row.formalBlockedReasonCode ≠ none := by
      intro missing
      simp [invalidationBlock,missing] at blocked
    constructor
    · intro none
      exact absurd none reasoned
    · intro unblocked
      cases (unblocked row member).symm.trans blocked

theorem readyFormalInvalidationReason_none (a : Aggregate) :
    a.readyFormalInvalidationReason = none ↔
      (∃ row ∈ a.workItems, row.formalDeliveryState.pending = true) ∨
        ∀ row ∈ a.workItems, invalidationBlock row = false := by
  unfold Aggregate.readyFormalInvalidationReason
  rw [←formalInvalidationBlockReason_none]
  cases pending : a.hasPendingFormalDelivery with
  | true =>
    have some := List.any_eq_true.mp pending
    simp only [if_true,true_iff]
    exact .inl some
  | false =>
    have calm := (hasPendingFormalDelivery_false a).mp pending
    simp only [Bool.false_eq_true,if_false]
    constructor
    · exact .inr
    · rintro (⟨row,member,waits⟩ | unblocked)
      · cases (calm row member).symm.trans waits
      · exact unblocked

theorem readyFormalInvalidationReason_some (ready : Aggregate.readyFormalInvalidationReason a = some reason) :
    (∀ row ∈ a.workItems, row.formalDeliveryState.pending = false) ∧ ∃ row ∈ a.workItems, invalidationBlock row = true := by
  unfold Aggregate.readyFormalInvalidationReason at ready
  split at ready
  · cases ready
  · rename_i calm
    refine ⟨(hasPendingFormalDelivery_false a).mp (by simpa using calm),?_⟩
    by_contra unblocked
    have none := (formalInvalidationBlockReason_none a).mpr fun row member => by
      cases blocked : invalidationBlock row with
      | false => rfl
      | true => exact absurd ⟨row,member,blocked⟩ unblocked
    cases none.symm.trans ready

-- What a settling callback has written before it settles: the row that waited
-- for it, and evidence at most added to.
structure FormalAnswer (a : Aggregate) (workItemId : Uuid) (expectedRevision : Nat) (row new : WorkItem)
    (written : Aggregate) : Prop where
  found : a.workItemById workItemId = some row
  revision : matchesFormalCallbackRevision row expectedRevision
  waits : row.formalDeliveryState.pending = true
  checked : new.Checks
  keyed : new.id = row.id
  integration : new.integrationDeliveryState = row.integrationDeliveryState
  bound : new.repositoryState = row.repositoryState
  answered : new.formalDeliveryState.pending = false
  items : written.workItems = (a.replaced workItemId new).workItems
  requirement : written.requirement = a.requirement
  gates : written.gates = a.gates
  outbox : written.outbox = a.outbox
  selections : written.selections = a.selections
  decisions : written.decisions = a.decisions
  snapshots : written.snapshots = a.snapshots
  kept : ∀ id gate, a.deliveryGateById id = some gate → written.deliveryGateById id = some gate

theorem FormalAnswer.quiet (answer : FormalAnswer a workItemId expectedRevision row new written) : Quiet a written := by
  refine ⟨answer.snapshots,answer.selections,fun id gate found _ => ⟨gate.revision,answer.kept id gate found⟩,?_,?_,?_,?_⟩
  · intro id decision found
    unfold Aggregate.deliveryDecisionByGate at found ⊢
    rw [answer.decisions]
    exact found
  all_goals rw [answer.requirement]

-- The one row that was answered waits no longer, and an invalidation that no
-- other row holds back is applied.
theorem Consistent.settle (consistent : Consistent a)
    (answer : FormalAnswer a workItemId expectedRevision row new written)
    (target : state = .awaitingMerge ∨
      state = .completed ∧ ∀ row ∈ written.workItems, row.formalDeliveryState = .merged)
    (ran : written.settle state now = .ok a') : Consistent a' := by
  have quiet := answer.quiet
  obtain ⟨found,_,waits,checked,keyed,integration,bound,answered,items,requirement,gates,outbox,_⟩ := answer
  obtain ⟨present,here⟩ := KeyedRows.find_some found
  have merging := consistent.phased.pending row present waits
  have selecting : a.requirement.state.selected = true := by rw [merging]; rfl
  have accepting : a.requirement.state.accepted = true := by rw [merging]; rfl
  have member : ∀ other ∈ written.workItems, other ∈ a.workItems ∧ other.id ≠ workItemId ∨ other = new := by
    intro other there
    rw [items] at there
    exact mem_replaced consistent.rows found there
  have integrated : ∀ other ∈ written.workItems, other.integrationDeliveryState = .integrated := by
    intro other there
    rcases member other there with ⟨kept,_⟩ | rfl
    · exact consistent.phased.selected selecting other kept
    · exact integration.trans (consistent.phased.selected selecting row present)
  have rows : RowsOk written.workItems := by
    rw [items]
    refine consistent.rows.replaced (keyed.trans here) checked fun _ => bound.trans ?_
    refine consistent.rows.started row present fun unstarted => ?_
    cases unstarted.symm.trans (consistent.phased.selected selecting row present)
  have confirming : ∀ state, Confirming state a.requirement.currentSddBaselineId a.gates := fun state =>
    consistent.confirming.moved fun plans => by rcases plans with planned | planned <;> cases planned.symm.trans merging
  unfold Aggregate.settle at ran
  cases ready : written.readyFormalInvalidationReason with
  | none =>
    rw [ready] at ran
    obtain ⟨_,rfl⟩ := Aggregate.updateRequirementState_ok.mp ran
    have selects : state.selected = true := by
      rcases target with rfl | ⟨rfl,_⟩ <;> rfl
    refine ⟨rows,⟨?_,fun _ => integrated,?_,?_,?_⟩,?_,?_,?_⟩
    · intro planning
      cases (RequirementState.planning_unselected planning).symm.trans selects
    · intro other there pending
      rcases target with rfl | ⟨rfl,merged⟩
      · rfl
      · rw [merged other there] at pending
        cases pending
    · intro done
      rcases target with rfl | ⟨rfl,merged⟩
      · cases done
      · exact merged
    · intro other there blocked
      rcases (readyFormalInvalidationReason_none written).mp ready with pending | unblocked
      · exact pending
      · cases (unblocked other there).symm.trans blocked
    · show Confirming state written.requirement.currentSddBaselineId written.gates
      rw [requirement,gates]
      exact confirming state
    · refine consistent.evident.quiet ⟨quiet.snapshots,quiet.selections,quiet.gates,quiet.decisions,quiet.version,
        quiet.selection,quiet.gate⟩ (selects.trans selecting.symm) (fun _ => accepting) fun _ => integrated
    · refine consistent.requested.kept ?_ fun workItemId => congrArg (latestFormalRequest · workItemId) outbox
      intro other there pending
      rcases member other there with ⟨kept,_⟩ | rfl
      · exact kept
      · cases answered.symm.trans pending
  | some reason =>
    rw [ready] at ran
    obtain ⟨calm,_⟩ := readyFormalInvalidationReason_some ready
    unfold Aggregate.applyReadyFormalInvalidation at ran
    simp only [bind_ok] at ran
    obtain ⟨moved,updated,reopened,reopens,ran⟩ := ran
    obtain ⟨_,rfl⟩ := Aggregate.updateRequirementState_ok.mp updated
    obtain ⟨wrote,_⟩ := Aggregate.reopenFormalInvalidationBlocksForRework_ok.mp reopens
    obtain ⟨checked',rfl⟩ := Aggregate.writeWorkItems_ok.mp wrote
    have invalidation := invalidateCurrentDeliveryEvidence_ok ran
    have reopened : RowsOk (written.workItems.map (WorkItem.writtenIf invalidationBlock (Aggregate.reworked now))) :=
      rows.reopened checked' fun other there _ unstarted => by
        cases unstarted.symm.trans (integrated other there)
    refine Consistent.resumed (invalidation.rows reopened) (invalidation.settled (reopened_settled
      fun other there unblocked => ⟨calm other there,unblocked⟩)) ?_ ?_ ?_ invalidation.dead ?_ ?_
    · rw [invalidation.requirement]
      exact .inl rfl
    · rw [invalidation.requirement,invalidation.gates]
      show Confirming .inProgress written.requirement.currentSddBaselineId written.gates
      rw [requirement,gates]
      exact confirming .inProgress
    · refine invalidation.unique ?_
      show KeyedRows.Unique IntegrationBaselineSelection.id written.selections
      rw [quiet.selections]
      exact consistent.evident.unique
    · rw [invalidation.requirement]
    · rw [invalidation.snapshots,invalidation.requirement]
      show ∀ snapshot ∈ written.snapshots, snapshot.requirementVersion < written.requirement.requirementVersion
      rw [quiet.snapshots,quiet.version]
      intro snapshot there
      exact (consistent.evident.snapshots snapshot there).2.1 selecting

theorem currentEvidenceItem_ok (ran : currentEvidenceItem d context = .ok item) :
    context.requirement.state = .awaitingMerge ∨ context.requirement.state = .completed := by
  unfold currentEvidenceItem at ran
  simp only [bind_ok,require_ok,orRaise_ok,exists_const] at ran
  obtain ⟨acceptance,_,⟨state,_⟩,_⟩ := ran
  simpa using state

-- Evidence is current only while a requirement that is not completed merges.
theorem Consistent.merging (consistent : Consistent a) (present : row ∈ a.workItems)
    (unmerged : row.formalDeliveryState ≠ .merged)
    (current : currentEvidenceItem d (a.formalDeliveryContext other) = .ok item) :
    a.requirement.state = .awaitingMerge := by
  rcases currentEvidenceItem_ok current with merging | completed
  · exact merging
  · exact absurd (consistent.phased.completed completed row present) unmerged

theorem formalRequestAccepted_states (accepted : formalRequestAccepted kind context row) :
    row.formalDeliveryState ≠ .merged ∧ row.formalDeliveryState.pending = false ∧
      row.integrationDeliveryState = .integrated ∧ (kind = .mergeMr → row.formalMergeRequestBindingId ≠ none) := by
  obtain ⟨⟨rfl,state,_⟩ | ⟨rfl,state,_,_⟩ | ⟨rfl,state,_⟩ | ⟨rfl,state,bound⟩,integrated⟩ := accepted
  · exact ⟨by rw [state]; exact fun same => (by cases same),by rw [state]; rfl,integrated,fun same => by cases same⟩
  · exact ⟨by rw [state]; exact fun same => (by cases same),by rw [state]; rfl,integrated,fun same => by cases same⟩
  · exact ⟨by rw [state]; exact fun same => (by cases same),by rw [state]; rfl,integrated,fun same => by cases same⟩
  · refine ⟨?_,?_,integrated,fun _ => bound⟩
    · intro merged
      simp [merged] at state
    · rcases (by simpa using state : row.formalDeliveryState = .mrOpen ∨ row.formalDeliveryState = .blocked) with
        here | here <;> rw [here] <;> rfl

theorem requestFormalDelivery_consistent (consistent : Consistent a)
    (ran : requestFormalDelivery d kind a workItemId expectedRevision actor = .ok a') : Consistent a' := by
  unfold requestFormalDelivery at ran
  simp only [bind_ok,require_ok,orRaise_ok,pure_ok,exists_const] at ran
  obtain ⟨_,row,found,unblocked,item,current,acceptance,_,_,accepted,_,written,wrote,touched,moved,rfl⟩ := ran
  obtain ⟨unmerged,_,integrated,bound⟩ := formalRequestAccepted_states accepted
  obtain ⟨row',again,_,checked,rfl⟩ := Aggregate.writeWorkItem_ok.mp wrote
  cases found.symm.trans again
  obtain ⟨_,rfl⟩ := Aggregate.touchRequirement_ok.mp moved
  obtain ⟨present,here⟩ := KeyedRows.find_some found
  have merging := consistent.merging present unmerged current
  have unblocked := (formalInvalidationBlockReason_none a).mp unblocked
  have selecting : a.requirement.state.selected = true := by rw [merging]; rfl
  refine ⟨consistent.rows.replaced here checked fun _ => ?_,⟨?_,?_,?_,?_,?_⟩,consistent.confirming,?_,?_⟩
  · refine consistent.rows.started row present fun unstarted => ?_
    cases unstarted.symm.trans integrated
  · intro planning
    cases (RequirementState.planning_unselected planning).symm.trans selecting
  · intro _ other there
    rcases mem_replaced consistent.rows found there with ⟨kept,_⟩ | rfl
    · exact consistent.phased.selected selecting other kept
    · exact integrated
  · intro _ _ _
    exact merging
  · intro completed
    cases merging.symm.trans completed
  · intro other there blocked
    rcases mem_replaced consistent.rows found there with ⟨kept,_⟩ | rfl
    · cases (unblocked other kept).symm.trans blocked
    · unfold invalidationBlock at blocked
      cases kind <;> simp [WorkItem.written,formalRequestedState] at blocked
  · refine consistent.evident.quiet (.of_eq rfl rfl rfl rfl rfl rfl rfl) rfl (fun accepts => accepts) ?_
    intro whole other there
    rcases mem_replaced consistent.rows found there with ⟨kept,_⟩ | rfl
    · exact whole other kept
    · exact integrated
  · intro other there pending
    rcases mem_replaced consistent.rows found there with ⟨kept,differs⟩ | rfl
    · obtain ⟨request,latest,awaits⟩ := consistent.requested other kept pending
      exact ⟨request,(latestFormalRequest_elsewhere (Ne.symm differs)).trans latest,awaits⟩
    · refine ⟨_,latestFormalRequest_new (if_pos here.symm),?_,rfl,?_,?_,bound⟩
      · unfold matchesFormalCallbackRevision
        cases kind <;> rfl
      · cases kind
        · exact fun _ => rfl
        · exact fun same => by cases same
      · cases kind
        · exact fun same => by cases same
        · exact fun _ => rfl

theorem recordFormalReconciliationPending_consistent (consistent : Consistent a)
    (ran : recordFormalReconciliationPending d a workItemId bindingId expectedRevision = .ok a') : Consistent a' := by
  unfold recordFormalReconciliationPending at ran
  simp only [bind_ok,require_ok,orRaise_ok,exists_const] at ran
  obtain ⟨row,found,revision,⟨state,binding⟩,written,wrote,moved⟩ := ran
  obtain ⟨row',again,_,checked,rfl⟩ := Aggregate.writeWorkItem_ok.mp wrote
  cases found.symm.trans again
  obtain ⟨_,rfl⟩ := Aggregate.touchRequirement_ok.mp moved
  obtain ⟨present,here⟩ := KeyedRows.find_some found
  have asked : row.formalDeliveryState = .mrPending ∨ row.formalDeliveryState = .mergePending := by simpa using state
  have waits : row.formalDeliveryState.pending = true := by rcases asked with ask | ask <;> rw [ask] <;> rfl
  have merging := consistent.phased.pending row present waits
  have selecting : a.requirement.state.selected = true := by rw [merging]; rfl
  have integrated := consistent.phased.selected selecting row present
  have bound := consistent.rows.started row present fun unstarted => by cases unstarted.symm.trans integrated
  refine ⟨consistent.rows.replaced here checked fun _ => bound,⟨?_,?_,fun _ _ _ => merging,?_,?_⟩,
    consistent.confirming,?_,?_⟩
  · intro planning
    cases (RequirementState.planning_unselected planning).symm.trans selecting
  · intro _ other there
    rcases mem_replaced consistent.rows found there with ⟨kept,_⟩ | rfl
    · exact consistent.phased.selected selecting other kept
    · exact integrated
  · intro completed
    cases merging.symm.trans completed
  · intro _ _ _
    refine ⟨_,List.mem_map.mpr ⟨row,present,if_pos here⟩,rfl⟩
  · refine consistent.evident.quiet (.of_eq rfl rfl rfl rfl rfl rfl rfl) rfl (fun accepts => accepts) ?_
    intro whole other there
    rcases mem_replaced consistent.rows found there with ⟨kept,_⟩ | rfl
    · exact whole other kept
    · exact integrated
  · intro other there pending
    rcases mem_replaced consistent.rows found there with ⟨kept,_⟩ | rfl
    · exact consistent.requested other kept pending
    · obtain ⟨request,latest,awaits⟩ := consistent.requested row present waits
      refine ⟨request,latest,?_,binding.symm.trans awaits.binding,fun same => (by cases same),
        fun same => (by cases same),awaits.bound⟩
      have numbered := awaits.revision
      unfold matchesFormalCallbackRevision at numbered ⊢
      rcases asked with ask | ask <;> simp [ask] at numbered <;> simp [WorkItem.written,numbered]

theorem formalCallbackSubject_ok :
    formalCallbackSubject a workItemId expectedRevision = .ok row ↔
      a.workItemById workItemId = some row ∧ matchesFormalCallbackRevision row expectedRevision := by
  unfold formalCallbackSubject
  simp only [bind_ok,require_ok,orRaise_ok,pure_ok,exists_const]
  constructor
  · rintro ⟨row,found,current,rfl⟩
    exact ⟨found,current⟩
  · rintro ⟨found,current⟩
    exact ⟨row,found,current,rfl⟩

theorem pending_of_mem {row : WorkItem} (states : List FormalDeliveryState)
    (all : ∀ state ∈ states, state.pending = true) (member : row.formalDeliveryState ∈ states) :
    row.formalDeliveryState.pending = true := all _ member

theorem recordFormalDeliveryBlocked_ok
    (ran : recordFormalDeliveryBlocked d a workItemId bindingId reasonCode expectedRevision = .ok a') :
    ∃ row new written, written.settle .awaitingMerge d.now = .ok a' ∧
      FormalAnswer a workItemId expectedRevision row new written ∧ new.formalDeliveryState = .blocked ∧
      new.formalBlockedReasonCode = some reasonCode := by
  unfold recordFormalDeliveryBlocked at ran
  simp only [bind_ok,require_ok,exists_const] at ran
  obtain ⟨row,subject,⟨asked,_⟩,written,wrote,settled⟩ := ran
  obtain ⟨found,current⟩ := formalCallbackSubject_ok.mp subject
  obtain ⟨row',again,_,checked,rfl⟩ := Aggregate.writeWorkItem_ok.mp wrote
  cases found.symm.trans again
  exact ⟨row,_,_,settled,⟨found,current,pending_of_mem _ (by decide) asked,checked,rfl,rfl,rfl,rfl,rfl,rfl,rfl,rfl,
    rfl,rfl,rfl,fun _ _ there => there⟩,rfl,rfl⟩

theorem recordFormalMerged_ok
    (ran : recordFormalMerged d a workItemId bindingId headSha mergeCommitSha expectedRevision = .ok a') :
    ∃ row new written state, written.settle state d.now = .ok a' ∧
      FormalAnswer a workItemId expectedRevision row new written ∧ new.formalDeliveryState = .merged ∧
      (state = .awaitingMerge ∨
        state = .completed ∧ ∀ row ∈ written.workItems, row.formalDeliveryState = .merged) := by
  unfold recordFormalMerged at ran
  simp only [bind_ok,require_ok,exists_const] at ran
  obtain ⟨_,row,subject,item,_,⟨asked,_⟩,written,wrote,settled⟩ := ran
  obtain ⟨found,current⟩ := formalCallbackSubject_ok.mp subject
  obtain ⟨row',again,_,checked,rfl⟩ := Aggregate.writeWorkItem_ok.mp wrote
  cases found.symm.trans again
  refine ⟨row,_,_,_,settled,⟨found,current,pending_of_mem _ (by decide) asked,checked,rfl,rfl,rfl,rfl,rfl,rfl,rfl,rfl,
    rfl,rfl,rfl,fun _ _ there => there⟩,rfl,?_⟩
  unfold Aggregate.requiredFormalDeliveryStates
  split
  · rename_i all
    exact .inr ⟨rfl,by simpa using all⟩
  · exact .inl rfl

theorem recordFormalMrReady_ok
    (ran : recordFormalMrReady d a workItemId bindingId headSha expectedRevision assignment = .ok a') :
    ∃ row new written, written.settle a.requirement.state d.now = .ok a' ∧
      FormalAnswer a workItemId expectedRevision row new written ∧ new.formalDeliveryState = .mrOpen := by
  unfold recordFormalMrReady at ran
  simp only [bind_ok,require_ok,orRaise_ok,exists_const] at ran
  obtain ⟨_,_,row,subject,item,_,⟨asked,_⟩,selectionId,_,selection,_,_,gated,added,written,wrote,settled⟩ := ran
  obtain ⟨found,current⟩ := formalCallbackSubject_ok.mp subject
  obtain ⟨fresh,_,rfl⟩ := Aggregate.insertDeliveryGate_ok.mp added
  obtain ⟨row',again,_,checked,rfl⟩ := Aggregate.writeWorkItem_ok.mp wrote
  cases found.symm.trans again
  refine ⟨row,_,_,settled,⟨found,current,pending_of_mem _ (by decide) asked,checked,rfl,rfl,rfl,rfl,rfl,rfl,rfl,rfl,
    rfl,rfl,rfl,?_⟩,rfl⟩
  intro id gate there
  refine (KeyedRows.find_insert id fresh).trans ?_
  rw [if_neg]
  · exact there
  · rintro rfl
    cases fresh.symm.trans there

theorem recordFormalDeliveryBlocked_consistent (consistent : Consistent a)
    (ran : recordFormalDeliveryBlocked d a workItemId bindingId reasonCode expectedRevision = .ok a') :
    Consistent a' := by
  obtain ⟨row,new,written,settled,answer,_⟩ := recordFormalDeliveryBlocked_ok ran
  exact consistent.settle answer (.inl rfl) settled

theorem recordFormalMerged_consistent (consistent : Consistent a)
    (ran : recordFormalMerged d a workItemId bindingId headSha mergeCommitSha expectedRevision = .ok a') :
    Consistent a' := by
  obtain ⟨row,new,written,state,settled,answer,_,target⟩ := recordFormalMerged_ok ran
  exact consistent.settle answer target settled

theorem recordFormalMrReady_consistent (consistent : Consistent a)
    (ran : recordFormalMrReady d a workItemId bindingId headSha expectedRevision assignment = .ok a') :
    Consistent a' := by
  obtain ⟨row,new,written,settled,answer,_⟩ := recordFormalMrReady_ok ran
  have merging := consistent.phased.pending row (KeyedRows.find_some answer.found).1 answer.waits
  exact consistent.settle answer (.inl merging) settled

-- One gate that is not the requirement's own is rewritten.
theorem quiet_gates {a : Aggregate} {gate new : DeliveryGate} (found : a.deliveryGateById gateId = some gate)
    (keyed : new.id = gate.id) (rewritten : gate.gateType = .requirementAcceptance → ∃ revision, new = {gate with revision}) :
    ∀ id other, a.deliveryGateById id = some other → other.gateType = .requirementAcceptance →
      ∃ revision, KeyedRows.find DeliveryGate.id (KeyedRows.update DeliveryGate.id a.deliveryGates gateId fun _ => new)
        id = some {other with revision} := by
  intro id other there acceptance
  have here := (KeyedRows.find_some found).2
  by_cases same : id = gateId
  · subst same
    cases found.symm.trans there
    obtain ⟨revision,rfl⟩ := rewritten acceptance
    exact ⟨revision,KeyedRows.find_replaced found rfl⟩
  · refine ⟨other.revision,?_⟩
    rw [KeyedRows.find_replace (keyed.trans here),if_neg same]
    exact there

theorem decideFormalReview_consistent (consistent : Consistent a)
    (ran : decideFormalReview d a gateId outcome reason expectedRevision actor = .ok a') : Consistent a' := by
  unfold decideFormalReview at ran
  simp only [bind_ok,require_ok,orRaise_ok,exists_const] at ran
  obtain ⟨stable,_,_,gate,foundGate,formal,_,row,subject,item,current,⟨open_,_⟩,selection,_,_,assignment,_,_,_,_,
    inserted,added,decided,closed,ran⟩ := ran
  obtain ⟨undecided,rfl⟩ := Aggregate.insertDeliveryDecision_ok.mp added
  obtain ⟨gate',again,_,rfl⟩ := Aggregate.writeOpenDeliveryGate_ok.mp closed
  cases foundGate.symm.trans again
  obtain ⟨workItemId,_,found⟩ := Option.bind_eq_some_iff.mp subject
  obtain ⟨present,here⟩ := KeyedRows.find_some found
  subst here
  have merging : a.requirement.state = .awaitingMerge :=
    consistent.merging present (by rw [open_]; exact fun same => by cases same) current
  have selecting : a.requirement.state.selected = true := by rw [merging]; rfl
  split at ran
  · obtain ⟨_,rfl⟩ := Aggregate.touchRequirement_ok.mp ran
    refine ⟨consistent.rows,consistent.phased,consistent.confirming,?_,consistent.requested⟩
    refine consistent.evident.quiet ⟨rfl,rfl,quiet_gates foundGate rfl fun acceptance => ?_,?_,rfl,rfl,rfl⟩ rfl
      (fun accepts => accepts) fun integrated => integrated
    · cases formal.symm.trans acceptance
    · intro id decision there
      refine (KeyedRows.find_insert id undecided).trans ?_
      rw [if_neg]
      · exact there
      · rintro rfl
        cases undecided.symm.trans there
  · simp only [bind_ok] at ran
    obtain ⟨reopened,wrote,moved,updated,ran⟩ := ran
    obtain ⟨row',again,_,checked,rfl⟩ := Aggregate.writeWorkItem_ok.mp wrote
    cases found.symm.trans again
    obtain ⟨_,rfl⟩ := Aggregate.updateRequirementState_ok.mp updated
    have invalidation := invalidateCurrentDeliveryEvidence_ok ran
    have bound := consistent.rows.started row present fun unstarted => by
      cases unstarted.symm.trans (consistent.phased.selected selecting row present)
    have calm : ∀ other ∈ a.workItems, other.formalDeliveryState.pending = false := by
      intro other there
      by_cases same : other.id = row.id
      · have one : a.workItemById other.id = some other := KeyedRows.find_of_mem consistent.rows.unique there
        rw [same] at one
        cases found.symm.trans one
        rw [open_]
        rfl
      · exact invalidation.calm other (List.mem_map.mpr ⟨other,there,if_neg same⟩)
    refine Consistent.resumed (invalidation.rows (consistent.rows.replaced rfl checked fun _ => bound))
      (invalidation.settled ?_) ?_ ?_ (invalidation.unique consistent.evident.unique) invalidation.dead ?_ ?_
    · intro other there
      rcases mem_replaced consistent.rows found there with ⟨kept,_⟩ | rfl
      · exact consistent.phased.calm calm kept
      · exact ⟨rfl,by simp [invalidationBlock,WorkItem.written]⟩
    · rw [invalidation.requirement]
      exact .inl rfl
    · rw [invalidation.requirement,invalidation.gates]
      exact consistent.confirming.moved fun plans => by
        rcases plans with planned | planned <;> cases planned.symm.trans merging
    · rw [invalidation.requirement]
    · rw [invalidation.snapshots,invalidation.requirement]
      intro snapshot there
      exact (consistent.evident.snapshots snapshot there).2.1 selecting

theorem supersedeDeliveryGateAssignment_ok {id : Uuid}
    (ran : Aggregate.supersedeDeliveryGateAssignment a id now missing = .ok a') :
    ∃ rows, a' = {a with deliveryAssignments := rows} := by
  unfold Aggregate.supersedeDeliveryGateAssignment at ran
  simp only [bind_ok,require_ok,orRaise_ok,pure_ok,exists_const] at ran
  obtain ⟨row,_,_,rfl⟩ := ran
  exact ⟨_,rfl⟩

theorem reassignDeliveryGate_consistent (consistent : Consistent a)
    (ran : reassignDeliveryGate d a gateId candidateId expectedGateRevision reason actor = .ok a') :
    Consistent a' := by
  unfold reassignDeliveryGate at ran
  simp only [bind_ok,require_ok,orRaise_ok,exists_const] at ran
  obtain ⟨_,gate,found,_,_,selection,_,_,_,_,_,_,assignment,_,_,guard,_,capabilities,_,actorFacts,_,candidateFacts,_,
    _,_,_,_,advanced,advances,superseded,supersedes,touched⟩ := ran
  obtain ⟨gate',again,_,rfl⟩ := Aggregate.writeOpenDeliveryGate_ok.mp advances
  cases found.symm.trans again
  obtain ⟨rows,rfl⟩ := supersedeDeliveryGateAssignment_ok supersedes
  obtain ⟨_,rfl⟩ := Aggregate.touchRequirement_ok.mp touched
  refine ⟨consistent.rows,consistent.phased,consistent.confirming,?_,consistent.requested⟩
  exact consistent.evident.quiet ⟨rfl,rfl,quiet_gates found rfl fun _ => ⟨_,rfl⟩,fun _ _ there => there,rfl,rfl,rfl⟩
    rfl (fun accepts => accepts) fun integrated => integrated

end EngineeringPlatform.Requirement
