import EngineeringPlatform.RequirementInvariant
-- Evidence and its acceptance keep a requirement consistent.
namespace EngineeringPlatform.Requirement
open Checked

-- What an invalidation of the current evidence leaves.
structure Invalidation (a a' : Aggregate) : Prop where
  calm : ∀ row ∈ a.workItems, row.formalDeliveryState.pending = false
  checked : ∀ row ∈ a'.workItems, row.Checks
  items : a'.workItems = a.workItems.map (WorkItem.writtenIf
    (fun row => row.state = .awaitingMerge ∧ row.integrationDeliveryState = .integrated)
    fun row => {row with state := .verifying})
  requirement : a'.requirement =
    {a.requirement with currentIntegrationBaselineSelectionId := none, currentAcceptanceGateId := none}
  ids : a'.selections.map IntegrationBaselineSelection.id = a.selections.map IntegrationBaselineSelection.id
  dead : ∀ selection ∈ a'.selections, selection.invalidatedAt ≠ none
  closed : ∀ gate ∈ a'.deliveryGates, gate.state = .invalidated
  revoked : ∀ decision ∈ a'.decisions, decision.validity = .invalidated
  snapshots : a'.snapshots = a.snapshots
  outbox : a'.outbox = a.outbox
  gates : a'.gates = a.gates

theorem invalidateCurrentDeliveryEvidence_ok
    (ran : Aggregate.invalidateCurrentDeliveryEvidence a reason now = .ok a') : Invalidation a a' := by
  unfold Aggregate.invalidateCurrentDeliveryEvidence at ran
  simp only [bind_ok,require_ok,pure_ok,exists_const] at ran
  obtain ⟨idle,written,wrote,rfl⟩ := ran
  obtain ⟨checked,rfl⟩ := Aggregate.writeWorkItems_ok.mp wrote
  refine ⟨?_,List.forall_mem_map.mpr checked,rfl,rfl,?_,?_,?_,?_,rfl,rfl,rfl⟩
  · intro row member
    cases waits : row.formalDeliveryState.pending with
    | false => rfl
    | true =>
      have some : a.hasPendingFormalDelivery = true := List.any_eq_true.mpr ⟨row,member,waits⟩
      cases idle.symm.trans some
  · dsimp only
    rw [List.map_map]
    refine List.map_congr_left fun selection _ => ?_
    dsimp only [Function.comp]
    split <;> rfl
  · intro selection member
    obtain ⟨old,_,rfl⟩ := List.mem_map.mp member
    split
    · exact Option.some_ne_none now
    · assumption
  · intro gate member
    obtain ⟨old,_,rfl⟩ := List.mem_map.mp member
    split
    · rfl
    · rename_i neither
      cases state : old.state <;> simp [state] at neither ⊢
  · intro decision member
    obtain ⟨old,_,rfl⟩ := List.mem_map.mp member
    split
    · rfl
    · rename_i stale
      cases validity : old.validity <;> simp [validity] at stale ⊢

namespace Invalidation

-- A row of the invalidated requirement is an old one, at most taken back to
-- VERIFYING.
theorem row (invalidation : Invalidation a a') (member : new ∈ a'.workItems) :
    ∃ old ∈ a.workItems, new = old ∨ new = old.written fun row => {row with state := .verifying} := by
  rw [invalidation.items] at member
  obtain ⟨old,there,same | ⟨_,same⟩⟩ := mem_writtenIf member
  · exact ⟨old,there,.inl same⟩
  · exact ⟨old,there,.inr same⟩

theorem integrated (invalidation : Invalidation a a') (member : new ∈ a'.workItems) :
    ∃ old ∈ a.workItems, new.id = old.id ∧ new.integrationDeliveryState = old.integrationDeliveryState ∧
      new.formalDeliveryState = old.formalDeliveryState ∧
      new.formalBlockedReasonCode = old.formalBlockedReasonCode ∧ new.repositoryState = old.repositoryState := by
  obtain ⟨old,there,rfl | rfl⟩ := invalidation.row member
  · exact ⟨_,there,rfl,rfl,rfl,rfl,rfl⟩
  · exact ⟨old,there,rfl,rfl,rfl,rfl,rfl⟩

theorem settled (invalidation : Invalidation a a') (settled : ∀ row ∈ a.workItems, row.Settled) :
    ∀ row ∈ a'.workItems, row.Settled := by
  intro row member
  obtain ⟨old,there,_,_,formal,blocked,_⟩ := invalidation.integrated member
  have before := settled old there
  unfold WorkItem.Settled Aggregate.invalidationBlock at before ⊢
  rw [formal,blocked]
  exact before

theorem rows (invalidation : Invalidation a a') (rows : RowsOk a.workItems) : RowsOk a'.workItems := by
  have checked := invalidation.checked
  rw [invalidation.items] at checked ⊢
  refine rows.mapped (fun _ => rfl) (List.forall_mem_map.mp checked) ?_
  intro row member _ started
  exact rows.started row member started

theorem unique (invalidation : Invalidation a a')
    (unique : KeyedRows.Unique IntegrationBaselineSelection.id a.selections) :
    KeyedRows.Unique IntegrationBaselineSelection.id a'.selections := by
  unfold KeyedRows.Unique at unique ⊢
  rw [invalidation.ids]
  exact unique

end Invalidation

theorem submitExternalValidation_consistent (consistent : Consistent a)
    (ran : submitExternalValidation texts d a given expectedRevision actor = .ok a') : Consistent a' := by
  unfold submitExternalValidation at ran
  simp only [bind_ok,require_ok,orRaise_ok,pure_ok,exists_const] at ran
  obtain ⟨stable,_,row,_,_,_,_,submits,_,bindingId,_,invalid,ranInvalid,advanced,wrote,rfl⟩ := ran
  have invalidation := invalidateCurrentDeliveryEvidence_ok ranInvalid
  obtain ⟨_,rfl⟩ := Aggregate.writeRequirement_ok.mp wrote
  have settled := invalidation.settled fun _ => consistent.phased.calm invalidation.calm
  refine Consistent.resumed (invalidation.rows consistent.rows) settled (.inr rfl) ?_
    (invalidation.unique consistent.evident.unique) invalidation.dead ?_ ?_
  · show Confirming .verifying invalid.requirement.currentSddBaselineId invalid.gates
    rw [invalidation.requirement,invalidation.gates]
    refine consistent.confirming.moved fun plans => ?_
    rcases plans with state | state <;> simp [state] at submits
  · show invalid.requirement.currentAcceptanceGateId = none
    rw [invalidation.requirement]
  · show ∀ snapshot ∈ invalid.snapshots, snapshot.requirementVersion < invalid.requirement.requirementVersion + 1
    rw [invalidation.snapshots,invalidation.requirement]
    intro snapshot member
    exact Nat.lt_succ_of_le (consistent.evident.snapshots snapshot member).1

theorem requestIntegrationBaseline_consistent (consistent : Consistent a)
    (ran : requestIntegrationBaseline texts d a expectedRevision expectedRequirementVersion actor = .ok a') :
    Consistent a' := by
  unfold requestIntegrationBaseline at ran
  simp only [bind_ok,require_ok,pure_ok,exists_const] at ran
  obtain ⟨_,verifying,version,_,_,⟨_,whole⟩,inserted,added,touched,wrote,rfl⟩ := ran
  obtain ⟨_,_,rfl⟩ := Aggregate.insertDeliverySnapshot_ok.mp added
  obtain ⟨_,rfl⟩ := Aggregate.touchRequirement_ok.mp wrote
  have integrated : ∀ row ∈ a.workItems, row.integrationDeliveryState = .integrated := by
    intro row member
    have done := List.all_eq_true.mp whole row member
    unfold delivered at done
    simp only [decide_eq_true_eq] at done
    exact done.1
  have unselected : a.requirement.state.selected = false := by rw [verifying]; rfl
  refine ⟨consistent.rows,consistent.phased,consistent.confirming,?_,consistent.requested.kept
    (fun row member _ => member) fun _ => latestFormalRequest_other rfl⟩
  refine Evident.unselected consistent.evident.unique (consistent.evident.dead unselected) unselected
    consistent.evident.gate ?_
  intro snapshot member
  rcases List.mem_append.mp member with old | new
  · obtain ⟨most,_,complete⟩ := consistent.evident.snapshots snapshot old
    exact ⟨most,complete⟩
  · cases List.mem_singleton.mp new
    exact ⟨Nat.le_of_eq version.symm,fun _ => integrated⟩

theorem validateSelectionSubject_ok
    (ran : validateSelectionSubject d a deliverySnapshotId integrationBaselineId expectedRequirementVersion =
      .ok evidence) :
    a.requirement.state = .verifying ∧ a.requirement.requirementVersion = expectedRequirementVersion ∧
      ∃ snapshot ∈ a.snapshots, snapshot.requirementVersion = expectedRequirementVersion := by
  unfold validateSelectionSubject at ran
  simp only [bind_ok,require_ok,orRaise_ok,pure_ok,exists_const] at ran
  obtain ⟨verifying,version,snapshot,found,⟨taken,_⟩,_⟩ := ran
  exact ⟨verifying,version,snapshot,(KeyedRows.find_some found).1,taken⟩

theorem selectIntegrationBaseline_consistent (consistent : Consistent a)
    (ran : selectIntegrationBaseline d a deliverySnapshotId integrationBaselineId expectedRevision
      expectedRequirementVersion actor = .ok a') : Consistent a' := by
  unfold selectIntegrationBaseline at ran
  simp only [bind_ok,require_ok,pure_ok,exists_const] at ran
  obtain ⟨_,evidence,subject,inserted,added,applied,wrote,rfl⟩ := ran
  obtain ⟨verifying,version,snapshot,there,taken⟩ := validateSelectionSubject_ok subject
  obtain ⟨fresh,dead,_,rfl⟩ := Aggregate.insertIntegrationBaselineSelection_ok.mp added
  obtain ⟨_,rfl⟩ := Aggregate.writeRequirement_ok.mp wrote
  have integrated := (consistent.evident.snapshots snapshot there).2.2 (taken.trans version.symm)
  have settled : ∀ row ∈ a.workItems, row.Settled := fun row member => consistent.phased.idle
    (fun merging => by cases merging.symm.trans verifying) member
  refine ⟨consistent.rows,Phased.of_settled settled (fun done => by cases done) (fun plans => by cases plans)
    fun _ => integrated,?_,?_,Requested.none fun row member => (settled row member).1⟩
  · refine consistent.confirming.moved fun plans => ?_
    rcases plans with state | state <;> cases state.symm.trans verifying
  · refine ⟨KeyedRows.unique_insert consistent.evident.unique fresh,?_,?_,?_,(fun accepted => by cases accepted),?_⟩
    · intro selection member live
      rcases List.mem_append.mp member with old | new
      · exact absurd live (dead selection old)
      · cases List.mem_singleton.mp new
        exact ⟨rfl,rfl⟩
    · intro _
      refine ⟨_,List.mem_append_right _ (List.mem_singleton_self _),rfl,rfl,?_⟩
      exact congrArg (· + 1) version.symm
    · intro id current
      cases current
    · intro other member
      have most := (consistent.evident.snapshots other member).1
      exact ⟨Nat.le_succ_of_le most,fun _ => Nat.lt_succ_of_le most,fun _ => integrated⟩

theorem confirmRequirementAcceptance_consistent (consistent : Consistent a)
    (ran : confirmRequirementAcceptance d a selectionId expectedRevision = .ok a') : Consistent a' := by
  unfold confirmRequirementAcceptance at ran
  simp only [bind_ok,require_ok,orRaise_ok,exists_const] at ran
  obtain ⟨_,⟨awaiting,_,_⟩,selection,_,_,_,_,policy,_,gated,added,wrote⟩ := ran
  obtain ⟨fresh,_,rfl⟩ := Aggregate.insertDeliveryGate_ok.mp added
  obtain ⟨_,rfl⟩ := Aggregate.writeRequirement_ok.mp wrote
  have unaccepted : a.requirement.state.accepted = false := by rw [awaiting]; rfl
  refine ⟨consistent.rows,consistent.phased,consistent.confirming,
    ⟨consistent.evident.unique,consistent.evident.live,consistent.evident.current,?_,?_,
      consistent.evident.snapshots⟩,consistent.requested⟩
  · intro id current
    cases Option.some.inj current
    refine ⟨_,(KeyedRows.find_insert _ fresh).trans (if_pos rfl),rfl⟩
  · intro accepted
    cases unaccepted.symm.trans accepted

theorem reworked_settled (now : Time) (row : WorkItem) : (row.written (Aggregate.reworked now)).Settled := by
  unfold WorkItem.Settled Aggregate.invalidationBlock
  by_cases bound : row.formalMergeRequestBindingId = none <;>
    simp [WorkItem.written,Aggregate.reworked,bound,FormalDeliveryState.pending]

-- A bulk reopen of rows that had been worked on.
theorem RowsOk.reopened {items : List WorkItem} (rows : RowsOk items)
    (checked : ∀ row ∈ items, (row.writtenIf chosen (Aggregate.reworked now)).Checks)
    (started : ∀ row ∈ items, chosen row = true → row.integrationDeliveryState ≠ .notStarted) :
    RowsOk (items.map (WorkItem.writtenIf chosen (Aggregate.reworked now))) :=
  rows.mapped (fun _ => rfl) checked fun row member taken _ => rows.started row member (started row member taken)

theorem reopened_settled {items : List WorkItem} (settled : ∀ row ∈ items, chosen row = false → row.Settled) :
    ∀ row ∈ items.map (WorkItem.writtenIf chosen (Aggregate.reworked now)), row.Settled := by
  refine List.forall_mem_map.mpr fun row member => ?_
  unfold WorkItem.writtenIf
  split
  · exact reworked_settled now row
  · rename_i left
    exact settled row member (by simpa using left)

theorem decideRequirementAcceptance_consistent (consistent : Consistent a)
    (ran : decideRequirementAcceptance d a gateId outcome reason expectedRevision actor = .ok a') :
    Consistent a' := by
  unfold decideRequirementAcceptance at ran
  simp only [bind_ok,require_ok,orRaise_ok,exists_const] at ran
  obtain ⟨stable,_,_,⟨awaiting,gated⟩,gate,found,opened,selectionId,selected,selection,chosen,
    ⟨live,subject,version,_,_,baseline,hash⟩,_,_,assignment,_,_,_,_,inserted,added,decided,closed,applied,wrote,ran⟩ :=
    ran
  obtain ⟨undecided,rfl⟩ := Aggregate.insertDeliveryDecision_ok.mp added
  obtain ⟨gate',again,_,rfl⟩ := Aggregate.writeOpenDeliveryGate_ok.mp closed
  cases found.symm.trans again
  obtain ⟨_,rfl⟩ := Aggregate.writeRequirement_ok.mp wrote
  obtain ⟨_,rfl⟩ := KeyedRows.find_some found
  obtain ⟨there,named⟩ := KeyedRows.find_some chosen
  have settled : ∀ row ∈ a.workItems, row.Settled := fun row present => consistent.phased.idle
    (fun merging => by cases merging.symm.trans awaiting) present
  have selecting : a.requirement.state.selected = true := by rw [awaiting]; rfl
  have unplanned : ∀ state, Confirming state a.requirement.currentSddBaselineId a.gates := fun state =>
    consistent.confirming.moved fun plans => by rcases plans with here | here <;> cases here.symm.trans awaiting
  split at ran
  · rename_i approved
    cases pure_ok.mp ran
    have acceptance : gate.gateType = .requirementAcceptance := by
      obtain ⟨other,current,type⟩ := consistent.evident.gate gate.id gated
      cases found.symm.trans current
      exact type
    refine ⟨consistent.rows,Phased.of_settled settled (fun done => by cases done) (fun plans => by cases plans)
      fun _ => consistent.phased.selected selecting,unplanned _,?_,
      Requested.none fun row present => (settled row present).1⟩
    refine ⟨consistent.evident.unique,?_,?_,?_,?_,?_⟩
    · intro other present lives
      exact ⟨rfl,(consistent.evident.live other present lives).2⟩
    · intro _
      exact consistent.evident.current selecting
    · intro id current
      cases Option.some.inj (gated.symm.trans current)
      exact ⟨_,KeyedRows.find_replaced found rfl,acceptance⟩
    · intro _
      refine ⟨selection,there,live,{gate with state := .decided, decidedAt := some d.now, revision := gate.revision + 1},
        _,⟨?_,gated,KeyedRows.find_replaced found rfl,acceptance,subject.trans named.symm,rfl,(KeyedRows.find_insert _ undecided).trans (if_pos rfl),
          approved,rfl,rfl,rfl,rfl⟩⟩
      exact selected.trans (congrArg some named.symm)
    · intro snapshot present
      obtain ⟨most,below,whole⟩ := consistent.evident.snapshots snapshot present
      exact ⟨most,fun _ => below selecting,whole⟩
  · rename_i refused
    simp only [bind_ok] at ran
    obtain ⟨invalid,ranInvalid,ran⟩ := ran
    have invalidation := invalidateCurrentDeliveryEvidence_ok ranInvalid
    obtain ⟨wrote,_⟩ := Aggregate.reopenIntegratedWorkItemsForRework_ok.mp ran
    obtain ⟨checked,rfl⟩ := Aggregate.writeWorkItems_ok.mp wrote
    have calm := invalidation.settled settled
    refine Consistent.resumed ((invalidation.rows consistent.rows).reopened checked ?_)
      (reopened_settled fun row present _ => calm row present) ?_ ?_ (invalidation.unique consistent.evident.unique)
      invalidation.dead ?_ ?_
    · intro row _ integrated unstarted
      have both : row.integrationDeliveryState = .integrated ∧ row.formalDeliveryState ≠ .merged := by
        simpa using integrated
      cases unstarted.symm.trans both.1
    · show invalid.requirement.state.Working
      rw [invalidation.requirement]
      exact .inl rfl
    · show Confirming invalid.requirement.state invalid.requirement.currentSddBaselineId invalid.gates
      rw [invalidation.requirement,invalidation.gates]
      exact unplanned _
    · show invalid.requirement.currentAcceptanceGateId = none
      rw [invalidation.requirement]
    · show ∀ snapshot ∈ invalid.snapshots, snapshot.requirementVersion < invalid.requirement.requirementVersion
      rw [invalidation.snapshots,invalidation.requirement]
      intro snapshot present
      exact (consistent.evident.snapshots snapshot present).2.1 selecting

end EngineeringPlatform.Requirement
