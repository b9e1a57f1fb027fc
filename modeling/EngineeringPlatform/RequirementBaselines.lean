import EngineeringPlatform.RequirementConsistent
-- The plan of a requirement: its set of work items, who they are assigned to
-- and the baseline it was confirmed by.
namespace EngineeringPlatform.Requirement
open Checked

-- What every write that plans nothing keeps.
structure PlanKept (a a' : Aggregate) : Prop where
  ids : a'.workItems.map WorkItem.id = a.workItems.map WorkItem.id
  hash : a'.requirement.requiredWorkItemSetHash = a.requirement.requiredWorkItemSetHash
  version : a'.requirement.requiredWorkItemSetVersion = a.requirement.requiredWorkItemSetVersion
  assignments : a'.assignments = a.assignments
  gates : ∀ gate ∈ a.gates, ∃ state revision, {gate with state, revision} ∈ a'.gates
  decisions : ∀ decision ∈ a.gateDecisions, decision ∈ a'.gateDecisions
  ready : a'.requirement.state = .ready → a.requirement.state = .ready ∧
    a'.requirement.currentSddBaselineId = a.requirement.currentSddBaselineId ∧
    a'.requirement.requirementVersion = a.requirement.requirementVersion ∧
    a'.requirement.routeSnapshotVersion = a.requirement.routeSnapshotVersion ∧
    a'.requirement.routeSnapshotHash = a.requirement.routeSnapshotHash

theorem PlanKept.refl (a : Aggregate) : PlanKept a a :=
  ⟨rfl,rfl,rfl,rfl,fun gate present => ⟨gate.state,gate.revision,present⟩,fun _ present => present,
    fun ready => ⟨ready,rfl,rfl,rfl,rfl⟩⟩

theorem PlanKept.trans (one : PlanKept a a') (two : PlanKept a' a'') : PlanKept a a'' := by
  refine ⟨two.ids.trans one.ids,two.hash.trans one.hash,two.version.trans one.version,
    two.assignments.trans one.assignments,?_,fun decision present => two.decisions decision (one.decisions decision present),
    ?_⟩
  · intro gate present
    obtain ⟨state,revision,there⟩ := one.gates gate present
    obtain ⟨state',revision',after⟩ := two.gates _ there
    exact ⟨state',revision',after⟩
  · intro ready
    obtain ⟨before,current,version,route,hash⟩ := two.ready ready
    obtain ⟨first,current',version',route',hash'⟩ := one.ready before
    exact ⟨first,current.trans current',version.trans version',route.trans route',hash.trans hash'⟩

theorem PlanKept.after (two : PlanKept a' a'') (one : PlanKept a a') : PlanKept a a'' := one.trans two

-- Tables the plan does not read may change.
theorem PlanKept.of_eq (items : a'.workItems.map WorkItem.id = a.workItems.map WorkItem.id)
    (requirement : a'.requirement = a.requirement) (assignments : a'.assignments = a.assignments)
    (gates : a'.gates = a.gates) (decisions : a'.gateDecisions = a.gateDecisions) : PlanKept a a' := by
  refine ⟨items,?_,?_,assignments,?_,?_,?_⟩
  · rw [requirement]
  · rw [requirement]
  · intro gate present
    exact ⟨gate.state,gate.revision,gates ▸ present⟩
  · intro decision present
    exact decisions ▸ present
  · rw [requirement]
    exact fun ready => ⟨ready,rfl,rfl,rfl,rfl⟩

theorem writeRequirement_kept {chosen : RequirementRow → Bool} {change : RequirementRow → RequirementRow}
    (wrote : Aggregate.writeRequirement a expectedRevision chosen change missing = .ok a')
    (hash : (change a.requirement).requiredWorkItemSetHash = a.requirement.requiredWorkItemSetHash)
    (version : (change a.requirement).requiredWorkItemSetVersion = a.requirement.requiredWorkItemSetVersion)
    (unready : (change a.requirement).state ≠ .ready) : PlanKept a a' := by
  obtain ⟨_,rfl⟩ := Aggregate.writeRequirement_ok.mp wrote
  exact ⟨rfl,hash,version,rfl,fun gate present => ⟨gate.state,gate.revision,present⟩,fun _ present => present,
    fun ready => absurd ready unready⟩

theorem updateRequirementState_kept (unready : state ≠ .ready)
    (wrote : Aggregate.updateRequirementState a expectedRevision state missing = .ok a') : PlanKept a a' :=
  writeRequirement_kept wrote rfl rfl unready

theorem touchRequirement_kept (wrote : Aggregate.touchRequirement a expectedRevision missing = .ok a') :
    PlanKept a a' := by
  obtain ⟨_,rfl⟩ := Aggregate.touchRequirement_ok.mp wrote
  exact ⟨rfl,rfl,rfl,rfl,fun gate present => ⟨gate.state,gate.revision,present⟩,fun _ present => present,
    fun ready => ⟨ready,rfl,rfl,rfl,rfl⟩⟩

theorem writeWorkItem_kept {id : Uuid} {chosen : WorkItem → Bool} {change : WorkItem → WorkItem}
    (wrote : Aggregate.writeWorkItem a id expectedRevision chosen change missing = .ok a')
    (keyed : ∀ row, (change row).id = row.id) : PlanKept a a' := by
  obtain ⟨row,found,_,_,rfl⟩ := Aggregate.writeWorkItem_ok.mp wrote
  refine .of_eq ?_ rfl rfl rfl rfl
  refine List.map_map.trans (List.map_congr_left fun other _ => ?_)
  dsimp only [Function.comp]
  split
  · rename_i same
    exact (keyed row).trans ((KeyedRows.find_some found).2.trans same.symm)
  · rfl

theorem writeWorkItems_kept {chosen : WorkItem → Bool} {change : WorkItem → WorkItem}
    (wrote : Aggregate.writeWorkItems a chosen change = .ok a') (keyed : ∀ row, (change row).id = row.id) :
    PlanKept a a' := by
  obtain ⟨_,rfl⟩ := Aggregate.writeWorkItems_ok.mp wrote
  refine .of_eq ?_ rfl rfl rfl rfl
  refine List.map_map.trans (List.map_congr_left fun row _ => ?_)
  dsimp only [Function.comp,WorkItem.writtenIf]
  split
  · exact keyed row
  · rfl

theorem invalidateCurrentDeliveryEvidence_kept
    (ran : Aggregate.invalidateCurrentDeliveryEvidence a reason now = .ok a') : PlanKept a a' := by
  unfold Aggregate.invalidateCurrentDeliveryEvidence at ran
  simp only [bind_ok,require_ok,pure_ok,exists_const] at ran
  obtain ⟨_,written,wrote,rfl⟩ := ran
  refine (writeWorkItems_kept wrote fun _ => rfl).trans ?_
  exact ⟨rfl,rfl,rfl,rfl,fun gate present => ⟨gate.state,gate.revision,present⟩,fun _ present => present,
    fun ready => ⟨ready,rfl,rfl,rfl,rfl⟩⟩

theorem writeOpenGate_kept {gateId : Uuid} {change : GateInstance → GateInstance}
    (unique : KeyedRows.Unique GateInstance.id a.gates)
    (wrote : writeOpenGate a gateId expectedRevision change missing = .ok a')
    (keeps : ∀ row, ∃ state, change row = {row with state}) : PlanKept a a' := by
  obtain ⟨row,found,_,rfl⟩ := writeOpenGate_ok.mp wrote
  refine ⟨rfl,rfl,rfl,rfl,?_,fun _ present => present,fun ready => ⟨ready,rfl,rfl,rfl,rfl⟩⟩
  intro gate present
  by_cases same : gate.id = gateId
  · have one : a.gateById gate.id = some gate := KeyedRows.find_of_mem unique present
    rw [same] at one
    cases found.symm.trans one
    obtain ⟨state,changed⟩ := keeps row
    refine ⟨state,row.revision + 1,List.mem_map.mpr ⟨row,present,?_⟩⟩
    rw [if_pos same,changed]
  · exact ⟨gate.state,gate.revision,List.mem_map.mpr ⟨gate,present,if_neg same⟩⟩

-- Planning commands that keep the plan.

theorem acknowledgeRepositoryBindingRequest_kept
    (ran : acknowledgeRepositoryBindingRequest a messageId = .ok a') : PlanKept a a' := by
  unfold acknowledgeRepositoryBindingRequest at ran
  rw [require_bind_ok] at ran
  obtain ⟨_,ran⟩ := ran
  split at ran
  · exact updateRequirementState_kept (fun same => by cases same) ran
  · cases pure_ok.mp ran
    exact .refl a

theorem startRequirementPreparation_kept (ran : startRequirementPreparation a expectedRevision = .ok a') :
    PlanKept a a' := by
  unfold startRequirementPreparation at ran
  rw [require_bind_ok,require_bind_ok,bind_ok] at ran
  obtain ⟨_,_,target,moves,ran⟩ := ran
  obtain ⟨_,rfl⟩ := transitionRequirement_ok.mp moves
  exact updateRequirementState_kept (fun same => by cases same) ran

theorem recordRepositoryBinding_kept
    (ran : recordRepositoryBinding a workItemId repositoryId baseCommitSha taskBranch expectedRevision = .ok a') :
    PlanKept a a' := by
  unfold recordRepositoryBinding at ran
  simp only [bind_ok,require_ok,orRaise_ok,exists_const] at ran
  obtain ⟨row,_,_,sha,_,branch,_,ran⟩ := ran
  split at ran
  · simp only [bind_ok,require_ok,pure_ok,exists_const] at ran
    obtain ⟨_,rfl⟩ := ran
    exact .refl a
  · simp only [bind_ok,require_ok,exists_const] at ran
    exact writeWorkItem_kept ran.2 fun _ => rfl

theorem recordRepositoryBindingBlocked_kept
    (ran : recordRepositoryBindingBlocked d a workItemId repositoryId reasonCode expectedRevision = .ok a') :
    PlanKept a a' := by
  unfold recordRepositoryBindingBlocked at ran
  simp only [bind_ok,require_ok,orRaise_ok,exists_const] at ran
  obtain ⟨row,_,_,_,ran⟩ := ran
  split at ran
  · cases pure_ok.mp ran
    exact .refl a
  · simp only [bind_ok,require_ok,exists_const] at ran
    exact writeWorkItem_kept ran.2 fun _ => rfl

theorem createSddArtifact_kept (ran : createSddArtifact a expectedRevision = .ok a') : PlanKept a a' := by
  unfold createSddArtifact at ran
  rw [require_bind_ok,require_bind_ok] at ran
  exact updateRequirementState_kept (fun same => by cases same) ran.2.2

theorem registerSddBaseline_kept
    (ran : registerSddBaseline d a artifactId artifactVersion expectedRevision actor = .ok a') : PlanKept a a' := by
  unfold registerSddBaseline at ran
  simp only [bind_ok,require_ok,orRaise_ok,exists_const] at ran
  obtain ⟨_,preparing,_,artifacts,_,_,_,_,_,snapshot,_,_,ran⟩ := ran
  split at ran
  · simp only [bind_ok,require_ok,pure_ok,exists_const] at ran
    obtain ⟨_,_,rfl⟩ := ran
    exact .refl a
  · refine (writeRequirement_kept ran rfl rfl fun ready => ?_).after (.of_eq rfl rfl rfl rfl rfl)
    cases preparing.symm.trans ready

theorem submitBaselineConfirmation_kept
    (ran : submitBaselineConfirmation d a sddBaselineId expectedRevision = .ok a') : PlanKept a a' := by
  unfold submitBaselineConfirmation at ran
  simp only [bind_ok,require_ok,orRaise_ok,exists_const] at ran
  obtain ⟨_,baseline,_,_,_,_,target,moves,_,_,policy,_,_,_,ran⟩ := ran
  obtain ⟨_,rfl⟩ := transitionRequirement_ok.mp moves
  refine (updateRequirementState_kept (fun same => by cases same) ran).after ?_
  exact ⟨rfl,rfl,rfl,rfl,fun gate present => ⟨gate.state,gate.revision,List.mem_append_left _ present⟩,
    fun _ present => present,fun ready => ⟨ready,rfl,rfl,rfl,rfl⟩⟩

theorem reassignBaselineGate_kept (consistent : Consistent a)
    (ran : reassignBaselineGate d a gateId reviewerId reason expectedGateRevision actor = .ok a') :
    PlanKept a a' := by
  unfold reassignBaselineGate at ran
  simp only [bind_ok,require_ok,orRaise_ok,exists_const] at ran
  obtain ⟨gate,_,_,_,_,current,_,_,candidateId,_,_,_,_,guard,_,_,_,_,ran⟩ := ran
  refine (writeOpenGate_kept ?_ ran fun row => ⟨row.state,rfl⟩).after (.of_eq rfl rfl rfl rfl rfl)
  exact consistent.confirming.unique

-- Delivery.

theorem startWorkItem_kept (ran : startWorkItem a workItemId expectedRevision actor = .ok a') : PlanKept a a' := by
  unfold startWorkItem at ran
  simp only [bind_ok,require_ok,exists_const] at ran
  obtain ⟨row,_,⟨requirementState,workItemState⟩,moves,_,written,wrote,ran⟩ := ran
  obtain ⟨_,rfl⟩ := transitionHumanWorkStarted_ok moves
  exact (writeWorkItem_kept wrote fun _ => rfl).trans (updateRequirementState_kept (fun same => by cases same) ran)

theorem requestDelivery_kept (ran : requestDelivery d kind a workItemId expectedRevision actor = .ok a') :
    PlanKept a a' := by
  unfold requestDelivery at ran
  simp only [bind_ok,require_ok,pure_ok,exists_const] at ran
  obtain ⟨row,_,_,_,written,wrote,touched,moved,rfl⟩ := ran
  refine ((writeWorkItem_kept wrote fun _ => rfl).trans (updateRequirementState_kept ?_ moved)).trans
    (.of_eq rfl rfl rfl rfl rfl)
  cases kind <;> exact fun same => by cases same

theorem recordCallback_kept {command : WorkItem → Except RequirementError Projection}
    (ran : recordCallback a workItemId expectedRevision command = .ok a') : PlanKept a a' := by
  obtain ⟨row,projection,found,_,_,_,_,rfl⟩ := recordCallback_ok.mp ran
  obtain ⟨state,revision,frame,moved⟩ := advancedIf_frame
    (a.replaced workItemId (row.written projection.change)) projection.advanceRequirement
  rw [frame]
  refine ⟨?_,rfl,rfl,rfl,fun gate present => ⟨gate.state,gate.revision,present⟩,fun _ present => present,?_⟩
  · refine List.map_map.trans (List.map_congr_left fun other _ => ?_)
    dsimp only [Function.comp]
    split
    · rename_i same
      exact (KeyedRows.find_some found).2.trans same.symm
    · rfl
  · intro ready
    have ready : state = .ready := ready
    rcases moved with same | working | working
    · exact ⟨same.symm.trans ready,rfl,rfl,rfl,rfl⟩
    · cases ready.symm.trans working
    · cases ready.symm.trans working

theorem TerminalOutcome.record_kept (outcome : TerminalOutcome)
    (ran : outcome.record a workItemId expectedRevision = .ok a') : PlanKept a a' := by
  rw [record_eq] at ran
  exact recordCallback_kept ran

-- Evidence and acceptance.

theorem submitExternalValidation_kept
    (ran : submitExternalValidation texts d a given expectedRevision actor = .ok a') : PlanKept a a' := by
  unfold submitExternalValidation at ran
  simp only [bind_ok,require_ok,orRaise_ok,pure_ok,exists_const] at ran
  obtain ⟨stable,_,row,_,_,_,_,_,_,bindingId,_,invalid,ranInvalid,advanced,wrote,rfl⟩ := ran
  refine ((invalidateCurrentDeliveryEvidence_kept ranInvalid).trans (writeRequirement_kept wrote rfl rfl ?_)).trans
    (.of_eq rfl rfl rfl rfl rfl)
  exact fun same => by cases same

theorem requestIntegrationBaseline_kept
    (ran : requestIntegrationBaseline texts d a expectedRevision expectedRequirementVersion actor = .ok a') :
    PlanKept a a' := by
  unfold requestIntegrationBaseline at ran
  simp only [bind_ok,require_ok,pure_ok,exists_const] at ran
  obtain ⟨_,_,_,_,_,_,inserted,added,touched,wrote,rfl⟩ := ran
  obtain ⟨_,_,rfl⟩ := Aggregate.insertDeliverySnapshot_ok.mp added
  have kept : PlanKept a touched := (touchRequirement_kept wrote).after (.of_eq rfl rfl rfl rfl rfl)
  exact kept.trans (.of_eq rfl rfl rfl rfl rfl)

theorem selectIntegrationBaseline_kept
    (ran : selectIntegrationBaseline d a deliverySnapshotId integrationBaselineId expectedRevision
      expectedRequirementVersion actor = .ok a') : PlanKept a a' := by
  unfold selectIntegrationBaseline at ran
  simp only [bind_ok,require_ok,pure_ok,exists_const] at ran
  obtain ⟨_,evidence,_,inserted,added,applied,wrote,rfl⟩ := ran
  obtain ⟨_,_,_,rfl⟩ := Aggregate.insertIntegrationBaselineSelection_ok.mp added
  have kept : PlanKept a applied :=
    (writeRequirement_kept wrote rfl rfl fun same => by cases same).after (.of_eq rfl rfl rfl rfl rfl)
  exact kept.trans (.of_eq rfl rfl rfl rfl rfl)

theorem confirmRequirementAcceptance_kept
    (ran : confirmRequirementAcceptance d a selectionId expectedRevision = .ok a') : PlanKept a a' := by
  unfold confirmRequirementAcceptance at ran
  simp only [bind_ok,require_ok,orRaise_ok,exists_const] at ran
  obtain ⟨_,⟨awaiting,_,_⟩,selection,_,_,_,_,policy,_,gated,added,wrote⟩ := ran
  obtain ⟨_,_,rfl⟩ := Aggregate.insertDeliveryGate_ok.mp added
  refine (writeRequirement_kept wrote rfl rfl fun ready => ?_).after (.of_eq rfl rfl rfl rfl rfl)
  cases awaiting.symm.trans ready

theorem decideRequirementAcceptance_kept
    (ran : decideRequirementAcceptance d a gateId outcome reason expectedRevision actor = .ok a') :
    PlanKept a a' := by
  unfold decideRequirementAcceptance at ran
  simp only [bind_ok,require_ok,orRaise_ok,exists_const] at ran
  obtain ⟨stable,_,_,_,gate,_,_,selectionId,_,selection,_,_,_,_,assignment,_,_,_,_,inserted,added,
    decided,closed,applied,wrote,ran⟩ := ran
  obtain ⟨_,rfl⟩ := Aggregate.insertDeliveryDecision_ok.mp added
  obtain ⟨gate',_,_,rfl⟩ := Aggregate.writeOpenDeliveryGate_ok.mp closed
  have kept : PlanKept a applied := by
    refine (writeRequirement_kept wrote rfl rfl ?_).after (.of_eq rfl rfl rfl rfl rfl)
    dsimp only
    split <;> exact fun same => by cases same
  split at ran
  · cases pure_ok.mp ran
    exact kept
  · simp only [bind_ok] at ran
    obtain ⟨invalid,ranInvalid,ran⟩ := ran
    obtain ⟨wrote,_⟩ := Aggregate.reopenIntegratedWorkItemsForRework_ok.mp ran
    exact (kept.trans (invalidateCurrentDeliveryEvidence_kept ranInvalid)).trans (writeWorkItems_kept wrote fun _ => rfl)

-- Formal delivery.

theorem requestFormalDelivery_kept (ran : requestFormalDelivery d kind a workItemId expectedRevision actor = .ok a') :
    PlanKept a a' := by
  unfold requestFormalDelivery at ran
  simp only [bind_ok,require_ok,orRaise_ok,pure_ok,exists_const] at ran
  obtain ⟨_,row,_,_,item,_,acceptance,_,_,_,_,written,wrote,touched,moved,rfl⟩ := ran
  exact ((writeWorkItem_kept wrote fun _ => rfl).trans (touchRequirement_kept moved)).trans (.of_eq rfl rfl rfl rfl rfl)

theorem recordFormalReconciliationPending_kept
    (ran : recordFormalReconciliationPending d a workItemId bindingId expectedRevision = .ok a') :
    PlanKept a a' := by
  unfold recordFormalReconciliationPending at ran
  simp only [bind_ok,require_ok,orRaise_ok,exists_const] at ran
  obtain ⟨row,_,_,_,written,wrote,moved⟩ := ran
  exact (writeWorkItem_kept wrote fun _ => rfl).trans (touchRequirement_kept moved)

theorem settle_kept (unready : state ≠ .ready) (ran : Aggregate.settle written state now = .ok a') :
    PlanKept written a' := by
  unfold Aggregate.settle at ran
  split at ran
  · unfold Aggregate.applyReadyFormalInvalidation at ran
    simp only [bind_ok] at ran
    obtain ⟨moved,updated,reopened,reopens,ran⟩ := ran
    obtain ⟨wrote,_⟩ := Aggregate.reopenFormalInvalidationBlocksForRework_ok.mp reopens
    exact ((updateRequirementState_kept (fun same => by cases same) updated).trans
      (writeWorkItems_kept wrote fun _ => rfl)).trans (invalidateCurrentDeliveryEvidence_kept ran)
  · exact updateRequirementState_kept unready ran

theorem recordFormalDeliveryBlocked_kept
    (ran : recordFormalDeliveryBlocked d a workItemId bindingId reasonCode expectedRevision = .ok a') :
    PlanKept a a' := by
  unfold recordFormalDeliveryBlocked at ran
  simp only [bind_ok,require_ok,exists_const] at ran
  obtain ⟨row,_,_,written,wrote,settled⟩ := ran
  exact (writeWorkItem_kept wrote fun _ => rfl).trans (settle_kept (fun same => by cases same) settled)

theorem recordFormalMerged_kept
    (ran : recordFormalMerged d a workItemId bindingId headSha mergeCommitSha expectedRevision = .ok a') :
    PlanKept a a' := by
  unfold recordFormalMerged at ran
  simp only [bind_ok,require_ok,exists_const] at ran
  obtain ⟨_,row,_,item,_,_,written,wrote,settled⟩ := ran
  refine (writeWorkItem_kept wrote fun _ => rfl).trans (settle_kept ?_ settled)
  split <;> exact fun same => by cases same

theorem recordFormalMrReady_kept (consistent : Consistent a)
    (ran : recordFormalMrReady d a workItemId bindingId headSha expectedRevision assignment = .ok a') :
    PlanKept a a' := by
  obtain ⟨_,_,_,_,answer,_⟩ := recordFormalMrReady_ok ran
  have merging := consistent.phased.pending _ (KeyedRows.find_some answer.found).1 answer.waits
  unfold recordFormalMrReady at ran
  simp only [bind_ok,require_ok,orRaise_ok,exists_const] at ran
  obtain ⟨_,_,row,_,item,_,_,selectionId,_,selection,_,_,gated,added,written,wrote,settled⟩ := ran
  obtain ⟨_,_,rfl⟩ := Aggregate.insertDeliveryGate_ok.mp added
  refine ((writeWorkItem_kept wrote fun _ => rfl).trans (settle_kept ?_ settled)).after (.of_eq rfl rfl rfl rfl rfl)
  rw [merging]
  exact fun same => by cases same

theorem decideFormalReview_kept
    (ran : decideFormalReview d a gateId outcome reason expectedRevision actor = .ok a') : PlanKept a a' := by
  unfold decideFormalReview at ran
  simp only [bind_ok,require_ok,orRaise_ok,exists_const] at ran
  obtain ⟨stable,_,_,gate,_,_,_,row,_,item,_,_,selection,_,_,assignment,_,_,_,_,inserted,added,decided,closed,ran⟩ := ran
  obtain ⟨_,rfl⟩ := Aggregate.insertDeliveryDecision_ok.mp added
  obtain ⟨gate',_,_,rfl⟩ := Aggregate.writeOpenDeliveryGate_ok.mp closed
  split at ran
  · exact (touchRequirement_kept ran).after (.of_eq rfl rfl rfl rfl rfl)
  · simp only [bind_ok] at ran
    obtain ⟨reopened,wrote,moved,updated,ran⟩ := ran
    have kept : PlanKept a reopened := (writeWorkItem_kept wrote fun _ => rfl).after (.of_eq rfl rfl rfl rfl rfl)
    exact (kept.trans (updateRequirementState_kept (fun same => by cases same) updated)).trans
      (invalidateCurrentDeliveryEvidence_kept ran)

theorem reassignDeliveryGate_kept
    (ran : reassignDeliveryGate d a gateId candidateId expectedGateRevision reason actor = .ok a') :
    PlanKept a a' := by
  unfold reassignDeliveryGate at ran
  simp only [bind_ok,require_ok,orRaise_ok,exists_const] at ran
  obtain ⟨_,gate,_,_,_,selection,_,_,_,_,_,_,assignment,_,_,guard,_,capabilities,_,actorFacts,_,
    candidateFacts,_,_,_,_,_,advanced,advances,superseded,supersedes,touched⟩ := ran
  obtain ⟨gate',_,_,rfl⟩ := Aggregate.writeOpenDeliveryGate_ok.mp advances
  obtain ⟨rows,rfl⟩ := supersedeDeliveryGateAssignment_ok supersedes
  exact (touchRequirement_kept touched).after (.of_eq rfl rfl rfl rfl rfl)

-- The assignments of one work item in the order they were made: each supersedes
-- the one before it and takes the next revision.
structure Succession (rows : List WorkItemAssignment) : Prop where
  revisions : rows.map WorkItemAssignment.revision = List.range' 1 rows.length
  superseded : ∀ row ∈ rows.dropLast, row.supersededAt ≠ none
  current : ∀ row, rows.getLast? = some row → row.supersededAt = none

theorem Succession.nil : Succession [] :=
  ⟨rfl,fun _ member => (by cases member),fun _ last => (by cases last)⟩

theorem Succession.one {row : WorkItemAssignment} (first : row.revision = 1) (live : row.supersededAt = none) :
    Succession [row] := by
  refine ⟨?_,fun _ member => (by cases member),?_⟩
  · simp [first]
  · intro last same
    cases same
    exact live

theorem Succession.next {row : WorkItemAssignment} (revisions : rows.map WorkItemAssignment.revision = List.range' 1 rows.length)
    (superseded : ∀ row ∈ rows, row.supersededAt ≠ none) (next : row.revision = rows.length + 1)
    (live : row.supersededAt = none) : Succession (rows ++ [row]) := by
  refine ⟨?_,?_,?_⟩
  · rw [List.map_append,revisions,List.length_append,List.length_singleton,List.range'_1_concat,List.map_singleton,next,
      Nat.add_comm]
  · rw [List.dropLast_concat]
    exact superseded
  · intro last same
    rw [List.getLast?_concat] at same
    cases same
    exact live

theorem Succession.at_most_one (succession : Succession rows) :
    (rows.filter fun row => row.supersededAt = none).length ≤ 1 := by
  rcases List.eq_nil_or_concat rows with rfl | ⟨before,last,rfl⟩
  · exact Nat.zero_le 1
  · rw [List.concat_eq_append] at succession ⊢
    have superseded := succession.superseded
    rw [List.dropLast_concat] at superseded
    have none : before.filter (fun row => row.supersededAt = none) = [] :=
      List.filter_eq_nil_iff.mpr fun row member => by simpa using superseded row member
    rw [List.filter_append,none,List.nil_append]
    exact List.length_filter_le _ [last]

def assignmentsOf (a : Aggregate) (workItemId : Uuid) : List WorkItemAssignment :=
  a.assignments.filter fun row => row.workItemId = workItemId

-- The approval a READY requirement stands by.
structure ConfirmedBy (a : Aggregate) (gate : GateInstance) (decision : GateDecision) : Prop where
  present : gate ∈ a.gates
  current : a.requirement.currentSddBaselineId = some gate.sddBaselineId
  version : gate.requirementVersion = a.requirement.requirementVersion
  routeVersion : gate.routeSnapshotVersion = a.requirement.routeSnapshotVersion
  routeHash : gate.routeSnapshotHash = a.requirement.routeSnapshotHash
  decided : decision ∈ a.gateDecisions
  subject : decision.gateInstanceId = gate.id
  outcome : decision.outcome = .approved

structure Planned (texts : Texts) (a : Aggregate) : Prop where
  hash : a.requirement.requiredWorkItemSetHash = texts.requiredWorkItemSetHash (a.workItems.map WorkItem.id)
  version : a.requirement.requiredWorkItemSetVersion = a.workItems.length
  confirmed : a.requirement.state = .ready → ∃ gate decision, ConfirmedBy a gate decision
  assigned : ∀ row ∈ a.assignments, row.workItemId ∈ a.workItems.map WorkItem.id
  successions : ∀ workItemId, Succession (assignmentsOf a workItemId)

theorem Planned.kept (planned : Planned texts a) (kept : PlanKept a a') : Planned texts a' := by
  refine ⟨?_,?_,?_,?_,?_⟩
  · rw [kept.hash,kept.ids]
    exact planned.hash
  · have same := congrArg List.length kept.ids
    rw [List.length_map,List.length_map] at same
    rw [kept.version,same]
    exact planned.version
  · intro ready
    obtain ⟨before,current,version,routeVersion,routeHash⟩ := kept.ready ready
    obtain ⟨gate,decision,by_⟩ := planned.confirmed before
    obtain ⟨state,revision,there⟩ := kept.gates gate by_.present
    exact ⟨_,decision,there,current.trans by_.current,by_.version.trans version.symm,
      by_.routeVersion.trans routeVersion.symm,by_.routeHash.trans routeHash.symm,
      kept.decisions decision by_.decided,by_.subject,by_.outcome⟩
  · rw [kept.assignments,kept.ids]
    exact planned.assigned
  · unfold assignmentsOf
    rw [kept.assignments]
    exact planned.successions

theorem assignmentsOf_fresh (planned : Planned texts a) (fresh : a.workItemById workItemId = none) :
    assignmentsOf a workItemId = [] := by
  refine List.filter_eq_nil_iff.mpr fun row member => ?_
  obtain ⟨item,there,keyed⟩ := List.mem_map.mp (planned.assigned row member)
  have differs := KeyedRows.find_none fresh item there
  simpa using fun same => differs (keyed.trans same)

theorem initialAssignment_mem (member : row ∈ initialAssignment workItemId actor reason owner) :
    row.workItemId = workItemId := by
  cases owner with
  | none => cases member
  | some assignee =>
    cases List.mem_singleton.mp member
    rfl

theorem initialAssignment_succession (workItemId : Uuid) (actor reason : String) (owner : Option String) :
    Succession (initialAssignment workItemId actor reason owner) := by
  cases owner with
  | none => exact .nil
  | some assignee => exact .one rfl rfl

theorem initialAssignment_own : (initialAssignment workItemId actor reason owner).filter
    (fun row => row.workItemId = workItemId) = initialAssignment workItemId actor reason owner :=
  List.filter_eq_self.mpr fun row member => by simpa using initialAssignment_mem member

theorem initialAssignment_other (differs : workItemId ≠ other) :
    (initialAssignment workItemId actor reason owner).filter (fun row => row.workItemId = other) = [] :=
  List.filter_eq_nil_iff.mpr fun row member => by simpa [initialAssignment_mem member] using differs

theorem createRequirement_planned (made : createRequirement texts d new = .ok a) : Planned texts a := by
  unfold createRequirement at made
  simp only [bind_ok,orRaise_ok,pure_ok] at made
  obtain ⟨assigned,_,rfl⟩ := made
  refine ⟨rfl,rfl,fun ready => (by cases ready),?_,?_⟩
  · intro row member
    rw [initialAssignment_mem member]
    exact List.mem_singleton_self _
  · intro workItemId
    by_cases same : d.uuid4 1 = workItemId
    · subst same
      unfold assignmentsOf
      rw [initialAssignment_own]
      exact initialAssignment_succession _ _ _ _
    · unfold assignmentsOf
      rw [initialAssignment_other same]
      exact .nil

theorem addWorkItem_planned (planned : Planned texts a)
    (ran : addWorkItem texts d a repositoryId expectedRevision actor = .ok a') : Planned texts a' := by
  unfold addWorkItem at ran
  simp only [bind_ok,require_ok,orRaise_ok,pure_ok,exists_const] at ran
  obtain ⟨_,preparing,repository,_,capabilities,_,_,inserted,added,written,wrote,rfl⟩ := ran
  obtain ⟨⟨fresh,_⟩,rfl⟩ := Aggregate.insertWorkItem_ok.mp added
  obtain ⟨_,rfl⟩ := Aggregate.writeRequirement_ok.mp wrote
  refine ⟨rfl,?_,?_,?_,?_⟩
  · show a.requirement.requiredWorkItemSetVersion + 1 = (a.workItems ++ [_]).length
    rw [planned.version,List.length_append,List.length_singleton]
  · intro ready
    cases preparing.symm.trans ready
  · intro row member
    show row.workItemId ∈ (a.workItems ++ [_]).map WorkItem.id
    rw [List.map_append]
    rcases List.mem_append.mp member with old | new
    · exact List.mem_append_left _ (planned.assigned row old)
    · rw [initialAssignment_mem new]
      exact List.mem_append_right _ (List.mem_singleton_self _)
  · intro workItemId
    show Succession ((a.assignments ++ _).filter _)
    rw [List.filter_append]
    by_cases same : d.uuid4 0 = workItemId
    · subst same
      rw [initialAssignment_own]
      have none : a.assignments.filter (fun row => row.workItemId = d.uuid4 0) = [] :=
        assignmentsOf_fresh planned fresh
      rw [none,List.nil_append]
      exact initialAssignment_succession _ _ _ _
    · rw [initialAssignment_other same,List.append_nil]
      exact planned.successions workItemId

theorem Succession.empty_or_current (succession : Succession rows) :
    rows = [] ∧ rows.find? (fun row => row.supersededAt = none) = none ∨
      ∃ before last, rows = before ++ [last] ∧ rows.find? (fun row => row.supersededAt = none) = some last ∧
        last.supersededAt = none ∧ last.revision = rows.length ∧ ∀ row ∈ before, row.supersededAt ≠ none := by
  rcases List.eq_nil_or_concat rows with rfl | ⟨before,last,rfl⟩
  · exact .inl ⟨rfl,rfl⟩
  · rw [List.concat_eq_append] at succession ⊢
    have superseded := succession.superseded
    rw [List.dropLast_concat] at superseded
    have live := succession.current last List.getLast?_concat
    refine .inr ⟨before,last,rfl,?_,live,?_,superseded⟩
    · rw [List.find?_append,List.find?_eq_none.mpr fun row member => by simpa using superseded row member]
      simp [live]
    · have numbered := succession.revisions
      rw [List.map_append,List.length_append,List.length_singleton,List.range'_1_concat,List.map_singleton] at numbered
      have last_one := List.append_inj_right' numbered rfl
      rw [List.length_append,List.length_singleton,List.singleton_inj.mp last_one,Nat.add_comm]

-- The current assignment of an item, retired, and the one that takes its place.
theorem Succession.reassigned {a : Aggregate} {new : WorkItemAssignment}
    (succession : Succession (assignmentsOf a workItemId)) (own : new.workItemId = workItemId)
    (next : new.revision = (a.currentWorkItemAssignment workItemId).elim 1 fun row => row.revision + 1)
    (live : new.supersededAt = none) :
    Succession (((a.assignments.map fun row =>
      if some row = a.currentWorkItemAssignment workItemId then {row with supersededAt := some now} else row) ++
        [new]).filter fun row => row.workItemId = workItemId) := by
  have current : a.currentWorkItemAssignment workItemId =
      (assignmentsOf a workItemId).find? fun row => row.supersededAt = none := by
    unfold Aggregate.currentWorkItemAssignment assignmentsOf
    simp only [List.find?_filter,decide_eq_true_eq]
  have kept : (a.assignments.map fun row => if some row = a.currentWorkItemAssignment workItemId then
      {row with supersededAt := some now} else row).filter (fun row => row.workItemId = workItemId) =
      (assignmentsOf a workItemId).map fun row => if some row = a.currentWorkItemAssignment workItemId then
        {row with supersededAt := some now} else row := by
    unfold assignmentsOf
    rw [List.filter_map]
    congr 1
    refine List.filter_congr fun row _ => ?_
    dsimp only [Function.comp]
    split <;> rfl
  rw [List.filter_append,kept,show [new].filter (fun row => row.workItemId = workItemId) = [new] by simp [own]]
  rcases succession.empty_or_current with ⟨empty,unassigned⟩ | ⟨before,last,rows,found,alive,numbered,superseded⟩
  · rw [empty]
    rw [current,unassigned] at next
    exact .one next live
  · rw [current,found] at next ⊢
    refine .next ?_ ?_ ?_ live
    · rw [List.map_map,List.length_map,←succession.revisions]
      refine List.map_congr_left fun row _ => ?_
      dsimp only [Function.comp]
      split <;> rfl
    · rw [rows]
      refine List.forall_mem_map.mpr fun row member => ?_
      split
      · exact Option.some_ne_none now
      · rename_i differs
        rcases List.mem_append.mp member with old | new
        · exact superseded row old
        · exact absurd (congrArg some (List.mem_singleton.mp new)) differs
    · rw [List.length_map,next,Option.elim_some,numbered]

theorem Succession.elsewhere {a : Aggregate} {new : WorkItemAssignment} (differs : workItemId ≠ other)
    (own : new.workItemId = workItemId) (succession : Succession (assignmentsOf a other)) :
    Succession (((a.assignments.map fun row =>
      if some row = a.currentWorkItemAssignment workItemId then {row with supersededAt := some now} else row) ++
        [new]).filter fun row => row.workItemId = other) := by
  have kept : (a.assignments.map fun row => if some row = a.currentWorkItemAssignment workItemId then
      {row with supersededAt := some now} else row).filter (fun row => row.workItemId = other) =
      assignmentsOf a other := by
    unfold assignmentsOf
    rw [List.filter_map]
    have same : ((fun row : WorkItemAssignment => decide (row.workItemId = other)) ∘ fun row =>
        if some row = a.currentWorkItemAssignment workItemId then {row with supersededAt := some now} else row) =
        fun row => decide (row.workItemId = other) := by
      funext row
      dsimp only [Function.comp]
      split <;> rfl
    rw [same]
    refine (List.map_congr_left fun row member => ?_).trans (List.map_id _)
    have here : row.workItemId = other := by simpa using (List.mem_filter.mp member).2
    refine if_neg fun current => ?_
    have there := List.find?_some current.symm
    simp only [Bool.decide_and,Bool.and_eq_true,decide_eq_true_eq] at there
    exact differs (there.1.symm.trans here)
  rw [List.filter_append,kept,show [new].filter (fun row => row.workItemId = other) = [] by simp [own,differs],
    List.append_nil]
  exact succession

theorem assignWorkItem_planned (planned : Planned texts a)
    (ran : assignWorkItem d a workItemId humanOwnerId reason expectedRevision actor = .ok a') : Planned texts a' := by
  unfold assignWorkItem at ran
  simp only [bind_ok,require_ok,orRaise_ok,exists_const] at ran
  obtain ⟨preparing,row,found,_,_,candidateId,_,normalizedReason,_,eligible,_,_,_,assigned,wrote,ran⟩ := ran
  have kept := writeWorkItem_kept wrote fun _ => rfl
  obtain ⟨row',_,_,_,rfl⟩ := Aggregate.writeWorkItem_ok.mp wrote
  have there : workItemId ∈ a.workItems.map WorkItem.id :=
    List.mem_map.mpr ⟨row,(KeyedRows.find_some found)⟩
  suffices after : Planned texts {a.replaced workItemId _ with assignments := _} by
    split at ran
    · cases pure_ok.mp ran
      exact after.kept (.of_eq rfl rfl rfl rfl rfl)
    · cases pure_ok.mp ran
      exact after
  refine ⟨?_,?_,?_,?_,?_⟩
  · exact planned.hash.trans (congrArg texts.requiredWorkItemSetHash kept.ids.symm)
  · have same := congrArg List.length kept.ids
    rw [List.length_map,List.length_map] at same
    exact planned.version.trans same.symm
  · intro ready
    cases preparing.symm.trans ready
  · intro row member
    show row.workItemId ∈ (a.replaced workItemId _).workItems.map WorkItem.id
    rw [kept.ids]
    rcases List.mem_append.mp member with old | new
    · obtain ⟨before,present,rfl⟩ := List.mem_map.mp old
      have held := planned.assigned before present
      split <;> exact held
    · cases List.mem_singleton.mp new
      exact there
  · intro other
    by_cases same : workItemId = other
    · subst same
      exact (planned.successions workItemId).reassigned rfl rfl rfl
    · exact (planned.successions other).elsewhere same rfl

theorem decideBaseline_planned (planned : Planned texts a)
    (ran : decideBaseline d a gateId outcome reason expectedRevision actor = .ok a') : Planned texts a' := by
  unfold decideBaseline at ran
  simp only [bind_ok,require_ok,orRaise_ok,exists_const] at ran
  obtain ⟨_,gate,found,_,_,baseline,_,⟨current,_,_,_,_,_,_,version,routeVersion,routeHash⟩,assignment,_,_,guard,_,
    eligible,_,_,normalizedReason,_,target,moves,inserted,added,decided,closed,moved,updated,ran⟩ := ran
  obtain ⟨_,rfl⟩ := transitionRequirement_ok.mp moves
  obtain ⟨_,rfl⟩ := Aggregate.insertDecision_ok.mp added
  obtain ⟨gate',again,_,rfl⟩ := writeOpenGate_ok.mp closed
  cases found.symm.trans again
  obtain ⟨_,rfl⟩ := Aggregate.updateRequirementState_ok.mp updated
  refine Planned.kept ?_ (writeWorkItems_kept ran fun _ => rfl)
  refine ⟨planned.hash,planned.version,?_,planned.assigned,planned.successions⟩
  intro ready
  have approved : outcome = .approved := by
    have ready : decisionTarget outcome = .ready := ready
    cases outcome
    · rfl
    all_goals cases ready
  obtain ⟨present,keyed⟩ := KeyedRows.find_some found
  refine ⟨_,_,List.mem_map.mpr ⟨gate,present,if_pos keyed⟩,current,version,routeVersion,routeHash,
    List.mem_append_right _ (List.mem_singleton_self _),keyed.symm,approved⟩

theorem step_planned (consistent : Consistent a) (planned : Planned texts a) (step : Step texts a command a') :
    Planned texts a' := by
  obtain ⟨d,ran⟩ := step
  cases command with
  | addWorkItem => exact addWorkItem_planned planned ran
  | assignWorkItem => exact assignWorkItem_planned planned ran
  | decideBaseline => exact decideBaseline_planned planned ran
  | acknowledgeRepositoryBindingRequest => exact planned.kept (acknowledgeRepositoryBindingRequest_kept ran)
  | startRequirementPreparation => exact planned.kept (startRequirementPreparation_kept ran)
  | recordRepositoryBinding => exact planned.kept (recordRepositoryBinding_kept ran)
  | recordRepositoryBindingBlocked => exact planned.kept (recordRepositoryBindingBlocked_kept ran)
  | createSddArtifact => exact planned.kept (createSddArtifact_kept ran)
  | registerSddBaseline => exact planned.kept (registerSddBaseline_kept ran)
  | submitBaselineConfirmation => exact planned.kept (submitBaselineConfirmation_kept ran)
  | reassignBaselineGate => exact planned.kept (reassignBaselineGate_kept consistent ran)
  | startWorkItem => exact planned.kept (startWorkItem_kept ran)
  | requestDelivery => exact planned.kept (requestDelivery_kept ran)
  | recordIntegrationMrReady _ bindingId => exact planned.kept (TerminalOutcome.record_kept (.ready bindingId) ran)
  | recordIntegrationDeliveryBlocked _ bindingId reasonCode =>
    exact planned.kept (TerminalOutcome.record_kept (.blocked bindingId reasonCode) ran)
  | recordIntegrationReconciliationPending => exact planned.kept (recordCallback_kept ran)
  | recordIntegrationMerged _ bindingId => exact planned.kept (TerminalOutcome.record_kept (.merged bindingId) ran)
  | recordExternalMergeDrift _ bindingId =>
    exact planned.kept (TerminalOutcome.record_kept (.externalMergeDrift bindingId) ran)
  | submitExternalValidation => exact planned.kept (submitExternalValidation_kept ran)
  | requestIntegrationBaseline => exact planned.kept (requestIntegrationBaseline_kept ran)
  | selectIntegrationBaseline => exact planned.kept (selectIntegrationBaseline_kept ran)
  | confirmRequirementAcceptance => exact planned.kept (confirmRequirementAcceptance_kept ran)
  | decideRequirementAcceptance => exact planned.kept (decideRequirementAcceptance_kept ran)
  | requestFormalDelivery => exact planned.kept (requestFormalDelivery_kept ran)
  | recordFormalReconciliationPending => exact planned.kept (recordFormalReconciliationPending_kept ran)
  | recordFormalDeliveryBlocked => exact planned.kept (recordFormalDeliveryBlocked_kept ran)
  | recordFormalMrReady => exact planned.kept (recordFormalMrReady_kept consistent ran)
  | recordFormalMerged => exact planned.kept (recordFormalMerged_kept ran)
  | decideFormalReview => exact planned.kept (decideFormalReview_kept ran)
  | reassignDeliveryGate => exact planned.kept (reassignDeliveryGate_kept ran)

theorem reached_planned (reached : Reached texts a) : Planned texts a := by
  obtain ⟨d,new,created,made,runs⟩ := reached
  have first : Reached texts created := ⟨d,new,created,made,.here⟩
  induction runs with
  | here => exact createRequirement_planned made
  | step before step ih => exact step_planned (reached_consistent (first.runs before)) ih step

-- The digest is of the ids, in whatever order they are read.
theorem requiredWorkItemSetHash_perm (texts : Texts) {one two : List Uuid} (same : one.Perm two) :
    texts.requiredWorkItemSetHash one = texts.requiredWorkItemSetHash two := by
  unfold Texts.requiredWorkItemSetHash
  have sorted := ((List.perm_insertionSort (· ≤ ·) one).trans same).trans (List.perm_insertionSort (· ≤ ·) two).symm
  rw [sorted.eq_of_pairwise' (List.pairwise_insertionSort (· ≤ ·) one) (List.pairwise_insertionSort (· ≤ ·) two)]

theorem planning_invariant (reached : Reached texts a) :
    (∀ workItemIds, workItemIds.Perm (a.workItems.map WorkItem.id) →
      texts.requiredWorkItemSetHash workItemIds = a.requirement.requiredWorkItemSetHash ∧
        validateCurrentDeliverySet texts workItemIds a.requirement.requiredWorkItemSetHash = .ok ()) ∧
    a.requirement.requiredWorkItemSetVersion = a.workItems.length ∧
    (a.requirement.state = .ready → ∃ gate decision, ConfirmedBy a gate decision) ∧
    (∀ one ∈ a.gates, ∀ two ∈ a.gates, one.sddBaselineId = two.sddBaselineId → one = two) ∧
    ∀ workItemId, ((assignmentsOf a workItemId).filter fun row => row.supersededAt = none).length ≤ 1 ∧
      (assignmentsOf a workItemId).map WorkItemAssignment.revision =
        List.range' 1 (assignmentsOf a workItemId).length := by
  have consistent := reached_consistent reached
  have planned := reached_planned reached
  refine ⟨?_,planned.version,planned.confirmed,?_,?_⟩
  · intro workItemIds same
    have stored := (requiredWorkItemSetHash_perm texts same).trans planned.hash.symm
    exact ⟨stored,require_ok.mpr stored⟩
  · intro one first two second same
    have left := KeyedRows.find_of_mem consistent.confirming.single first
    have right := KeyedRows.find_of_mem consistent.confirming.single second
    rw [same] at left
    exact Option.some.inj (left.symm.trans right)
  · intro workItemId
    have succession := planned.successions workItemId
    exact ⟨succession.at_most_one,succession.revisions⟩

theorem planning_invariant_planned : ∃ a, Reached Rehearsal.texts a ∧ a.requirement.state = .ready ∧
    ∃ gate decision, ConfirmedBy a gate decision := by
  obtain ⟨a,reached,ready⟩ := Rehearsal.rehearsed
    Rehearsal.planned (fun a => a.requirement.state = .ready) (by decide +kernel)
  have ready : a.requirement.state = .ready := by simpa using ready
  exact ⟨a,reached,ready,(planning_invariant reached).2.2.1 ready⟩

end EngineeringPlatform.Requirement
