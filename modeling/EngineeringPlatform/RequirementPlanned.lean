import EngineeringPlatform.RequirementInvariant
-- The commands that plan a requirement keep it consistent.
namespace EngineeringPlatform.Requirement
open Checked

theorem transitionRequirement_ok :
    transitionRequirement current target = .ok state ↔ target ∈ firstBatchTransitions current ∧ target = state := by
  unfold transitionRequirement
  split <;> simp_all

theorem Consistent.unmerged (consistent : Consistent a) (planning : a.requirement.state.planning = true) :
    ∀ row ∈ a.workItems, row.Settled := by
  intro row member
  refine consistent.phased.idle (fun merging => ?_) member
  rw [merging] at planning
  cases planning

theorem Consistent.moved (consistent : Consistent a) (planning : a.requirement.state.planning = true)
    (plans : state.planning = true)
    (stays : a.requirement.state = .preparing ∨ a.requirement.state = .awaitingConfirmation →
      state = .preparing ∨ state = .awaitingConfirmation) : Consistent (a.moved state) := by
  have quiet : Quiet a (a.moved state) := .of_eq rfl rfl rfl rfl rfl rfl rfl
  have before := RequirementState.planning_unselected planning
  have after := RequirementState.planning_unselected plans
  refine ⟨consistent.rows,?_,consistent.confirming.moved stays,?_,consistent.requested⟩
  · refine Phased.of_settled (consistent.unmerged planning) ?_ (fun _ => consistent.phased.planned planning) ?_
    · rintro rfl
      cases plans
    · intro selected
      cases after.symm.trans selected
  · refine consistent.evident.quiet quiet (after.trans before.symm) ?_ fun integrated => integrated
    intro accepted
    cases after.symm.trans (RequirementState.accepted_selected accepted)

theorem acknowledgeRepositoryBindingRequest_consistent (consistent : Consistent a)
    (ran : acknowledgeRepositoryBindingRequest a messageId = .ok a') : Consistent a' := by
  unfold acknowledgeRepositoryBindingRequest at ran
  rw [require_bind_ok] at ran
  obtain ⟨_,ran⟩ := ran
  split at ran
  · rename_i created
    obtain ⟨_,rfl⟩ := Aggregate.updateRequirementState_ok.mp ran
    exact consistent.moved (by rw [created]; rfl) rfl fun _ => .inl rfl
  · cases pure_ok.mp ran
    exact consistent

theorem startRequirementPreparation_consistent (consistent : Consistent a)
    (ran : startRequirementPreparation a expectedRevision = .ok a') : Consistent a' := by
  unfold startRequirementPreparation at ran
  rw [require_bind_ok,require_bind_ok,bind_ok] at ran
  obtain ⟨_,_,target,moves,ran⟩ := ran
  obtain ⟨allowed,rfl⟩ := transitionRequirement_ok.mp moves
  obtain ⟨_,rfl⟩ := Aggregate.updateRequirementState_ok.mp ran
  refine consistent.moved ?_ rfl fun _ => .inl rfl
  revert allowed
  cases a.requirement.state <;> simp [firstBatchTransitions,RequirementState.planning]

theorem createSddArtifact_consistent (consistent : Consistent a)
    (ran : createSddArtifact a expectedRevision = .ok a') : Consistent a' := by
  unfold createSddArtifact at ran
  rw [require_bind_ok,require_bind_ok] at ran
  obtain ⟨_,preparing,ran⟩ := ran
  obtain ⟨_,rfl⟩ := Aggregate.updateRequirementState_ok.mp ran
  exact consistent.moved (by rw [preparing]; rfl) rfl fun _ => .inl rfl

theorem registerSddBaseline_consistent (consistent : Consistent a)
    (ran : registerSddBaseline d a artifactId artifactVersion expectedRevision actor = .ok a') : Consistent a' := by
  unfold registerSddBaseline at ran
  simp only [bind_ok,require_ok,orRaise_ok,exists_const] at ran
  obtain ⟨_,preparing,_,artifacts,_,_,_,_,_,snapshot,_,_,ran⟩ := ran
  split at ran
  · simp only [bind_ok,require_ok,pure_ok,exists_const] at ran
    obtain ⟨_,_,rfl⟩ := ran
    exact consistent
  · obtain ⟨_,rfl⟩ := Aggregate.writeRequirement_ok.mp ran
    exact ⟨consistent.rows,consistent.phased,
      ⟨consistent.confirming.unique,consistent.confirming.single,fun _ _ _ _ => .inl preparing⟩,
      consistent.evident.quiet (.of_eq rfl rfl rfl rfl rfl rfl rfl) rfl (fun accepted => accepted)
        fun integrated => integrated,
      consistent.requested⟩

theorem submitBaselineConfirmation_consistent (consistent : Consistent a)
    (ran : submitBaselineConfirmation d a sddBaselineId expectedRevision = .ok a') : Consistent a' := by
  unfold submitBaselineConfirmation at ran
  simp only [bind_ok,require_ok,orRaise_ok,exists_const] at ran
  obtain ⟨_,baseline,_,_,_,ungated,target,moves,_,_,policy,_,_,fresh,ran⟩ := ran
  obtain ⟨allowed,rfl⟩ := transitionRequirement_ok.mp moves
  obtain ⟨_,rfl⟩ := Aggregate.updateRequirementState_ok.mp ran
  have preparing : a.requirement.state = .preparing := by
    revert allowed
    cases a.requirement.state <;> simp [firstBatchTransitions]
  have moved : Consistent (a.moved .awaitingConfirmation) :=
    consistent.moved (by rw [preparing]; rfl) rfl fun _ => .inr rfl
  exact ⟨moved.rows,moved.phased,
    ⟨KeyedRows.unique_insert consistent.confirming.unique fresh,
      KeyedRows.unique_insert consistent.confirming.single ungated,fun _ _ _ _ => .inr rfl⟩,
    moved.evident.quiet (.of_eq rfl rfl rfl rfl rfl rfl rfl) rfl (fun accepted => accepted)
      fun integrated => integrated,
    moved.requested⟩

theorem writeOpenGate_ok {id : Uuid} {change : GateInstance → GateInstance} :
    writeOpenGate a id expectedRevision change missing = .ok a' ↔
      ∃ row, a.gateById id = some row ∧ (row.revision = expectedRevision ∧ row.state = .opened) ∧
        {a with
          gates := KeyedRows.update GateInstance.id a.gates id fun _ =>
            {change row with revision := row.revision + 1}} = a' := by
  unfold writeOpenGate
  simp only [bind_ok,require_ok,orRaise_ok,pure_ok,exists_const]

theorem reassignBaselineGate_consistent (consistent : Consistent a)
    (ran : reassignBaselineGate d a gateId reviewerId reason expectedGateRevision actor = .ok a') : Consistent a' := by
  unfold reassignBaselineGate at ran
  simp only [bind_ok,require_ok,orRaise_ok,exists_const] at ran
  obtain ⟨gate,_,_,_,_,current,_,_,candidateId,_,_,_,_,guard,_,_,_,_,ran⟩ := ran
  obtain ⟨row,found,_,rfl⟩ := writeOpenGate_ok.mp ran
  obtain ⟨present,keyed⟩ := KeyedRows.find_some found
  refine ⟨consistent.rows,consistent.phased,⟨KeyedRows.unique_replace keyed consistent.confirming.unique,
    KeyedRows.unique_replace_other consistent.confirming.unique found rfl consistent.confirming.single,?_⟩,
    consistent.evident.quiet (.of_eq rfl rfl rfl rfl rfl rfl rfl) rfl (fun accepted => accepted)
      fun integrated => integrated,consistent.requested⟩
  intro gate' member opened named
  rcases KeyedRows.mem_replace consistent.confirming.unique found member with ⟨old,_⟩ | rfl
  · exact consistent.confirming.current gate' old opened named
  · exact consistent.confirming.current row present opened named

-- One row that has not started changes nothing of its delivery.
theorem Consistent.replanned {old new : WorkItem} (consistent : Consistent a)
    (found : a.workItemById workItemId = some old) (unstarted : old.integrationDeliveryState = .notStarted)
    (keyed : new.id = old.id) (checked : new.Checks) (integration : new.integrationDeliveryState = .notStarted)
    (formal : new.formalDeliveryState = old.formalDeliveryState)
    (blocked : new.formalBlockedReasonCode = old.formalBlockedReasonCode) :
    Consistent (a.replaced workItemId new) := by
  obtain ⟨present,here⟩ := KeyedRows.find_some found
  have unselected : a.requirement.state.selected = false := by
    cases selected : a.requirement.state.selected with
    | false => rfl
    | true => cases unstarted.symm.trans (consistent.phased.selected selected old present)
  have elsewhere : a.requirement.state ≠ .awaitingMerge := by
    intro merging
    rw [merging] at unselected
    cases unselected
  have member : ∀ row ∈ (a.replaced workItemId new).workItems, row ∈ a.workItems ∨ row = new := by
    intro row there
    rcases mem_replaced consistent.rows found there with ⟨kept,_⟩ | rfl
    · exact .inl kept
    · exact .inr rfl
  have settled : ∀ row ∈ (a.replaced workItemId new).workItems, row.Settled := by
    intro row there
    rcases member row there with kept | rfl
    · exact consistent.phased.idle elsewhere kept
    · have before := consistent.phased.idle elsewhere present
      unfold WorkItem.Settled Aggregate.invalidationBlock at before ⊢
      rw [formal,blocked]
      exact before
  refine ⟨consistent.rows.replaced (keyed.trans here) checked fun started => absurd integration started,?_,
    consistent.confirming,?_,Requested.none fun row there => (settled row there).1⟩
  · refine Phased.of_settled settled ?_ ?_ ?_
    · intro done
      have selected : a.requirement.state.selected = false := unselected
      have completed : a.requirement.state = .completed := done
      rw [completed] at selected
      cases selected
    · intro planning row there
      rcases member row there with kept | rfl
      · exact consistent.phased.planned planning row kept
      · exact integration
    · intro selected
      cases unselected.symm.trans selected
  · refine consistent.evident.quiet (.of_eq rfl rfl rfl rfl rfl rfl rfl) rfl (fun accepted => accepted) ?_
    intro integrated
    cases unstarted.symm.trans (integrated old present)

theorem Consistent.planned_write {change : WorkItem → WorkItem} (consistent : Consistent a)
    (found : a.workItemById workItemId = some row) (unstarted : row.integrationDeliveryState = .notStarted)
    (wrote : a.writeWorkItem workItemId expectedRevision chosen change missing = .ok a')
    (keeps : ∀ row, (change row).id = row.id ∧ (change row).integrationDeliveryState = row.integrationDeliveryState ∧
      (change row).formalDeliveryState = row.formalDeliveryState ∧
      (change row).formalBlockedReasonCode = row.formalBlockedReasonCode) : Consistent a' := by
  obtain ⟨row',found',_,checked,rfl⟩ := Aggregate.writeWorkItem_ok.mp wrote
  cases found.symm.trans found'
  obtain ⟨keyed,integration,formal,blocked⟩ := keeps row
  exact consistent.replanned found unstarted keyed checked (integration.trans unstarted) formal blocked

theorem Consistent.unbound (consistent : Consistent a) (found : a.workItemById workItemId = some row)
    (unbound : row.repositoryState ≠ .bound) : row.integrationDeliveryState = .notStarted := by
  by_contra started
  exact unbound (consistent.rows.started row (KeyedRows.find_some found).1 started)

theorem recordRepositoryBinding_consistent (consistent : Consistent a)
    (ran : recordRepositoryBinding a workItemId repositoryId baseCommitSha taskBranch expectedRevision = .ok a') :
    Consistent a' := by
  unfold recordRepositoryBinding at ran
  simp only [bind_ok,require_ok,orRaise_ok,exists_const] at ran
  obtain ⟨row,found,_,sha,_,branch,_,ran⟩ := ran
  split at ran
  · simp only [bind_ok,require_ok,pure_ok,exists_const] at ran
    obtain ⟨_,rfl⟩ := ran
    exact consistent
  · rename_i unbound
    simp only [bind_ok,require_ok,exists_const] at ran
    obtain ⟨_,ran⟩ := ran
    exact consistent.planned_write found (consistent.unbound found unbound) ran fun _ => ⟨rfl,rfl,rfl,rfl⟩

theorem recordRepositoryBindingBlocked_consistent (consistent : Consistent a)
    (ran : recordRepositoryBindingBlocked d a workItemId repositoryId reasonCode expectedRevision = .ok a') :
    Consistent a' := by
  unfold recordRepositoryBindingBlocked at ran
  simp only [bind_ok,require_ok,orRaise_ok,exists_const] at ran
  obtain ⟨row,found,_,unbound,ran⟩ := ran
  split at ran
  · cases pure_ok.mp ran
    exact consistent
  · simp only [bind_ok,require_ok,exists_const] at ran
    obtain ⟨_,ran⟩ := ran
    exact consistent.planned_write found (consistent.unbound found unbound) ran fun _ => ⟨rfl,rfl,rfl,rfl⟩

theorem assignWorkItem_consistent (consistent : Consistent a)
    (ran : assignWorkItem d a workItemId humanOwnerId reason expectedRevision actor = .ok a') : Consistent a' := by
  unfold assignWorkItem at ran
  simp only [bind_ok,require_ok,orRaise_ok,exists_const] at ran
  obtain ⟨_,row,found,_,unstarted,candidateId,_,_,_,eligible,_,_,_,assigned,wrote,ran⟩ := ran
  have replanned := consistent.planned_write found unstarted wrote fun _ => ⟨rfl,rfl,rfl,rfl⟩
  split at ran
  · cases pure_ok.mp ran
    exact replanned.frame rfl rfl rfl rfl rfl rfl rfl fun _ => latestFormalRequest_other rfl
  · cases pure_ok.mp ran
    exact replanned.frame rfl rfl rfl rfl rfl rfl rfl fun _ => rfl

theorem addWorkItem_consistent (consistent : Consistent a)
    (ran : addWorkItem texts d a repositoryId expectedRevision actor = .ok a') : Consistent a' := by
  unfold addWorkItem at ran
  simp only [bind_ok,require_ok,orRaise_ok,pure_ok,exists_const] at ran
  obtain ⟨_,preparing,repository,_,capabilities,_,_,inserted,added,planned,wrote,rfl⟩ := ran
  obtain ⟨⟨fresh,checked⟩,rfl⟩ := Aggregate.insertWorkItem_ok.mp added
  obtain ⟨_,rfl⟩ := Aggregate.writeRequirement_ok.mp wrote
  have planning : a.requirement.state.planning = true := by rw [preparing]; rfl
  have unselected := RequirementState.planning_unselected planning
  refine ⟨⟨KeyedRows.unique_insert consistent.rows.unique fresh,?_,?_⟩,?_,
    ⟨consistent.confirming.unique,consistent.confirming.single,fun _ _ _ _ => .inl preparing⟩,?_,?_⟩
  · intro row member
    rcases List.mem_append.mp member with old | new
    · exact consistent.rows.checked row old
    · cases List.mem_singleton.mp new
      exact checked
  · intro row member
    rcases List.mem_append.mp member with old | new
    · exact consistent.rows.started row old
    · cases List.mem_singleton.mp new
      exact fun started => absurd rfl started
  · refine Phased.of_settled ?_ ?_ ?_ ?_
    · intro row member
      rcases List.mem_append.mp member with old | new
      · exact consistent.unmerged planning row old
      · cases List.mem_singleton.mp new
        exact ⟨rfl,rfl⟩
    · intro done
      cases preparing.symm.trans done
    · intro _ row member
      rcases List.mem_append.mp member with old | new
      · exact consistent.phased.planned planning row old
      · cases List.mem_singleton.mp new
        rfl
    · intro selected
      cases unselected.symm.trans selected
  · refine Evident.unselected consistent.evident.unique (consistent.evident.dead unselected) unselected
      consistent.evident.gate ?_
    intro snapshot member
    have most := (consistent.evident.snapshots snapshot member).1
    exact ⟨Nat.le_succ_of_le most,fun same => absurd same (Nat.ne_of_lt (Nat.lt_succ_of_le most))⟩
  · refine Requested.none ?_
    intro row member
    rcases List.mem_append.mp member with old | new
    · exact (consistent.unmerged planning row old).1
    · cases List.mem_singleton.mp new
      rfl

theorem decisionTarget_planning (outcome : DecisionOutcome) : (decisionTarget outcome).planning = true := by
  cases outcome <;> rfl

-- A gate that is decided is of the plan the requirement stands by.
theorem decideBaseline_consistent (consistent : Consistent a)
    (ran : decideBaseline d a gateId outcome reason expectedRevision actor = .ok a') : Consistent a' := by
  unfold decideBaseline at ran
  simp only [bind_ok,require_ok,orRaise_ok,exists_const] at ran
  obtain ⟨_,gate,found,opened,_,baseline,_,⟨current,_⟩,assignment,_,_,guard,_,eligible,_,_,_,_,target,moves,
    inserted,added,decided,closed,moved,updated,ran⟩ := ran
  obtain ⟨_,rfl⟩ := Aggregate.insertDecision_ok.mp added
  obtain ⟨_,rfl⟩ := transitionRequirement_ok.mp moves
  obtain ⟨row,again,_,rfl⟩ := writeOpenGate_ok.mp closed
  cases found.symm.trans again
  obtain ⟨_,rfl⟩ := Aggregate.updateRequirementState_ok.mp updated
  obtain ⟨checked,rfl⟩ := Aggregate.writeWorkItems_ok.mp ran
  obtain ⟨present,keyed⟩ := KeyedRows.find_some found
  have planning : a.requirement.state.planning = true := by
    rcases consistent.confirming.current gate present opened current with state | state <;> rw [state] <;> rfl
  have unselected := RequirementState.planning_unselected planning
  have after := decisionTarget_planning outcome
  have later := RequirementState.planning_unselected after
  refine ⟨consistent.rows.mapped (fun _ => rfl) checked ?_,?_,⟨KeyedRows.unique_replace keyed
    consistent.confirming.unique,KeyedRows.unique_replace_other consistent.confirming.unique found rfl
    consistent.confirming.single,?_⟩,?_,?_⟩
  · intro row member _ started
    exact consistent.rows.started row member started
  · refine Phased.of_settled ?_ ?_ ?_ ?_
    · intro row member
      obtain ⟨old,there,rfl | ⟨_,rfl⟩⟩ := mem_writtenIf member
      · exact consistent.unmerged planning row there
      · exact consistent.unmerged planning old there
    · intro done
      rw [show decisionTarget outcome = .completed from done] at after
      cases after
    · intro _ row member
      obtain ⟨old,there,rfl | ⟨_,rfl⟩⟩ := mem_writtenIf member
      · exact consistent.phased.planned planning row there
      · exact consistent.phased.planned planning old there
    · intro selected
      cases later.symm.trans selected
  · intro gate' member opened' named
    rcases KeyedRows.mem_replace consistent.confirming.unique found member with ⟨old,differs⟩ | rfl
    · have same : gate'.sddBaselineId = gate.sddBaselineId := Option.some.inj (named.symm.trans current)
      have one : KeyedRows.find GateInstance.sddBaselineId a.gates gate'.sddBaselineId = some gate' :=
        KeyedRows.find_of_mem consistent.confirming.single old
      have two := KeyedRows.find_of_mem consistent.confirming.single present
      rw [same] at one
      cases one.symm.trans two
      exact absurd keyed differs
    · cases opened'
  · refine consistent.evident.quiet (.of_eq rfl rfl rfl rfl rfl rfl rfl) (later.trans unselected.symm) ?_ ?_
    · intro accepted
      cases later.symm.trans (RequirementState.accepted_selected accepted)
    · intro integrated row member
      obtain ⟨old,there,rfl | ⟨_,rfl⟩⟩ := mem_writtenIf member
      · exact integrated row there
      · exact integrated old there
  · refine Requested.none ?_
    intro row member
    obtain ⟨old,there,rfl | ⟨_,rfl⟩⟩ := mem_writtenIf member
    · exact (consistent.unmerged planning row there).1
    · exact (consistent.unmerged planning old there).1

end EngineeringPlatform.Requirement
