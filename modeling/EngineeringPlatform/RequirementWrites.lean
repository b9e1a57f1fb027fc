import EngineeringPlatform.RequirementRepository
-- What each write of the repository needs and leaves, read off its result.
namespace EngineeringPlatform.Requirement
open Checked

-- The row a write leaves in place of the one it found.
def WorkItem.written (row : WorkItem) (change : WorkItem → WorkItem) : WorkItem :=
  {change row with revision := row.revision + 1}

def WorkItem.writtenIf (chosen : WorkItem → Bool) (change : WorkItem → WorkItem) (row : WorkItem) : WorkItem :=
  if chosen row then row.written change else row

theorem mem_writtenIf {items : List WorkItem} (member : row ∈ items.map (WorkItem.writtenIf chosen change)) :
    ∃ old ∈ items, row = old ∨ chosen old = true ∧ row = old.written change := by
  obtain ⟨old,present,rfl⟩ := List.mem_map.mp member
  refine ⟨old,present,?_⟩
  unfold WorkItem.writtenIf
  split
  · rename_i taken
    exact .inr ⟨taken,rfl⟩
  · exact .inl rfl

namespace Aggregate

def replaced (a : Aggregate) (id : Uuid) (row : WorkItem) : Aggregate :=
  {a with workItems := KeyedRows.update WorkItem.id a.workItems id fun _ => row}

theorem writeRequirement_ok {chosen : RequirementRow → Bool} {change : RequirementRow → RequirementRow} :
    writeRequirement a expectedRevision chosen change missing = .ok a' ↔
      (a.requirement.revision = expectedRevision ∧ chosen a.requirement = true) ∧
      {a with requirement := {change a.requirement with revision := a.requirement.revision + 1}} = a' := by
  unfold writeRequirement
  rw [require_bind_ok,pure_ok]

def moved (a : Aggregate) (state : RequirementState) : Aggregate :=
  {a with requirement := {a.requirement with state, revision := a.requirement.revision + 1}}

theorem updateRequirementState_ok :
    updateRequirementState a expectedRevision state missing = .ok a' ↔
      a.requirement.revision = expectedRevision ∧ a.moved state = a' := by
  unfold updateRequirementState
  rw [writeRequirement_ok]
  exact and_congr_left fun _ => and_iff_left rfl

theorem touchRequirement_ok :
    touchRequirement a expectedRevision missing = .ok a' ↔
      a.requirement.revision = expectedRevision ∧ a.moved a.requirement.state = a' := by
  unfold touchRequirement
  rw [writeRequirement_ok]
  exact and_congr_left fun _ => and_iff_left rfl

theorem writeWorkItem_ok {id : Uuid} {chosen : WorkItem → Bool} {change : WorkItem → WorkItem} :
    writeWorkItem a id expectedRevision chosen change missing = .ok a' ↔
      ∃ row, a.workItemById id = some row ∧ (row.revision = expectedRevision ∧ chosen row = true) ∧
        (row.written change).Checks ∧ a.replaced id (row.written change) = a' := by
  unfold writeWorkItem
  rw [orRaise_bind_ok]
  refine exists_congr fun row => and_congr_right fun _ => ?_
  rw [require_bind_ok,require_bind_ok,pure_ok]
  rfl

theorem writeWorkItems_ok {chosen : WorkItem → Bool} {change : WorkItem → WorkItem} :
    writeWorkItems a chosen change = .ok a' ↔
      (∀ row ∈ a.workItems, (row.writtenIf chosen change).Checks) ∧
      {a with workItems := a.workItems.map (WorkItem.writtenIf chosen change)} = a' := by
  unfold writeWorkItems
  rw [require_bind_ok,pure_ok]
  refine and_congr ?_ Iff.rfl
  exact List.forall_mem_map

theorem insertWorkItem_ok :
    insertWorkItem a row = .ok a' ↔
      (a.workItemById row.id = none ∧ row.Checks) ∧ {a with workItems := a.workItems ++ [row]} = a' := by
  unfold insertWorkItem
  rw [require_bind_ok,pure_ok]

theorem insertDeliverySnapshot_ok :
    insertDeliverySnapshot a row missing = .ok a' ↔
      a.deliverySnapshotById row.id = none ∧ (∀ other ∈ a.snapshots, other.snapshotHash ≠ row.snapshotHash) ∧
      {a with snapshots := a.snapshots ++ [row]} = a' := by
  unfold insertDeliverySnapshot
  rw [require_bind_ok,require_bind_ok,pure_ok]

theorem insertIntegrationBaselineSelection_ok :
    insertIntegrationBaselineSelection a row = .ok a' ↔
      a.selectionById row.id = none ∧ (∀ other ∈ a.selections, other.invalidatedAt ≠ none) ∧
      (∀ other ∈ a.selections, other.requirementVersionAfter ≠ row.requirementVersionAfter ∧
        (other.integrationBaselineId,other.integrationBaselineHash) ≠
          (row.integrationBaselineId,row.integrationBaselineHash)) ∧
      {a with selections := a.selections ++ [row]} = a' := by
  unfold insertIntegrationBaselineSelection
  rw [require_bind_ok,require_bind_ok,require_bind_ok,pure_ok]

theorem insertDeliveryGate_ok :
    insertDeliveryGate a row = .ok a' ↔
      a.deliveryGateById row.id = none ∧
      (∀ other ∈ a.deliveryGates, other.gateType = row.gateType → other.selectionId = row.selectionId →
        row.gateType = .formalMrReview ∧ other.formalMergeRequestBindingId ≠ row.formalMergeRequestBindingId) ∧
      {a with deliveryGates := a.deliveryGates ++ [row]} = a' := by
  unfold insertDeliveryGate
  rw [require_bind_ok,require_bind_ok,pure_ok]

theorem insertDeliveryDecision_ok :
    insertDeliveryDecision a row = .ok a' ↔
      a.deliveryDecisionByGate row.gateId = none ∧ {a with decisions := a.decisions ++ [row]} = a' := by
  unfold insertDeliveryDecision
  rw [require_bind_ok,pure_ok]

theorem insertDecision_ok :
    insertDecision a row = .ok a' ↔
      a.decisionByGateId row.gateInstanceId = none ∧ {a with gateDecisions := a.gateDecisions ++ [row]} = a' := by
  unfold insertDecision
  rw [require_bind_ok,pure_ok]

theorem writeOpenDeliveryGate_ok {id : Uuid} {change : DeliveryGate → DeliveryGate} :
    writeOpenDeliveryGate a id expectedRevision change missing = .ok a' ↔
      ∃ row, a.deliveryGateById id = some row ∧ (row.state = .opened ∧ row.revision = expectedRevision) ∧
        {a with
          deliveryGates := KeyedRows.update DeliveryGate.id a.deliveryGates id fun _ =>
            {change row with revision := row.revision + 1}} = a' := by
  unfold writeOpenDeliveryGate
  rw [orRaise_bind_ok]
  refine exists_congr fun row => and_congr_right fun _ => ?_
  rw [require_bind_ok,pure_ok]

-- UPDATE … WHERE … with no row chosen is what the two bulk reopens refuse.
theorem reopenIntegratedWorkItemsForRework_ok :
    reopenIntegratedWorkItemsForRework a now missing = .ok a' ↔
      a.writeWorkItems (fun row => row.integrationDeliveryState = .integrated ∧ row.formalDeliveryState ≠ .merged)
        (reworked now) = .ok a' ∧
      ∃ row ∈ a.workItems, row.integrationDeliveryState = .integrated ∧ row.formalDeliveryState ≠ .merged := by
  unfold reopenIntegratedWorkItemsForRework
  rw [bind_ok]
  simp only [require_bind_ok,pure_ok,List.any_eq_true,decide_eq_true_iff]
  constructor
  · rintro ⟨reopened,wrote,some,rfl⟩
    exact ⟨wrote,some⟩
  · rintro ⟨wrote,some⟩
    exact ⟨a',wrote,some,rfl⟩

theorem reopenFormalInvalidationBlocksForRework_ok :
    reopenFormalInvalidationBlocksForRework a now missing = .ok a' ↔
      a.writeWorkItems invalidationBlock (reworked now) = .ok a' ∧
      ∃ row ∈ a.workItems, invalidationBlock row = true := by
  unfold reopenFormalInvalidationBlocksForRework
  rw [bind_ok]
  simp only [require_bind_ok,pure_ok,List.any_eq_true]
  constructor
  · rintro ⟨reopened,wrote,some,rfl⟩
    exact ⟨wrote,some⟩
  · rintro ⟨wrote,some⟩
    exact ⟨a',wrote,some,rfl⟩

end Aggregate
end EngineeringPlatform.Requirement
