import EngineeringPlatform.RequirementDomain
import EngineeringPlatform.KeyedRows
import EngineeringPlatform.RankedRows
namespace EngineeringPlatform.Requirement
open Checked

-- The rows that belong to one requirement, table by table. Rows are in the
-- order they were inserted.
structure Aggregate where
  requirement : RequirementRow
  workItems : List WorkItem
  assignments : List WorkItemAssignment
  baselines : List SddBaseline
  gates : List GateInstance
  gateAssignments : List GateAssignment
  gateDecisions : List GateDecision
  snapshots : List DeliverySnapshot
  selections : List IntegrationBaselineSelection
  deliveryGates : List DeliveryGate
  deliveryAssignments : List DeliveryGateAssignment
  decisions : List DeliveryDecision
  outbox : List OutboxMessage
  deriving DecidableEq

namespace Aggregate

def workItemById (a : Aggregate) (id : Uuid) : Option WorkItem := KeyedRows.find WorkItem.id a.workItems id

def deliverySnapshotById (a : Aggregate) (id : Uuid) : Option DeliverySnapshot :=
  KeyedRows.find DeliverySnapshot.id a.snapshots id

def selectionById (a : Aggregate) (id : Uuid) : Option IntegrationBaselineSelection :=
  KeyedRows.find IntegrationBaselineSelection.id a.selections id

def deliveryGateById (a : Aggregate) (id : Uuid) : Option DeliveryGate :=
  KeyedRows.find DeliveryGate.id a.deliveryGates id

def deliveryDecisionByGate (a : Aggregate) (gateId : Uuid) : Option DeliveryDecision :=
  KeyedRows.find DeliveryDecision.gateId a.decisions gateId

def currentDeliveryGateAssignment (a : Aggregate) (gateId : Uuid) : Option DeliveryGateAssignment :=
  a.deliveryAssignments.find? fun row => row.gateId = gateId ∧ row.supersededAt = none

def sddBaselineById (a : Aggregate) (id : Uuid) : Option SddBaseline := KeyedRows.find SddBaseline.id a.baselines id

def sddBaselineByArtifact (a : Aggregate) (artifactId artifactVersion : String) : Option SddBaseline :=
  a.baselines.find? fun row => row.artifactId = artifactId ∧ row.artifactVersion = artifactVersion

def gateById (a : Aggregate) (id : Uuid) : Option GateInstance := KeyedRows.find GateInstance.id a.gates id

def gateByBaselineId (a : Aggregate) (baselineId : Uuid) : Option GateInstance :=
  a.gates.find? fun row => row.sddBaselineId = baselineId

def decisionByGateId (a : Aggregate) (gateId : Uuid) : Option GateDecision :=
  KeyedRows.find GateDecision.gateInstanceId a.gateDecisions gateId

def currentGateAssignment (a : Aggregate) (gateId : Uuid) : Option GateAssignment :=
  a.gateAssignments.find? fun row => row.gateId = gateId ∧ row.supersededAt = none

def currentWorkItemAssignment (a : Aggregate) (workItemId : Uuid) : Option WorkItemAssignment :=
  a.assignments.find? fun row => row.workItemId = workItemId ∧ row.supersededAt = none

-- UPDATE requirement.requirement … WHERE id AND revision RETURNING *: `missing`
-- is what the caller raises when no row comes back.
def writeRequirement (a : Aggregate) (expectedRevision : Nat) (chosen : RequirementRow → Bool)
    (change : RequirementRow → RequirementRow) (missing : RequirementError) : Except RequirementError Aggregate := do
  require (a.requirement.revision = expectedRevision ∧ chosen a.requirement) missing
  pure {a with requirement := {change a.requirement with revision := a.requirement.revision + 1}}

def updateRequirementState (a : Aggregate) (expectedRevision : Nat) (state : RequirementState)
    (missing : RequirementError) : Except RequirementError Aggregate :=
  a.writeRequirement expectedRevision (fun _ => true) (fun row => {row with state}) missing

def touchRequirement (a : Aggregate) (expectedRevision : Nat) (missing : RequirementError) :
    Except RequirementError Aggregate :=
  a.writeRequirement expectedRevision (fun _ => true) id missing

def advanceEvidenceInput (a : Aggregate) (expectedRevision : Nat) (state : RequirementState)
    (missing : RequirementError) : Except RequirementError Aggregate :=
  a.writeRequirement expectedRevision (fun _ => true)
    (fun row => {row with state, requirementVersion := row.requirementVersion + 1}) missing

def setCurrentSddBaseline (a : Aggregate) (expectedRevision : Nat) (baselineId : Uuid)
    (missing : RequirementError) : Except RequirementError Aggregate :=
  a.writeRequirement expectedRevision (fun _ => true)
    (fun row => {row with currentSddBaselineId := some baselineId}) missing

def updateRequirementPlan (a : Aggregate) (expectedRevision : Nat) (requiredWorkItemSetHash : String)
    (missing : RequirementError) : Except RequirementError Aggregate :=
  a.writeRequirement expectedRevision (fun row => row.state = .preparing)
    (fun row => {row with
      requirementVersion := row.requirementVersion + 1,
      requiredWorkItemSetVersion := row.requiredWorkItemSetVersion + 1,
      requiredWorkItemSetHash, currentSddBaselineId := none}) missing

def applyIntegrationBaselineSelection (a : Aggregate) (expectedRevision expectedRequirementVersion : Nat)
    (selectionId : Uuid) (missing : RequirementError) : Except RequirementError Aggregate :=
  a.writeRequirement expectedRevision
    (fun row => row.state = .verifying ∧ row.requirementVersion = expectedRequirementVersion ∧
      row.currentIntegrationBaselineSelectionId = none)
    (fun row => {row with
      currentIntegrationBaselineSelectionId := some selectionId, currentAcceptanceGateId := none,
      state := .awaitingAcceptance, requirementVersion := row.requirementVersion + 1}) missing

def setCurrentAcceptanceGate (a : Aggregate) (expectedRevision : Nat) (selectionId gateId : Uuid)
    (missing : RequirementError) : Except RequirementError Aggregate :=
  a.writeRequirement expectedRevision
    (fun row => row.state = .awaitingAcceptance ∧
      row.currentIntegrationBaselineSelectionId = some selectionId ∧ row.currentAcceptanceGateId = none)
    (fun row => {row with currentAcceptanceGateId := some gateId}) missing

def applyAcceptanceDecision (a : Aggregate) (expectedRevision : Nat) (gateId : Uuid) (state : RequirementState)
    (missing : RequirementError) : Except RequirementError Aggregate :=
  a.writeRequirement expectedRevision
    (fun row => row.state = .awaitingAcceptance ∧ row.currentAcceptanceGateId = some gateId)
    (fun row => {row with state}) missing

-- UPDATE requirement.work_item … WHERE id AND revision AND `chosen` RETURNING *
def writeWorkItem (a : Aggregate) (id : Uuid) (expectedRevision : Nat) (chosen : WorkItem → Bool)
    (change : WorkItem → WorkItem) (missing : RequirementError) : Except RequirementError Aggregate := do
  let row ← orRaise (a.workItemById id) missing
  require (row.revision = expectedRevision ∧ chosen row) missing
  let updated := {change row with revision := row.revision + 1}
  require updated.Checks .constraintViolated
  pure {a with workItems := KeyedRows.update WorkItem.id a.workItems id fun _ => updated}

def assignWorkItemProjection (a : Aggregate) (id : Uuid) (expectedRevision : Nat) (humanOwnerId : String)
    (repositoryState : RepositoryState) (repositoryBlockedReasonCode : Option RepositoryBindingBlockedReason)
    (repositoryBlockedAt : Option Time) (missing : RequirementError) : Except RequirementError Aggregate :=
  a.writeWorkItem id expectedRevision (fun row => row.integrationDeliveryState = .notStarted)
    (fun row => {row with
      humanOwnerId := some humanOwnerId, assignmentState := .assigned,
      repositoryState, repositoryBlockedReasonCode, repositoryBlockedAt}) missing

def bindWorkItem (a : Aggregate) (id : Uuid) (expectedRevision : Nat) (baseCommitSha taskBranch : String)
    (state : WorkItemState) (missing : RequirementError) : Except RequirementError Aggregate :=
  a.writeWorkItem id expectedRevision (fun row => row.repositoryState ∈ [.waitingRepository,.blocked])
    (fun row => {row with
      repositoryState := .bound, baseCommitSha := some baseCommitSha, taskBranch := some taskBranch, state,
      repositoryBlockedReasonCode := none, repositoryBlockedAt := none}) missing

def blockWorkItem (a : Aggregate) (id : Uuid) (expectedRevision : Nat) (reasonCode : RepositoryBindingBlockedReason)
    (now : Time) (missing : RequirementError) : Except RequirementError Aggregate :=
  a.writeWorkItem id expectedRevision (fun row => row.repositoryState ∈ [.waitingRepository,.blocked])
    (fun row => {row with
      repositoryState := .blocked, baseCommitSha := none, taskBranch := none, state := .draft,
      repositoryBlockedReasonCode := some reasonCode, repositoryBlockedAt := some now}) missing

def updateWorkItemDelivery (a : Aggregate) (id : Uuid) (expectedRevision : Nat) (state : WorkItemState)
    (deliveryState : IntegrationDeliveryState) (bindingId : Option Uuid)
    (blockedReason : Option IntegrationDeliveryBlockedReason) (missing : RequirementError) :
    Except RequirementError Aggregate :=
  a.writeWorkItem id expectedRevision (fun _ => true)
    (fun row => {row with
      state, integrationDeliveryState := deliveryState, integrationMergeRequestBindingId := bindingId,
      integrationBlockedReasonCode := blockedReason}) missing

def updateWorkItemFormalDelivery (a : Aggregate) (id : Uuid) (expectedRevision : Nat) (state : WorkItemState)
    (formalState : FormalDeliveryState) (bindingId : Option Uuid)
    (blockedReason : Option FormalDeliveryBlockedReason) (now : Time) (missing : RequirementError) :
    Except RequirementError Aggregate :=
  a.writeWorkItem id expectedRevision (fun _ => true)
    (fun row => {row with
      state, formalDeliveryState := formalState, formalMergeRequestBindingId := bindingId,
      formalBlockedReasonCode := blockedReason, formalUpdatedAt := some now}) missing

def reopenWorkItemForRework (a : Aggregate) (id : Uuid) (expectedRevision : Nat) (formalState : FormalDeliveryState)
    (formalBindingId : Option Uuid) (now : Time) (missing : RequirementError) : Except RequirementError Aggregate :=
  a.writeWorkItem id expectedRevision (fun _ => true)
    (fun row => {row with
      state := .inProgress, integrationDeliveryState := .implementing,
      integrationMergeRequestBindingId := none, integrationBlockedReasonCode := none,
      formalDeliveryState := formalState, formalMergeRequestBindingId := formalBindingId,
      formalBlockedReasonCode := none, formalUpdatedAt := some now}) missing

-- UPDATE requirement.work_item … WHERE requirement_id AND `chosen`
def writeWorkItems (a : Aggregate) (chosen : WorkItem → Bool) (change : WorkItem → WorkItem) :
    Except RequirementError Aggregate := do
  let workItems := a.workItems.map fun row =>
    if chosen row then {change row with revision := row.revision + 1} else row
  require (∀ row ∈ workItems, row.Checks) .constraintViolated
  pure {a with workItems}

def reworked (now : Time) (row : WorkItem) : WorkItem :=
  {row with
    state := .inProgress, integrationDeliveryState := .implementing,
    integrationMergeRequestBindingId := none, integrationBlockedReasonCode := none,
    formalDeliveryState := if row.formalMergeRequestBindingId = none then .notStarted else .mrOpen,
    formalBlockedReasonCode := none, formalUpdatedAt := some now}

def reopenIntegratedWorkItemsForRework (a : Aggregate) (now : Time) (missing : RequirementError) :
    Except RequirementError Aggregate := do
  let integrated (row : WorkItem) : Bool :=
    row.integrationDeliveryState = .integrated ∧ row.formalDeliveryState ≠ .merged
  let reopened ← a.writeWorkItems integrated (reworked now)
  require (a.workItems.any integrated) missing
  pure reopened

def invalidationBlock (row : WorkItem) : Bool :=
  row.formalDeliveryState = .blocked ∧ row.formalBlockedReasonCode.any FormalDeliveryBlockedReason.invalidates

def reopenFormalInvalidationBlocksForRework (a : Aggregate) (now : Time) (missing : RequirementError) :
    Except RequirementError Aggregate := do
  let reopened ← a.writeWorkItems invalidationBlock (reworked now)
  require (a.workItems.any invalidationBlock) missing
  pure reopened

def reconcilePlannedWorkItemStates (a : Aggregate) (requirementState : RequirementState) :
    Except RequirementError Aggregate :=
  let target (row : WorkItem) : WorkItemState :=
    if requirementState = .ready ∧ row.assignmentState = .assigned ∧ row.repositoryState = .bound then .ready
    else if requirementState = .canceled then .canceled
    else .draft
  a.writeWorkItems (fun row => row.integrationDeliveryState = .notStarted ∧ row.state ≠ target row)
    fun row => {row with state := target row}

-- ORDER BY formal_updated_at, id LIMIT 1; NULLs come last.
def blockedBefore (one two : WorkItem) : Bool :=
  match one.formalUpdatedAt,two.formalUpdatedAt with
  | some first,some second => first < second ∨ first = second ∧ one.id < two.id
  | some _,none => true
  | none,some _ => false
  | none,none => one.id < two.id

def formalInvalidationBlockReason (a : Aggregate) : Option FormalDeliveryBlockedReason :=
  (RankedRows.top blockedBefore (a.workItems.filter invalidationBlock)).bind WorkItem.formalBlockedReasonCode

def hasPendingFormalDelivery (a : Aggregate) : Bool := a.workItems.any fun row => row.formalDeliveryState.pending

def invalidateCurrentDeliveryEvidence (a : Aggregate) (reason : String) (now : Time) :
    Except RequirementError Aggregate := do
  require (a.hasPendingFormalDelivery = false) .formalDeliveryConflict
  let a ← a.writeWorkItems
    (fun row => row.state = .awaitingMerge ∧ row.integrationDeliveryState = .integrated)
    fun row => {row with state := .verifying}
  pure {a with
    decisions := a.decisions.map fun row =>
      if row.validity = .current then
        {row with validity := .invalidated, invalidatedAt := some now, invalidationReason := some reason}
      else row,
    deliveryGates := a.deliveryGates.map fun row =>
      if row.state ∈ [.opened,.decided] then
        {row with
          state := .invalidated, invalidatedAt := some now, invalidationReason := some reason,
          revision := row.revision + 1}
      else row,
    selections := a.selections.map fun row =>
      if row.invalidatedAt = none then {row with invalidatedAt := some now, invalidationReason := some reason}
      else row,
    requirement := {a.requirement with currentIntegrationBaselineSelectionId := none, currentAcceptanceGateId := none}}

def requiredFormalDeliveryStates (a : Aggregate) : List FormalDeliveryState :=
  a.workItems.map WorkItem.formalDeliveryState

def requiredWorkItemStates (a : Aggregate) : List WorkItemState := a.workItems.map WorkItem.state

-- A primary key that is taken raises.
def insertWorkItem (a : Aggregate) (row : WorkItem) : Except RequirementError Aggregate := do
  require (a.workItemById row.id = none ∧ row.Checks) .constraintViolated
  pure {a with workItems := a.workItems ++ [row]}

-- ON CONFLICT (requirement_id, snapshot_hash) DO NOTHING
def insertDeliverySnapshot (a : Aggregate) (row : DeliverySnapshot) (missing : RequirementError) :
    Except RequirementError Aggregate := do
  require (a.deliverySnapshotById row.id = none) .constraintViolated
  require (∀ other ∈ a.snapshots, other.snapshotHash ≠ row.snapshotHash) missing
  pure {a with snapshots := a.snapshots ++ [row]}

def insertIntegrationBaselineSelection (a : Aggregate) (row : IntegrationBaselineSelection) :
    Except RequirementError Aggregate := do
  require (a.selectionById row.id = none) .constraintViolated
  require (∀ other ∈ a.selections, other.invalidatedAt ≠ none) .constraintViolated
  require (∀ other ∈ a.selections, other.requirementVersionAfter ≠ row.requirementVersionAfter ∧
    (other.integrationBaselineId,other.integrationBaselineHash) ≠
      (row.integrationBaselineId,row.integrationBaselineHash)) .constraintViolated
  pure {a with selections := a.selections ++ [row]}

def insertDeliveryGate (a : Aggregate) (row : DeliveryGate) : Except RequirementError Aggregate := do
  require (a.deliveryGateById row.id = none) .constraintViolated
  require (∀ other ∈ a.deliveryGates, other.gateType = row.gateType → other.selectionId = row.selectionId →
    row.gateType = .formalMrReview ∧ other.formalMergeRequestBindingId ≠ row.formalMergeRequestBindingId)
    .constraintViolated
  pure {a with deliveryGates := a.deliveryGates ++ [row]}

def insertDeliveryGateAssignment (a : Aggregate) (row : DeliveryGateAssignment) : Aggregate :=
  {a with deliveryAssignments := a.deliveryAssignments ++ [row]}

def insertDeliveryDecision (a : Aggregate) (row : DeliveryDecision) : Except RequirementError Aggregate := do
  require (a.deliveryDecisionByGate row.gateId = none) .constraintViolated
  pure {a with decisions := a.decisions ++ [row]}

-- UPDATE requirement.delivery_gate … WHERE id AND state='OPEN' AND revision
def writeOpenDeliveryGate (a : Aggregate) (id : Uuid) (expectedRevision : Nat)
    (change : DeliveryGate → DeliveryGate) (missing : RequirementError) : Except RequirementError Aggregate := do
  let row ← orRaise (a.deliveryGateById id) missing
  require (row.state = .opened ∧ row.revision = expectedRevision) missing
  pure {a with
    deliveryGates := KeyedRows.update DeliveryGate.id a.deliveryGates id fun _ =>
      {change row with revision := row.revision + 1}}

def decideDeliveryGate (a : Aggregate) (id : Uuid) (expectedRevision : Nat) (now : Time)
    (missing : RequirementError) : Except RequirementError Aggregate :=
  a.writeOpenDeliveryGate id expectedRevision (fun row => {row with state := .decided, decidedAt := some now}) missing

def insertDecision (a : Aggregate) (row : GateDecision) : Except RequirementError Aggregate := do
  require (a.decisionByGateId row.gateInstanceId = none) .constraintViolated
  pure {a with gateDecisions := a.gateDecisions ++ [row]}

def advanceDeliveryGateAssignment (a : Aggregate) (id : Uuid) (expectedRevision : Nat)
    (missing : RequirementError) : Except RequirementError Aggregate :=
  a.writeOpenDeliveryGate id expectedRevision (fun row => row) missing

def supersedeDeliveryGateAssignment (a : Aggregate) (id : Uuid) (now : Time) (missing : RequirementError) :
    Except RequirementError Aggregate := do
  let row ← orRaise (KeyedRows.find DeliveryGateAssignment.id a.deliveryAssignments id) missing
  require (row.supersededAt = none) missing
  pure {a with
    deliveryAssignments := KeyedRows.update DeliveryGateAssignment.id a.deliveryAssignments id fun row =>
      {row with supersededAt := some now}}

def insertOutbox (a : Aggregate) (id : Uuid) (aggregateVersion : Nat) (payload : OutboxPayload) (now : Time) :
    Aggregate :=
  {a with outbox := a.outbox ++ [⟨id,aggregateVersion,payload,now⟩]}

-- formal_delivery_context, of the row `workItem` in this requirement.
structure FormalDeliveryContext where
  requirement : RequirementRow
  workItem : WorkItem
  acceptance : Option DeliveryDecision
  formalGate : Option DeliveryGate
  formalDecision : Option DeliveryDecision

-- ORDER BY (selection_id=current_integration_baseline_selection_id) DESC,
-- created_at DESC, id DESC; with no current selection the first key is NULL.
def reviewedLater (current : Option Uuid) (one two : DeliveryGate) : Bool :=
  let chosen (gate : DeliveryGate) : Bool := current = some gate.selectionId
  if chosen one = chosen two then
    two.createdAt < one.createdAt ∨ two.createdAt = one.createdAt ∧ two.id < one.id
  else chosen one

def formalGates (a : Aggregate) (workItemId : Uuid) : List DeliveryGate :=
  a.deliveryGates.filter fun gate => gate.workItemId = some workItemId ∧ gate.gateType = .formalMrReview

def formalDeliveryContext (a : Aggregate) (workItem : WorkItem) : FormalDeliveryContext :=
  let formalGate :=
    RankedRows.top (reviewedLater a.requirement.currentIntegrationBaselineSelectionId) (a.formalGates workItem.id)
  ⟨a.requirement,workItem,
    a.requirement.currentAcceptanceGateId.bind a.deliveryDecisionByGate,
    formalGate,formalGate.bind fun gate => a.deliveryDecisionByGate gate.id⟩

end Aggregate
end EngineeringPlatform.Requirement
