import EngineeringPlatform.RequirementDependencies
namespace EngineeringPlatform.Requirement
open Checked
variable (d : Dependencies)

def validateHumanSubject (row : WorkItem) (actor : String) (ownerRequired : Bool) : Except RequirementError PUnit := do
  require (row.assignmentState = .assigned ∧ row.humanOwnerId.any fun owner => owner ≠ "") .workItemActorDenied
  require (ownerRequired → row.humanOwnerId = some actor) .workItemActorDenied
  require (row.repositoryState = .bound) .workItemDeliveryConflict

-- _execute_locked, up to the command it runs on the locked rows.
def deliverySubject (a : Aggregate) (workItemId : Uuid) (expectedRevision : Nat) (actor : String)
    (ownerRequired : Bool) : Except RequirementError WorkItem := do
  let row ← orRaise (a.workItemById workItemId) .workItemNotFound
  validateHumanSubject row actor ownerRequired
  require (a.requirement.revision = expectedRevision) .staleRequirementRevision
  pure row

def startWorkItem (a : Aggregate) (workItemId : Uuid) (expectedRevision : Nat) (actor : String) :
    Except RequirementError Aggregate := do
  let row ← deliverySubject a workItemId expectedRevision actor true
  let (requirementState,workItemState) ← transitionHumanWorkStarted a.requirement.state row.state
  require (row.integrationDeliveryState = .notStarted) .workItemDeliveryConflict
  let a ← a.updateWorkItemDelivery workItemId row.revision workItemState .implementing none none
    .staleWorkItemRevision
  a.updateRequirementState a.requirement.revision requirementState .staleRequirementRevision

-- _request_delivery: the states a request is accepted in and the one it leaves.
structure DeliveryRequestStates where
  requirement : RequirementState
  workItem : WorkItemState
  delivery : IntegrationDeliveryState
  requested : IntegrationDeliveryState

def deliveryRequestStates : DeliveryRequestKind → DeliveryRequestStates
  | .createMr => ⟨.inProgress,.inProgress,.implementing,.mrPending⟩
  | .mergeMr => ⟨.verifying,.verifying,.mrOpen,.mergePending⟩

def requestDelivery (kind : DeliveryRequestKind) (a : Aggregate) (workItemId : Uuid) (expectedRevision : Nat)
    (actor : String) : Except RequirementError Aggregate := do
  let states := deliveryRequestStates kind
  let row ← deliverySubject a workItemId expectedRevision actor (kind = .createMr)
  require (a.requirement.state = states.requirement ∧ row.state = states.workItem ∧
    row.integrationDeliveryState = states.delivery) .workItemDeliveryConflict
  let bindingId := row.integrationMergeRequestBindingId
  require (kind = .mergeMr → bindingId ≠ none) .workItemDeliveryConflict
  let a ← a.updateWorkItemDelivery workItemId row.revision states.workItem states.requested bindingId none
    .staleWorkItemRevision
  let a ← a.updateRequirementState a.requirement.revision states.requirement .staleRequirementRevision
  pure (a.insertOutbox (d.uuid4 0) a.requirement.revision
    (.integrationDelivery ⟨kind,a.requirement.id,a.requirement.revision,workItemId,row.revision + 1,
      if kind = .mergeMr then bindingId else none,row.repositoryId,actor⟩) d.now)

def requestIntegrationMergeRequest := requestDelivery d .createMr

def requestIntegrationMerge := requestDelivery d .mergeMr

-- What a callback writes to the locked work item.
structure Projection where
  state : WorkItemState
  deliveryState : IntegrationDeliveryState
  bindingId : Option Uuid
  blockedReason : Option IntegrationDeliveryBlockedReason
  advanceRequirement : Bool := false

def updateProjection (a : Aggregate) (row : WorkItem) (projection : Projection) : Except RequirementError Aggregate := do
  require (row.integrationDeliveryState = .integrated → projection.deliveryState = .integrated)
    .workItemDeliveryConflict
  let a ← a.updateWorkItemDelivery row.id row.revision projection.state projection.deliveryState
    projection.bindingId projection.blockedReason .staleWorkItemRevision
  let target := transitionIntegrationMrReady a.requiredWorkItemStates
  if projection.advanceRequirement ∧ a.requirement.state ≠ target then
    a.updateRequirementState a.requirement.revision target .staleRequirementRevision
  else pure a

-- _record_callback: what a new callback does. A replayed one writes nothing.
def recordCallback (a : Aggregate) (workItemId : Uuid) (expectedRevision : Nat)
    (command : WorkItem → Except RequirementError Projection) : Except RequirementError Aggregate := do
  let row ← orRaise (a.workItemById workItemId) .workItemNotFound
  require (row.revision = expectedRevision) .staleWorkItemRevision
  let projection ← command row
  updateProjection a row projection

def mrReadyProjection (bindingId : Uuid) (row : WorkItem) : Except RequirementError Projection := do
  require (row.integrationDeliveryState ∈ [.mrPending,.blocked,.reconciliationPending] ∧
    (row.integrationMergeRequestBindingId = none ∨ row.integrationMergeRequestBindingId = some bindingId))
    .workItemDeliveryConflict
  pure ⟨.verifying,.mrOpen,some bindingId,none,true⟩

def recordIntegrationMrReady (a : Aggregate) (workItemId bindingId : Uuid) (expectedRevision : Nat) :
    Except RequirementError Aggregate :=
  recordCallback a workItemId expectedRevision (mrReadyProjection bindingId)

-- The one problem that may bring the first binding of an unbound delivery.
def firstClosedBinding (deliveryState : IntegrationDeliveryState) (reasonCode : IntegrationDeliveryBlockedReason)
    (bindingId : Option Uuid) (row : WorkItem) : Prop :=
  row.integrationDeliveryState = .mrPending ∧ row.integrationMergeRequestBindingId = none ∧ bindingId ≠ none ∧
    deliveryState = .blocked ∧ reasonCode = .mrClosed

instance : Decidable (firstClosedBinding deliveryState reasonCode bindingId row) := by
  unfold firstClosedBinding
  infer_instance

def problemProjection (deliveryState : IntegrationDeliveryState) (reasonCode : IntegrationDeliveryBlockedReason)
    (bindingId : Option Uuid) (row : WorkItem) : Except RequirementError Projection := do
  let current := row.integrationDeliveryState
  let currentBinding := row.integrationMergeRequestBindingId
  require (current ∈ [.mrPending,.mrOpen,.mergePending,.blocked,.reconciliationPending] ∧
    (currentBinding ≠ none → bindingId = currentBinding) ∧
    (currentBinding = none → bindingId ≠ none → firstClosedBinding deliveryState reasonCode bindingId row))
    .workItemDeliveryConflict
  if current = .mrPending ∧ currentBinding = none ∧ bindingId = none ∧ deliveryState = .blocked ∧
      reasonCode = .noDeliveryCommit then
    pure ⟨.inProgress,.implementing,none,none,false⟩
  else
    pure ⟨row.state,deliveryState,currentBinding.or bindingId,
      if deliveryState = .blocked then some reasonCode else none,false⟩

def recordIntegrationDeliveryBlocked (a : Aggregate) (workItemId : Uuid) (bindingId : Option Uuid)
    (reasonCode : IntegrationDeliveryBlockedReason) (expectedRevision : Nat) : Except RequirementError Aggregate :=
  recordCallback a workItemId expectedRevision (problemProjection .blocked reasonCode bindingId)

def recordIntegrationReconciliationPending (a : Aggregate) (workItemId : Uuid) (bindingId : Option Uuid)
    (expectedRevision : Nat) : Except RequirementError Aggregate :=
  recordCallback a workItemId expectedRevision
    (problemProjection .reconciliationPending .reconciliationPending bindingId)

inductive TerminalOperation where
  | merged
  | externalMergeDrift
  deriving DecidableEq, Repr

def boundTerminalProjection (operation : TerminalOperation) (bindingId : Uuid) (row : WorkItem) :
    Except RequirementError Projection := do
  let firstExternalDriftBinding := operation = .externalMergeDrift ∧
    row.integrationMergeRequestBindingId = none ∧ row.state = .inProgress ∧ row.integrationDeliveryState = .mrPending
  let existingBoundTerminal := row.integrationMergeRequestBindingId = some bindingId ∧ row.state = .verifying ∧
    row.integrationDeliveryState ∈ [.mergePending,.blocked,.reconciliationPending]
  require (firstExternalDriftBinding ∨ existingBoundTerminal) .workItemDeliveryConflict
  pure ⟨.verifying,if operation = .externalMergeDrift then .blocked else .integrated,some bindingId,
    if operation = .externalMergeDrift then some .externalMergeDrift else none,firstExternalDriftBinding⟩

def recordIntegrationMerged (a : Aggregate) (workItemId bindingId : Uuid) (expectedRevision : Nat) :
    Except RequirementError Aggregate :=
  recordCallback a workItemId expectedRevision (boundTerminalProjection .merged bindingId)

def recordExternalMergeDrift (a : Aggregate) (workItemId bindingId : Uuid) (expectedRevision : Nat) :
    Except RequirementError Aggregate :=
  recordCallback a workItemId expectedRevision (boundTerminalProjection .externalMergeDrift bindingId)

end EngineeringPlatform.Requirement
