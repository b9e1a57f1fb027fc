import EngineeringPlatform.RequirementSystem
import EngineeringPlatform.RequirementWrites
-- What holds of a requirement between any two of its commands, table by table.
namespace EngineeringPlatform.Requirement

namespace RequirementState

-- No work has started, or ever will.
def planning : RequirementState → Bool
  | .created | .preparing | .awaitingConfirmation | .ready | .canceled => true
  | _ => false

-- Integration evidence has been selected.
def selected : RequirementState → Bool
  | .awaitingAcceptance | .awaitingMerge | .completed => true
  | _ => false

-- And accepted.
def accepted : RequirementState → Bool
  | .awaitingMerge | .completed => true
  | _ => false

theorem accepted_selected {state : RequirementState} (accepted : state.accepted = true) : state.selected = true := by
  cases state <;> simp_all [RequirementState.accepted,selected]

theorem planning_unselected {state : RequirementState} (planning : state.planning = true) :
    state.selected = false := by
  cases state <;> simp_all [RequirementState.planning,selected]

-- Delivery is under way, and nothing of it selected.
def Working (state : RequirementState) : Prop := state = .inProgress ∨ state = .verifying

theorem Working.unplanned {state : RequirementState} (working : state.Working) :
    state.planning = false ∧ state.selected = false := by
  rcases working with rfl | rfl <;> exact ⟨rfl,rfl⟩

end RequirementState

structure RowsOk (items : List WorkItem) : Prop where
  unique : KeyedRows.Unique WorkItem.id items
  checked : ∀ row ∈ items, row.Checks
  started : ∀ row ∈ items, row.integrationDeliveryState ≠ .notStarted → row.repositoryState = .bound

-- Neither waiting for Source Control nor holding an invalidation back.
def WorkItem.Settled (row : WorkItem) : Prop :=
  row.formalDeliveryState.pending = false ∧ Aggregate.invalidationBlock row = false

structure Phased (state : RequirementState) (items : List WorkItem) : Prop where
  planned : state.planning = true → ∀ row ∈ items, row.integrationDeliveryState = .notStarted
  selected : state.selected = true → ∀ row ∈ items, row.integrationDeliveryState = .integrated
  pending : ∀ row ∈ items, row.formalDeliveryState.pending = true → state = .awaitingMerge
  completed : state = .completed → ∀ row ∈ items, row.formalDeliveryState = .merged
  blocks : ∀ row ∈ items, Aggregate.invalidationBlock row = true →
    ∃ other ∈ items, other.formalDeliveryState.pending = true

-- A gate that may still be decided is of a plan that may still be changed.
structure Confirming (state : RequirementState) (current : Option Uuid) (gates : List GateInstance) : Prop where
  unique : KeyedRows.Unique GateInstance.id gates
  single : KeyedRows.Unique GateInstance.sddBaselineId gates
  current : ∀ gate ∈ gates, gate.state = .opened → current = some gate.sddBaselineId →
    state = .preparing ∨ state = .awaitingConfirmation

-- The decision that let the requirement into formal delivery.
structure AcceptedBy (a : Aggregate) (selection : IntegrationBaselineSelection) (gate : DeliveryGate)
    (decision : DeliveryDecision) : Prop where
  selected : a.requirement.currentIntegrationBaselineSelectionId = some selection.id
  gated : a.requirement.currentAcceptanceGateId = some gate.id
  found : a.deliveryGateById gate.id = some gate
  gateType : gate.gateType = .requirementAcceptance
  subject : gate.selectionId = selection.id
  closed : gate.state = .decided
  decided : a.deliveryDecisionByGate gate.id = some decision
  outcome : decision.outcome = .approved
  validity : decision.validity = .current
  version : decision.requirementVersion = a.requirement.requirementVersion
  baseline : decision.integrationBaselineId = selection.integrationBaselineId
  hash : decision.integrationBaselineHash = selection.integrationBaselineHash

structure Evident (a : Aggregate) : Prop where
  unique : KeyedRows.Unique IntegrationBaselineSelection.id a.selections
  live : ∀ selection ∈ a.selections, selection.invalidatedAt = none →
    a.requirement.state.selected = true ∧
      a.requirement.currentIntegrationBaselineSelectionId = some selection.id
  current : a.requirement.state.selected = true → ∃ selection ∈ a.selections,
    a.requirement.currentIntegrationBaselineSelectionId = some selection.id ∧ selection.invalidatedAt = none ∧
      selection.requirementVersionAfter = a.requirement.requirementVersion
  gate : ∀ id, a.requirement.currentAcceptanceGateId = some id →
    ∃ gate, a.deliveryGateById id = some gate ∧ gate.gateType = .requirementAcceptance
  accepted : a.requirement.state.accepted = true →
    ∃ selection ∈ a.selections, selection.invalidatedAt = none ∧ ∃ gate decision, AcceptedBy a selection gate decision
  snapshots : ∀ snapshot ∈ a.snapshots, snapshot.requirementVersion ≤ a.requirement.requirementVersion ∧
    (a.requirement.state.selected = true → snapshot.requirementVersion < a.requirement.requirementVersion) ∧
    (snapshot.requirementVersion = a.requirement.requirementVersion →
      ∀ row ∈ a.workItems, row.integrationDeliveryState = .integrated)

-- The formal requests of one work item, oldest first.
def formalRequestOf (workItemId : Uuid) (message : OutboxMessage) : Option FormalDeliveryPayload :=
  match message.payload with
  | .formalDelivery payload => if payload.workItemId = workItemId then some payload else none
  | _ => none

def latestFormalRequest (outbox : List OutboxMessage) (workItemId : Uuid) : Option FormalDeliveryPayload :=
  (outbox.filterMap (formalRequestOf workItemId)).getLast?

-- A pending row and the request it waits for an answer to.
structure Awaits (row : WorkItem) (request : FormalDeliveryPayload) : Prop where
  revision : matchesFormalCallbackRevision row request.workItemRevision
  binding : row.formalMergeRequestBindingId = request.formalMergeRequestBindingId
  create : row.formalDeliveryState = .mrPending → request.kind = .createMr
  merge : row.formalDeliveryState = .mergePending → request.kind = .mergeMr
  bound : request.kind = .mergeMr → request.formalMergeRequestBindingId ≠ none

def Requested (items : List WorkItem) (outbox : List OutboxMessage) : Prop :=
  ∀ row ∈ items, row.formalDeliveryState.pending = true →
    ∃ request, latestFormalRequest outbox row.id = some request ∧ Awaits row request

structure Consistent (a : Aggregate) : Prop where
  rows : RowsOk a.workItems
  phased : Phased a.requirement.state a.workItems
  confirming : Confirming a.requirement.state a.requirement.currentSddBaselineId a.gates
  evident : Evident a
  requested : Requested a.workItems a.outbox

-- Rows.

theorem RowsOk.replaced {items : List WorkItem} {new : WorkItem} (rows : RowsOk items)
    (keyed : new.id = id') (checked : new.Checks)
    (started : new.integrationDeliveryState ≠ .notStarted → new.repositoryState = .bound) :
    RowsOk (KeyedRows.update WorkItem.id items id' fun _ => new) := by
  have member : ∀ row ∈ KeyedRows.update WorkItem.id items id' fun _ => new, row ∈ items ∨ row = new := by
    intro row present
    obtain ⟨before,there,rfl⟩ := List.mem_map.mp present
    split
    · exact .inr rfl
    · exact .inl there
  refine ⟨KeyedRows.unique_replace keyed rows.unique,?_,?_⟩
  · intro row present
    rcases member row present with old | rfl
    · exact rows.checked row old
    · exact checked
  · intro row present
    rcases member row present with old | rfl
    · exact rows.started row old
    · exact started

theorem RowsOk.mapped {items : List WorkItem} {chosen : WorkItem → Bool} {change : WorkItem → WorkItem}
    (rows : RowsOk items) (keyed : ∀ row, (change row).id = row.id)
    (checked : ∀ row ∈ items, (row.writtenIf chosen change).Checks)
    (started : ∀ row ∈ items, chosen row = true → (change row).integrationDeliveryState ≠ .notStarted →
      (change row).repositoryState = .bound) : RowsOk (items.map (WorkItem.writtenIf chosen change)) := by
  refine ⟨?_,?_,?_⟩
  · have same : (items.map (WorkItem.writtenIf chosen change)).map WorkItem.id = items.map WorkItem.id := by
      rw [List.map_map]
      refine List.map_congr_left fun row _ => ?_
      dsimp only [Function.comp,WorkItem.writtenIf]
      split
      · exact keyed row
      · rfl
    unfold KeyedRows.Unique
    rw [same]
    exact rows.unique
  · intro row present
    obtain ⟨before,there,rfl⟩ := List.mem_map.mp present
    exact checked before there
  · intro row present
    obtain ⟨before,there,rfl⟩ := List.mem_map.mp present
    unfold WorkItem.writtenIf
    split
    · rename_i taken
      exact started before there taken
    · exact rows.started before there

-- The rows of an aggregate with one of them rewritten.
theorem mem_replaced {a : Aggregate} {old new row : WorkItem} (rows : RowsOk a.workItems)
    (found : a.workItemById workItemId = some old) (member : row ∈ (a.replaced workItemId new).workItems) :
    row ∈ a.workItems ∧ row.id ≠ workItemId ∨ row = new :=
  KeyedRows.mem_replace rows.unique found member

-- Phases.

theorem Phased.idle (phased : Phased state items) (elsewhere : state ≠ .awaitingMerge) (member : row ∈ items) :
    row.Settled := by
  have calm : ∀ other ∈ items, other.formalDeliveryState.pending = false := by
    intro other present
    cases waits : other.formalDeliveryState.pending with
    | false => rfl
    | true => exact absurd (phased.pending other present waits) elsewhere
  refine ⟨calm row member,?_⟩
  cases blocked : Aggregate.invalidationBlock row with
  | false => rfl
  | true =>
    obtain ⟨other,present,waits⟩ := phased.blocks row member blocked
    cases (calm other present).symm.trans waits

-- With nothing pending there is no block left either.
theorem Phased.calm (phased : Phased state items) (calm : ∀ other ∈ items, other.formalDeliveryState.pending = false)
    (member : row ∈ items) : row.Settled := by
  refine ⟨calm row member,?_⟩
  cases blocked : Aggregate.invalidationBlock row with
  | false => rfl
  | true =>
    obtain ⟨other,present,waits⟩ := phased.blocks row member blocked
    cases (calm other present).symm.trans waits

theorem Phased.of_settled (settled : ∀ row ∈ items, row.Settled) (unfinished : state ≠ .completed)
    (planned : state.planning = true → ∀ row ∈ items, row.integrationDeliveryState = .notStarted)
    (selected : state.selected = true → ∀ row ∈ items, row.integrationDeliveryState = .integrated) :
    Phased state items := by
  refine ⟨planned,selected,?_,fun done => absurd done unfinished,?_⟩
  · intro row member waits
    cases (settled row member).1.symm.trans waits
  · intro row member blocked
    cases (settled row member).2.symm.trans blocked

-- Confirmation.

theorem Confirming.moved {current : Option Uuid} (confirming : Confirming state current gates)
    (stays : state = .preparing ∨ state = .awaitingConfirmation →
      state' = .preparing ∨ state' = .awaitingConfirmation) : Confirming state' current gates :=
  ⟨confirming.unique,confirming.single,fun gate member opened named =>
    stays (confirming.current gate member opened named)⟩

-- Evidence.

-- Evidence is neither selected, gated, decided nor invalidated.
structure Quiet (a a' : Aggregate) : Prop where
  snapshots : a'.snapshots = a.snapshots
  selections : a'.selections = a.selections
  gates : ∀ id gate, a.deliveryGateById id = some gate → gate.gateType = .requirementAcceptance →
    ∃ revision, a'.deliveryGateById id = some {gate with revision}
  decisions : ∀ id decision, a.deliveryDecisionByGate id = some decision →
    a'.deliveryDecisionByGate id = some decision
  version : a'.requirement.requirementVersion = a.requirement.requirementVersion
  selection : a'.requirement.currentIntegrationBaselineSelectionId = a.requirement.currentIntegrationBaselineSelectionId
  gate : a'.requirement.currentAcceptanceGateId = a.requirement.currentAcceptanceGateId

theorem Quiet.of_eq (snapshots : a'.snapshots = a.snapshots) (selections : a'.selections = a.selections)
    (gates : a'.deliveryGates = a.deliveryGates) (decisions : a'.decisions = a.decisions)
    (version : a'.requirement.requirementVersion = a.requirement.requirementVersion)
    (selection : a'.requirement.currentIntegrationBaselineSelectionId =
      a.requirement.currentIntegrationBaselineSelectionId)
    (gate : a'.requirement.currentAcceptanceGateId = a.requirement.currentAcceptanceGateId) : Quiet a a' := by
  refine ⟨snapshots,selections,?_,?_,version,selection,gate⟩
  · intro id gate found _
    refine ⟨gate.revision,?_⟩
    unfold Aggregate.deliveryGateById at found ⊢
    rw [gates]
    exact found
  · intro id decision found
    unfold Aggregate.deliveryDecisionByGate at found ⊢
    rw [decisions]
    exact found

theorem Quiet.gate_type (quiet : Quiet a a')
    (typed : ∀ id, a.requirement.currentAcceptanceGateId = some id →
      ∃ gate, a.deliveryGateById id = some gate ∧ gate.gateType = .requirementAcceptance) :
    ∀ id, a'.requirement.currentAcceptanceGateId = some id →
      ∃ gate, a'.deliveryGateById id = some gate ∧ gate.gateType = .requirementAcceptance := by
  intro id current
  obtain ⟨gate,found,type⟩ := typed id (quiet.gate ▸ current)
  obtain ⟨revision,found⟩ := quiet.gates id gate found type
  exact ⟨_,found,type⟩

theorem AcceptedBy.quiet {selection : IntegrationBaselineSelection} (accepted : AcceptedBy a selection gate decision)
    (quiet : Quiet a a') : ∃ gate, AcceptedBy a' selection gate decision := by
  obtain ⟨revision,found⟩ := quiet.gates gate.id gate accepted.found accepted.gateType
  exact ⟨{gate with revision},⟨quiet.selection.trans accepted.selected,quiet.gate.trans accepted.gated,found,
    accepted.gateType,accepted.subject,accepted.closed,quiet.decisions _ _ accepted.decided,accepted.outcome,
    accepted.validity,accepted.version.trans quiet.version.symm,accepted.baseline,accepted.hash⟩⟩

theorem Evident.quiet (evident : Evident a) (quiet : Quiet a a')
    (selected : a'.requirement.state.selected = a.requirement.state.selected)
    (accepted : a'.requirement.state.accepted = true → a.requirement.state.accepted = true)
    (integrated : (∀ row ∈ a.workItems, row.integrationDeliveryState = .integrated) →
      ∀ row ∈ a'.workItems, row.integrationDeliveryState = .integrated) : Evident a' := by
  refine ⟨?_,?_,?_,quiet.gate_type evident.gate,?_,?_⟩
  · rw [quiet.selections]
    exact evident.unique
  · rw [quiet.selections,quiet.selection,selected]
    exact evident.live
  · rw [quiet.selections,quiet.selection,quiet.version,selected]
    exact evident.current
  · intro accepts
    obtain ⟨selection,member,live,gate,decision,by_⟩ := evident.accepted (accepted accepts)
    obtain ⟨gate,by_⟩ := by_.quiet quiet
    exact ⟨selection,quiet.selections ▸ member,live,gate,decision,by_⟩
  · rw [quiet.snapshots,quiet.version,selected]
    intro snapshot member
    obtain ⟨most,below,whole⟩ := evident.snapshots snapshot member
    exact ⟨most,below,fun same => integrated (whole same)⟩

-- Work goes on with no evidence selected.
theorem Evident.unselected (unique : KeyedRows.Unique IntegrationBaselineSelection.id a.selections)
    (dead : ∀ selection ∈ a.selections, selection.invalidatedAt ≠ none)
    (unselected : a.requirement.state.selected = false)
    (gate : ∀ id, a.requirement.currentAcceptanceGateId = some id →
      ∃ gate, a.deliveryGateById id = some gate ∧ gate.gateType = .requirementAcceptance)
    (snapshots : ∀ snapshot ∈ a.snapshots, snapshot.requirementVersion ≤ a.requirement.requirementVersion ∧
      (snapshot.requirementVersion = a.requirement.requirementVersion →
        ∀ row ∈ a.workItems, row.integrationDeliveryState = .integrated)) : Evident a := by
  refine ⟨unique,?_,?_,gate,?_,?_⟩
  · intro selection member live
    exact absurd live (dead selection member)
  · intro selected
    cases unselected.symm.trans selected
  · intro accepted
    cases unselected.symm.trans (RequirementState.accepted_selected accepted)
  · intro snapshot member
    obtain ⟨most,whole⟩ := snapshots snapshot member
    refine ⟨most,?_,whole⟩
    intro selected
    cases unselected.symm.trans selected

theorem Evident.dead (evident : Evident a) (unselected : a.requirement.state.selected = false) :
    ∀ selection ∈ a.selections, selection.invalidatedAt ≠ none := by
  intro selection member live
  cases unselected.symm.trans (evident.live selection member live).1

-- Requests.

theorem latestFormalRequest_other {message : OutboxMessage} (other : formalRequestOf workItemId message = none) :
    latestFormalRequest (outbox ++ [message]) workItemId = latestFormalRequest outbox workItemId := by
  unfold latestFormalRequest
  rw [List.filterMap_append]
  simp [other]

theorem latestFormalRequest_elsewhere {id : Uuid} {payload : FormalDeliveryPayload}
    (elsewhere : payload.workItemId ≠ workItemId) :
    latestFormalRequest (outbox ++ [⟨id,version,.formalDelivery payload,now⟩]) workItemId =
      latestFormalRequest outbox workItemId :=
  latestFormalRequest_other (if_neg elsewhere)

theorem latestFormalRequest_new {message : OutboxMessage} (new : formalRequestOf workItemId message = some request) :
    latestFormalRequest (outbox ++ [message]) workItemId = some request := by
  unfold latestFormalRequest
  rw [List.filterMap_append]
  simp [new]

-- The pending rows are rows that were there, and the outbox says the same of them.
theorem Requested.kept (requested : Requested items outbox)
    (kept : ∀ row ∈ items', row.formalDeliveryState.pending = true → row ∈ items)
    (same : ∀ workItemId, latestFormalRequest outbox' workItemId = latestFormalRequest outbox workItemId) :
    Requested items' outbox' := by
  intro row member waits
  rw [same]
  exact requested row (kept row member waits) waits

theorem Requested.none (calm : ∀ row ∈ items, row.formalDeliveryState.pending = false) : Requested items outbox := by
  intro row member waits
  cases (calm row member).symm.trans waits

-- Tables that none of this is about may change, and other messages be sent.
theorem Consistent.frame (consistent : Consistent a) (items : a'.workItems = a.workItems)
    (requirement : a'.requirement = a.requirement) (gates : a'.gates = a.gates)
    (snapshots : a'.snapshots = a.snapshots) (selections : a'.selections = a.selections)
    (deliveryGates : a'.deliveryGates = a.deliveryGates) (decisions : a'.decisions = a.decisions)
    (outbox : ∀ workItemId, latestFormalRequest a'.outbox workItemId = latestFormalRequest a.outbox workItemId) :
    Consistent a' := by
  refine ⟨items ▸ consistent.rows,?_,?_,?_,?_⟩
  · rw [items,requirement]
    exact consistent.phased
  · rw [requirement,gates]
    exact consistent.confirming
  · refine consistent.evident.quiet (.of_eq snapshots selections deliveryGates decisions ?_ ?_ ?_) ?_ ?_ ?_
    all_goals first | rw [requirement] | rw [items]
    · exact fun accepted => accepted
    · exact fun integrated => integrated
  · exact consistent.requested.kept (fun row member _ => items ▸ member) outbox

-- A requirement sent back to work, its evidence gone.
theorem Consistent.resumed (rows : RowsOk a.workItems) (settled : ∀ row ∈ a.workItems, row.Settled)
    (working : a.requirement.state.Working)
    (confirming : Confirming a.requirement.state a.requirement.currentSddBaselineId a.gates)
    (unique : KeyedRows.Unique IntegrationBaselineSelection.id a.selections)
    (dead : ∀ selection ∈ a.selections, selection.invalidatedAt ≠ none)
    (ungated : a.requirement.currentAcceptanceGateId = none)
    (older : ∀ snapshot ∈ a.snapshots, snapshot.requirementVersion < a.requirement.requirementVersion) :
    Consistent a := by
  refine ⟨rows,Phased.of_settled settled ?_ ?_ ?_,confirming,Evident.unselected unique dead working.unplanned.2 ?_ ?_,
    Requested.none fun row member => (settled row member).1⟩
  · intro done
    rcases working with state | state <;> cases state.symm.trans done
  · intro planning
    cases working.unplanned.1.symm.trans planning
  · intro selected
    cases working.unplanned.2.symm.trans selected
  · intro id current
    cases ungated.symm.trans current
  · intro snapshot member
    have before := older snapshot member
    exact ⟨Nat.le_of_lt before,fun same => absurd same (Nat.ne_of_lt before)⟩

end EngineeringPlatform.Requirement
