import EngineeringPlatform.RequirementDelivery
import EngineeringPlatform.RequirementWrites
-- What a RECONCILIATION_PENDING callback changes for the terminal callback
-- that follows it.
namespace EngineeringPlatform.Requirement
open Checked

inductive TerminalOutcome where
  | ready (bindingId : Uuid)
  | blocked (bindingId : Option Uuid) (reasonCode : IntegrationDeliveryBlockedReason)
  | merged (bindingId : Uuid)
  | externalMergeDrift (bindingId : Uuid)
  deriving DecidableEq, Repr

namespace TerminalOutcome

-- The request a delivery in a pending state is waiting for.
def awaited : IntegrationDeliveryState → Option DeliveryRequestKind
  | .mrPending => some .createMr
  | .mergePending => some .mergeMr
  | _ => none

-- The terminal callbacks Source Control sends for a request of that kind.
def answers (kind : DeliveryRequestKind) : TerminalOutcome → Prop
  | .ready _ => kind = .createMr
  | .merged _ => kind = .mergeMr
  | .blocked _ _ => True
  | .externalMergeDrift _ => True

instance (kind : DeliveryRequestKind) (outcome : TerminalOutcome) : Decidable (outcome.answers kind) := by
  unfold answers
  cases outcome <;> infer_instance

def projection : TerminalOutcome → WorkItem → Except RequirementError Projection
  | .ready bindingId => mrReadyProjection bindingId
  | .blocked bindingId reasonCode => problemProjection .blocked reasonCode bindingId
  | .merged bindingId => boundTerminalProjection .merged bindingId
  | .externalMergeDrift bindingId => boundTerminalProjection .externalMergeDrift bindingId

def record (outcome : TerminalOutcome) (a : Aggregate) (workItemId : Uuid) (expectedRevision : Nat) :
    Except RequirementError Aggregate :=
  match outcome with
  | .ready bindingId => recordIntegrationMrReady a workItemId bindingId expectedRevision
  | .blocked bindingId reasonCode =>
    recordIntegrationDeliveryBlocked a workItemId bindingId reasonCode expectedRevision
  | .merged bindingId => recordIntegrationMerged a workItemId bindingId expectedRevision
  | .externalMergeDrift bindingId => recordExternalMergeDrift a workItemId bindingId expectedRevision

theorem record_eq (outcome : TerminalOutcome) :
    outcome.record a workItemId expectedRevision =
      recordCallback a workItemId expectedRevision outcome.projection := by
  cases outcome <;> rfl

-- The pending callback takes one revision, so the terminal one comes with the next.
def recordAfterPending (outcome : TerminalOutcome) (a : Aggregate) (workItemId : Uuid) (bindingId : Option Uuid)
    (expectedRevision : Nat) : Except RequirementError Aggregate := do
  let pending ← recordIntegrationReconciliationPending a workItemId bindingId expectedRevision
  outcome.record pending workItemId (expectedRevision + 1)

end TerminalOutcome

structure WorkItemDeliveryView where
  id : Uuid
  state : WorkItemState
  deliveryState : IntegrationDeliveryState
  bindingId : Option Uuid
  blockedReason : Option IntegrationDeliveryBlockedReason
  deriving DecidableEq, Repr

structure DeliveryView where
  requirement : RequirementState
  workItems : List WorkItemDeliveryView
  deriving DecidableEq, Repr

def WorkItem.deliveryView (row : WorkItem) : WorkItemDeliveryView :=
  ⟨row.id,row.state,row.integrationDeliveryState,row.integrationMergeRequestBindingId,row.integrationBlockedReasonCode⟩

def Aggregate.deliveryView (a : Aggregate) : DeliveryView :=
  ⟨a.requirement.state,a.workItems.map WorkItem.deliveryView⟩

-- A rejected callback shows nothing.
def accepted (outcome : Except RequirementError Aggregate) : Option DeliveryView :=
  outcome.toOption.map Aggregate.deliveryView

-- The columns a callback's projection writes.
def Projection.change (projection : Projection) (row : WorkItem) : WorkItem :=
  {row with
    state := projection.state, integrationDeliveryState := projection.deliveryState,
    integrationMergeRequestBindingId := projection.bindingId,
    integrationBlockedReasonCode := projection.blockedReason}

-- What updateProjection makes of the requirement once the work item is written.
def Aggregate.advancedIf (a : Aggregate) (advance : Bool) : Aggregate :=
  let target := transitionIntegrationMrReady a.requiredWorkItemStates
  if advance ∧ a.requirement.state ≠ target then
    {a with requirement := {a.requirement with state := target, revision := a.requirement.revision + 1}}
  else a

theorem advancedIf_eq (a : Aggregate) (advance : Bool) (missing : RequirementError) :
    (if advance ∧ a.requirement.state ≠ transitionIntegrationMrReady a.requiredWorkItemStates then
      a.updateRequirementState a.requirement.revision (transitionIntegrationMrReady a.requiredWorkItemStates) missing
    else pure a) = .ok (a.advancedIf advance) := by
  unfold Aggregate.advancedIf
  dsimp only
  split
  · exact Aggregate.writeRequirement_ok.mpr ⟨⟨rfl,rfl⟩,rfl⟩
  · rfl

variable {row : WorkItem} {workItemId : Uuid} {a : Aggregate}

theorem updateProjection_ok :
    updateProjection a row projection = .ok a' ↔
      (row.integrationDeliveryState = .integrated → projection.deliveryState = .integrated) ∧
      ∃ found, a.workItemById row.id = some found ∧ found.revision = row.revision ∧
        (found.written projection.change).Checks ∧
        (a.replaced row.id (found.written projection.change)).advancedIf projection.advanceRequirement = a' := by
  unfold updateProjection Aggregate.updateWorkItemDelivery
  rw [require_bind_ok,bind_ok]
  refine and_congr_right fun _ => ?_
  simp only [advancedIf_eq,Except.ok.injEq]
  constructor
  · rintro ⟨written,wrote,settled⟩
    obtain ⟨found,there,⟨same,_⟩,checked,rfl⟩ := Aggregate.writeWorkItem_ok.mp wrote
    exact ⟨found,there,same,checked,settled⟩
  · rintro ⟨found,there,same,checked,settled⟩
    exact ⟨_,Aggregate.writeWorkItem_ok.mpr ⟨found,there,⟨same,rfl⟩,checked,rfl⟩,settled⟩

theorem recordCallback_ok {command : WorkItem → Except RequirementError Projection} :
    recordCallback a workItemId expectedRevision command = .ok a' ↔
      ∃ row projection, a.workItemById workItemId = some row ∧ row.revision = expectedRevision ∧
        command row = .ok projection ∧
        (row.integrationDeliveryState = .integrated → projection.deliveryState = .integrated) ∧
        (row.written projection.change).Checks ∧
        (a.replaced workItemId (row.written projection.change)).advancedIf projection.advanceRequirement = a' := by
  unfold recordCallback
  simp only [orRaise_bind_ok,require_bind_ok]
  simp only [bind_ok,updateProjection_ok]
  constructor
  · rintro ⟨row,there,revision,projection,ran,open_,found,again,_,checked,rfl⟩
    cases (KeyedRows.find_some there).2
    cases there.symm.trans again
    exact ⟨row,projection,there,revision,ran,open_,checked,rfl⟩
  · rintro ⟨row,projection,there,revision,ran,open_,checked,rfl⟩
    cases (KeyedRows.find_some there).2
    exact ⟨row,there,revision,projection,ran,open_,row,there,rfl,checked,rfl⟩

theorem advancedIf_deliveryView (a : Aggregate) (advance : Bool) :
    (a.advancedIf advance).deliveryView =
      ⟨if advance then transitionIntegrationMrReady (a.deliveryView.workItems.map WorkItemDeliveryView.state)
        else a.deliveryView.requirement,a.deliveryView.workItems⟩ := by
  have states : a.deliveryView.workItems.map WorkItemDeliveryView.state = a.requiredWorkItemStates := by
    unfold Aggregate.deliveryView Aggregate.requiredWorkItemStates
    rw [List.map_map]
    rfl
  unfold Aggregate.advancedIf
  rw [states]
  cases advance
  · rfl
  · by_cases there : a.requirement.state = transitionIntegrationMrReady a.requiredWorkItemStates
    · simp only [there,ne_eq,not_true_eq_false,and_false,if_false,if_true]
      unfold Aggregate.deliveryView
      rw [there]
    · simp only [there,ne_eq,not_false_eq_true,and_self,if_true]
      rfl

theorem workItemById_replaced {new : WorkItem}
    (found : a.workItemById workItemId = some row) (keyed : new.id = row.id) :
    (a.replaced workItemId new).workItemById workItemId = some new := by
  have same : new.id = workItemId := keyed.trans (KeyedRows.find_some found).2
  unfold Aggregate.workItemById Aggregate.replaced at *
  rw [KeyedRows.find_replace same,if_pos rfl,found]
  rfl

-- What a caller sees of a callback that makes `result` of the row.
def shown (a : Aggregate) (workItemId : Uuid) (row : WorkItem) :
    Except RequirementError Projection → Option DeliveryView
  | .ok projection =>
    if (row.written projection.change).Checks then
      some ((a.replaced workItemId (row.written projection.change)).advancedIf
        projection.advanceRequirement).deliveryView
    else none
  | .error _ => none

theorem shown_some :
    shown a workItemId row result = some view ↔
      ∃ projection, result = .ok projection ∧ (row.written projection.change).Checks ∧
        ((a.replaced workItemId (row.written projection.change)).advancedIf
          projection.advanceRequirement).deliveryView = view := by
  unfold shown
  cases result with
  | error error => simp
  | ok projection => simp

theorem shown_ok (a : Aggregate) (workItemId : Uuid) {projection : Projection}
    (checked : (row.written projection.change).Checks) :
    shown a workItemId row (.ok projection) =
      some ((a.replaced workItemId (row.written projection.change)).advancedIf
        projection.advanceRequirement).deliveryView := if_pos checked

theorem accepted_recordCallback
    (found : a.workItemById workItemId = some row) (open_ : row.integrationDeliveryState ≠ .integrated)
    (command : WorkItem → Except RequirementError Projection) :
    accepted (recordCallback a workItemId row.revision command) = shown a workItemId row (command row) := by
  ext view
  unfold accepted
  simp only [Option.map_eq_some_iff,toOption_some,recordCallback_ok,shown_some]
  constructor
  · rintro ⟨a',⟨row',projection,there,_,ran,_,checked,rfl⟩,rfl⟩
    cases found.symm.trans there
    exact ⟨projection,ran,checked,rfl⟩
  · rintro ⟨projection,ran,checked,rfl⟩
    exact ⟨_,⟨row,projection,found,rfl,ran,fun integrated => absurd integrated open_,checked,rfl⟩,rfl⟩

-- The row a RECONCILIATION_PENDING callback leaves.
def WorkItem.reconciling (row : WorkItem) : WorkItem :=
  row.written (Projection.change ⟨row.state,.reconciliationPending,row.integrationMergeRequestBindingId,none,false⟩)

-- A problem keeps the item's state, and no column check ties its binding.
theorem problem_checks (checked : row.Checks) (bindingId : Option Uuid) (advance : Bool)
    (problem : deliveryState = .blocked ∧ reason ≠ none ∨ deliveryState = .reconciliationPending ∧ reason = none) :
    (row.written (Projection.change ⟨row.state,deliveryState,bindingId,reason,advance⟩)).Checks := by
  obtain ⟨assignment,bound,branch,repositoryBlocked,state,_,_,_,formalUnbound,formalBound,formalBlocked,completion⟩ :=
    checked
  rcases problem with ⟨rfl,reasoned⟩ | ⟨rfl,rfl⟩
  · exact ⟨assignment,bound,branch,repositoryBlocked,state,by simp [WorkItem.written,Projection.change],
      by simp [WorkItem.written,Projection.change],by simpa [WorkItem.written,Projection.change] using reasoned,
      formalUnbound,formalBound,formalBlocked,completion⟩
  · exact ⟨assignment,bound,branch,repositoryBlocked,state,by simp [WorkItem.written,Projection.change],
      by simp [WorkItem.written,Projection.change],by simp [WorkItem.written,Projection.change],
      formalUnbound,formalBound,formalBlocked,completion⟩

theorem drift_checks (checked : row.Checks) (started : row.state = .inProgress) (bindingId : Uuid) :
    (row.written (Projection.change
      ⟨.verifying,.blocked,some bindingId,some .externalMergeDrift,true⟩)).Checks := by
  obtain ⟨assignment,bound,branch,repositoryBlocked,state,_,_,_,formalUnbound,formalBound,formalBlocked,completion⟩ :=
    checked
  have owned : row.assignmentState = .assigned ∧ row.repositoryState = .bound := by
    simpa [started] using state
  have unmerged : row.formalDeliveryState ≠ .merged := fun merged => by cases started.symm.trans (completion merged)
  exact ⟨assignment,bound,branch,repositoryBlocked,.inr (.inr owned),by simp [WorkItem.written,Projection.change],
    by simp [WorkItem.written,Projection.change],by simp [WorkItem.written,Projection.change],
    formalUnbound,formalBound,formalBlocked,fun merged => absurd merged unmerged⟩

theorem awaited_some (waits : TerminalOutcome.awaited state = some kind) :
    kind = .createMr ∧ state = .mrPending ∨ kind = .mergeMr ∧ state = .mergePending := by
  cases state <;> simp_all [TerminalOutcome.awaited]

theorem reconciliationPending_ok
    (found : a.workItemById workItemId = some row) (checked : row.Checks) (waits : TerminalOutcome.awaited row.integrationDeliveryState = some kind) :
    recordIntegrationReconciliationPending a workItemId row.integrationMergeRequestBindingId row.revision =
      .ok (a.replaced workItemId row.reconciling) := by
  have projected : problemProjection .reconciliationPending .reconciliationPending
      row.integrationMergeRequestBindingId row =
      .ok ⟨row.state,.reconciliationPending,row.integrationMergeRequestBindingId,none,false⟩ := by
    have member : row.integrationDeliveryState ∈
        ([.mrPending,.mrOpen,.mergePending,.blocked,.reconciliationPending] : List IntegrationDeliveryState) := by
      rcases awaited_some waits with ⟨_,state⟩ | ⟨_,state⟩ <;> simp [state]
    have own : row.integrationMergeRequestBindingId = none →
        row.integrationMergeRequestBindingId ≠ none →
        firstClosedBinding .reconciliationPending .reconciliationPending row.integrationMergeRequestBindingId row :=
      fun unbound bound => absurd unbound bound
    unfold problemProjection
    dsimp only
    rw [require_bind_ok]
    refine ⟨⟨member,fun _ => rfl,own⟩,?_⟩
    rw [if_neg (by simp)]
    cases row.integrationMergeRequestBindingId <;> rfl
  refine recordCallback_ok.mpr ⟨row,_,found,rfl,projected,?_,
    problem_checks checked _ _ (.inr ⟨rfl,rfl⟩),rfl⟩
  intro integrated
  rcases awaited_some waits with ⟨_,state⟩ | ⟨_,state⟩ <;> cases integrated.symm.trans state

-- Past the pending callback a projection writes the same row but for its revision.
theorem written_reconciling_checks (row : WorkItem) (projection : Projection) :
    (row.reconciling.written projection.change).Checks ↔ (row.written projection.change).Checks := by
  rw [WorkItem.checks_iff,WorkItem.checks_iff]
  rfl

theorem replaced_reconciling_deliveryView (a : Aggregate)
    (keyed : row.id = workItemId) (projection : Projection) :
    ((a.replaced workItemId row.reconciling).replaced workItemId (row.reconciling.written projection.change)).deliveryView =
      (a.replaced workItemId (row.written projection.change)).deliveryView := by
  have keyed' : ∀ other : WorkItem, other.id = workItemId → row.reconciling.id = workItemId := fun _ _ => keyed
  unfold Aggregate.deliveryView Aggregate.replaced
  dsimp only
  rw [KeyedRows.update_update keyed']
  unfold KeyedRows.update
  rw [List.map_map,List.map_map]
  congr 1
  refine List.map_congr_left fun other _ => ?_
  dsimp only [Function.comp]
  split <;> rfl

theorem accepted_recordAfterPending (found : a.workItemById workItemId = some row) (checked : row.Checks)
    (waits : TerminalOutcome.awaited row.integrationDeliveryState = some kind) (outcome : TerminalOutcome) :
    accepted (outcome.recordAfterPending a workItemId row.integrationMergeRequestBindingId row.revision) =
      shown a workItemId row (outcome.projection row.reconciling) := by
  have sequenced : outcome.recordAfterPending a workItemId row.integrationMergeRequestBindingId row.revision =
      recordCallback (a.replaced workItemId row.reconciling) workItemId row.reconciling.revision
        outcome.projection := by
    unfold TerminalOutcome.recordAfterPending
    rw [reconciliationPending_ok found checked waits]
    exact TerminalOutcome.record_eq outcome
  have there : (a.replaced workItemId row.reconciling).workItemById workItemId = some row.reconciling :=
    workItemById_replaced found rfl
  rw [sequenced,accepted_recordCallback there (fun integrated => by cases integrated)]
  ext view
  rw [shown_some,shown_some]
  refine exists_congr fun projection => and_congr_right fun _ => ?_
  rw [written_reconciling_checks,advancedIf_deliveryView,advancedIf_deliveryView,
    replaced_reconciling_deliveryView a (KeyedRows.find_some found).2]

-- The sequence and the terminal callback alone show the same.
def ReconciliationTransparent (a : Aggregate) (workItemId : Uuid) (row : WorkItem) (outcome : TerminalOutcome) : Prop :=
  accepted (outcome.recordAfterPending a workItemId row.integrationMergeRequestBindingId row.revision) =
    accepted (outcome.record a workItemId row.revision)

-- The outcomes of a create request that only MR_PENDING itself lets through,
-- or that it alone takes back to IMPLEMENTING.
def TerminalOutcome.needsMrPending (row : WorkItem) : TerminalOutcome → Prop
  | .ready _ => False
  | .merged _ => False
  | .blocked bindingId reasonCode =>
    bindingId = none ∧ reasonCode = .noDeliveryCommit ∨ bindingId ≠ none ∧ reasonCode = .mrClosed
  | .externalMergeDrift _ => row.state = .inProgress

theorem shown_deliveryView {one two : Projection}
    (found : a.workItemById workItemId = some row)
    (same : ((a.replaced workItemId (row.written one.change)).advancedIf one.advanceRequirement).deliveryView =
      ((a.replaced workItemId (row.written two.change)).advancedIf two.advanceRequirement).deliveryView) :
    (row.written one.change).deliveryView = (row.written two.change).deliveryView := by
  rw [advancedIf_deliveryView,advancedIf_deliveryView] at same
  have lists : (a.replaced workItemId (row.written one.change)).workItems.map WorkItem.deliveryView =
      (a.replaced workItemId (row.written two.change)).workItems.map WorkItem.deliveryView :=
    congrArg DeliveryView.workItems same
  obtain ⟨present,keyed⟩ := KeyedRows.find_some found
  have chosen : (row.written one.change).deliveryView ∈
      (a.replaced workItemId (row.written two.change)).workItems.map WorkItem.deliveryView := by
    rw [←lists]
    exact List.mem_map.mpr ⟨_,List.mem_map.mpr ⟨row,present,if_pos keyed⟩,rfl⟩
  obtain ⟨other,member,view⟩ := List.mem_map.mp chosen
  obtain ⟨old,_,rfl⟩ := List.mem_map.mp member
  split at view
  · exact view.symm
  · rename_i differs
    exact absurd ((congrArg WorkItemDeliveryView.id view).trans keyed) differs

-- What a create request's problem makes of the pending row and of the reconciling one.
theorem problemProjection_pending (state : row.integrationDeliveryState = .mrPending)
    (unbound : row.integrationMergeRequestBindingId = none) (bindingId : Option Uuid)
    (reasonCode : IntegrationDeliveryBlockedReason) :
    problemProjection .blocked reasonCode bindingId row =
      if bindingId = none ∧ reasonCode = .noDeliveryCommit then .ok ⟨.inProgress,.implementing,none,none,false⟩
      else if bindingId = none ∨ reasonCode = .mrClosed then
        .ok ⟨row.state,.blocked,bindingId,some reasonCode,false⟩
      else .error .workItemDeliveryConflict := by
  unfold problemProjection firstClosedBinding
  cases bindingId with
  | none =>
    by_cases missing : reasonCode = .noDeliveryCommit
    · simp [state,unbound,missing,require,bind,Except.bind,pure,Except.pure]
    · simp [state,unbound,missing,require,bind,Except.bind,pure,Except.pure]
  | some bindingId =>
    by_cases closed : reasonCode = .mrClosed
    · simp [state,unbound,closed,require,bind,Except.bind,pure,Except.pure]
    · simp [state,unbound,closed,require,bind,Except.bind]

theorem problemProjection_reconciling (unbound : row.integrationMergeRequestBindingId = none)
    (bindingId : Option Uuid) (reasonCode : IntegrationDeliveryBlockedReason) :
    problemProjection .blocked reasonCode bindingId row.reconciling =
      if bindingId = none then .ok ⟨row.state,.blocked,none,some reasonCode,false⟩
      else .error .workItemDeliveryConflict := by
  unfold problemProjection firstClosedBinding
  cases bindingId <;>
    simp [unbound,WorkItem.reconciling,WorkItem.written,Projection.change,require,bind,Except.bind,pure,Except.pure]

theorem boundTerminalProjection_pending (state : row.integrationDeliveryState = .mrPending)
    (unbound : row.integrationMergeRequestBindingId = none) (bindingId : Uuid) :
    boundTerminalProjection .externalMergeDrift bindingId row =
      if row.state = .inProgress then .ok ⟨.verifying,.blocked,some bindingId,some .externalMergeDrift,true⟩
      else .error .workItemDeliveryConflict := by
  unfold boundTerminalProjection
  by_cases started : row.state = .inProgress <;>
    simp [state,unbound,started,require,bind,Except.bind,pure,Except.pure]

theorem boundTerminalProjection_reconciling (unbound : row.integrationMergeRequestBindingId = none)
    (bindingId : Uuid) :
    boundTerminalProjection .externalMergeDrift bindingId row.reconciling = .error .workItemDeliveryConflict := by
  unfold boundTerminalProjection
  simp [unbound,WorkItem.reconciling,WorkItem.written,Projection.change,require,bind,Except.bind]

-- A merge request's outcomes read neither of the two pending states by name.
theorem projection_mergePending {outcome : TerminalOutcome}
    (state : row.integrationDeliveryState = .mergePending) (answers : outcome.answers .mergeMr) :
    outcome.projection row.reconciling = outcome.projection row := by
  cases outcome with
  | ready bindingId => cases answers
  | blocked bindingId reasonCode =>
    simp [TerminalOutcome.projection,problemProjection,firstClosedBinding,WorkItem.reconciling,WorkItem.written,
      Projection.change,state]
  | merged bindingId =>
    simp [TerminalOutcome.projection,boundTerminalProjection,WorkItem.reconciling,WorkItem.written,
      Projection.change,state]
  | externalMergeDrift bindingId =>
    simp [TerminalOutcome.projection,boundTerminalProjection,WorkItem.reconciling,WorkItem.written,
      Projection.change,state]

-- Every outcome but those three reads the reconciling row as it read the pending one.
theorem projection_reconciling {outcome : TerminalOutcome} (checked : row.Checks)
    (waits : TerminalOutcome.awaited row.integrationDeliveryState = some kind) (answers : outcome.answers kind)
    (elsewhere : ¬(row.integrationDeliveryState = .mrPending ∧ outcome.needsMrPending row)) :
    outcome.projection row.reconciling = outcome.projection row := by
  rcases awaited_some waits with ⟨rfl,state⟩ | ⟨rfl,state⟩
  · have unbound : row.integrationMergeRequestBindingId = none := checked.integrationUnbound (by simp [state])
    have spared : ¬outcome.needsMrPending row := fun needs => elsewhere ⟨state,needs⟩
    cases outcome with
    | ready bindingId =>
      simp [TerminalOutcome.projection,mrReadyProjection,WorkItem.reconciling,WorkItem.written,Projection.change,
        state,unbound]
    | blocked bindingId reasonCode =>
      dsimp only [TerminalOutcome.projection,TerminalOutcome.needsMrPending] at spared ⊢
      rw [problemProjection_pending state unbound,problemProjection_reconciling unbound]
      cases bindingId <;> simp_all
    | merged bindingId => cases answers
    | externalMergeDrift bindingId =>
      dsimp only [TerminalOutcome.projection,TerminalOutcome.needsMrPending] at spared ⊢
      rw [boundTerminalProjection_pending state unbound,boundTerminalProjection_reconciling unbound,if_neg spared]
  · exact projection_mergePending state answers

theorem reconciliationPending_transparent_iff {a : Aggregate} {workItemId : Uuid} {row : WorkItem}
    {kind : DeliveryRequestKind} {outcome : TerminalOutcome} (found : a.workItemById workItemId = some row)
    (checked : row.Checks) (waits : TerminalOutcome.awaited row.integrationDeliveryState = some kind)
    (answers : outcome.answers kind) :
    ReconciliationTransparent a workItemId row outcome ↔
      ¬(row.integrationDeliveryState = .mrPending ∧ outcome.needsMrPending row) := by
  have open_ : row.integrationDeliveryState ≠ .integrated := by
    intro integrated
    rw [integrated] at waits
    cases waits
  unfold ReconciliationTransparent
  rw [accepted_recordAfterPending found checked waits,TerminalOutcome.record_eq,accepted_recordCallback found open_]
  constructor
  · rintro same ⟨state,needs⟩
    have unbound : row.integrationMergeRequestBindingId = none := checked.integrationUnbound (by simp [state])
    cases outcome with
    | ready bindingId => exact needs
    | merged bindingId => exact needs
    | blocked bindingId reasonCode =>
      dsimp only [TerminalOutcome.projection] at same
      rw [problemProjection_pending state unbound,problemProjection_reconciling unbound] at same
      rcases needs with ⟨rfl,rfl⟩ | ⟨bound,rfl⟩
      · have stays := problem_checks checked none false (.inl ⟨rfl,Option.some_ne_none .noDeliveryCommit⟩)
        rw [if_pos rfl,if_pos ⟨rfl,rfl⟩] at same
        obtain ⟨_,ran,_,view⟩ := shown_some.mp (same.symm.trans (shown_ok a workItemId stays))
        cases ran
        cases congrArg WorkItemDeliveryView.deliveryState (shown_deliveryView found view)
      · have stays := problem_checks checked bindingId false (.inl ⟨rfl,Option.some_ne_none .mrClosed⟩)
        rw [if_neg bound,if_neg fun both => bound both.1,if_pos (.inr rfl)] at same
        cases same.trans (shown_ok a workItemId stays)
    | externalMergeDrift bindingId =>
      dsimp only [TerminalOutcome.projection,TerminalOutcome.needsMrPending] at same needs
      rw [boundTerminalProjection_pending state unbound,boundTerminalProjection_reconciling unbound,
        if_pos needs] at same
      cases same.trans (shown_ok a workItemId (drift_checks checked needs bindingId))
  · intro elsewhere
    rw [projection_reconciling checked waits answers elsewhere]

-- One work item whose create request is on its way.
def pendingWorkItem : WorkItem :=
  ⟨2,"creator",some "owner",[],.assigned,.bound,.inProgress,"repository",some "base",some "branch",none,none,
    .mrPending,none,none,.notStarted,none,none,none,3⟩

def pendingDelivery : Aggregate :=
  ⟨⟨1,9,"creator",1,"route",some [],1,"criteria",.inProgress,1,1,"items",none,none,none,5⟩,[pendingWorkItem],
    [],[],[],[],[],[],[],[],[],[],[]⟩

theorem reconciliationPending_transparent_ready :
    ReconciliationTransparent pendingDelivery 2 pendingWorkItem (.ready 7) :=
  (reconciliationPending_transparent_iff rfl (by decide) rfl
    (show TerminalOutcome.answers .createMr (.ready 7) from rfl)).mpr fun both => both.2

-- MR_CLOSED with its binding is turned away once reconciliation is pending, and
-- NO_DELIVERY_COMMIT no longer returns the item to its owner.
theorem reconciliationPending_not_transparent :
    pendingDelivery.workItemById 2 = some pendingWorkItem ∧ pendingWorkItem.Checks ∧
      TerminalOutcome.awaited pendingWorkItem.integrationDeliveryState = some .createMr ∧
      TerminalOutcome.answers .createMr (.blocked (some 7) .mrClosed) ∧
      TerminalOutcome.answers .createMr (.blocked none .noDeliveryCommit) ∧
      ¬ReconciliationTransparent pendingDelivery 2 pendingWorkItem (.blocked (some 7) .mrClosed) ∧
      ¬ReconciliationTransparent pendingDelivery 2 pendingWorkItem (.blocked none .noDeliveryCommit) := by
  refine ⟨rfl,by decide,rfl,by decide,by decide,?_,?_⟩
  · unfold ReconciliationTransparent
    decide +kernel
  · unfold ReconciliationTransparent
    decide +kernel

end EngineeringPlatform.Requirement
