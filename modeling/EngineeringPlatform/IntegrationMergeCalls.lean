import EngineeringPlatform.IntegrationSafety
-- The calls that merge: what their worker read before, and the claim they are made under.
namespace EngineeringPlatform.Integration
open Checked ClaimedRows SharedWorkers EngineeringPlatform.SourceControl TransitionRuns
variable {policy : IntegrationPolicy} {s next : IntegrationStore} {labels : List IntegrationLabel}

-- The merge request that a worker is to merge, as it read it, and the effect it has
-- claimed for that with the head it asks for.
structure Aim where
  binding : MergeRequestBinding
  profile : GitLabRepositoryProfile
  claimed : Option (IntegrationEffect × String)

def MergeWorker.aim : MergeWorker → Option Aim
  | .proving _ admission _ _ | .classifying _ admission _ _ | .acquiring _ admission _ | .starting _ admission _ _ =>
    some ⟨admission.binding,admission.repositoryProfile,none⟩
  | .merging _ admission _ effect headSha => some ⟨admission.binding,admission.repositoryProfile,some (effect,headSha)⟩
  | _ => none

def ReconcileWorker.aim : ReconcileWorker → Option Aim
  | .proving _ context _ | .renewingMerge _ context _ _ => some ⟨context.binding,context.repositoryProfile,none⟩
  | .merging effect context _ _ => some ⟨context.binding,context.repositoryProfile,some (effect,context.requestedHeadSha)⟩
  | _ => none

def IntegrationWorker.aim : IntegrationWorker → Option Aim
  | .merge worker => worker.aim
  | .reconcile worker => worker.aim
  | _ => none

-- The effect in the hands of a worker that is about to claim it.
def IntegrationWorker.planned : IntegrationWorker → Option IntegrationEffect
  | .merge (.starting _ _ _ effect) | .reconcile (.renewingMerge effect _ _ _) => some effect
  | _ => none

-- The claim is live: the row has the attempts of the effect that is held, and is
-- written under them.
def Claims (s next : IntegrationStore) (held effect : IntegrationEffect) : Prop :=
  ∃ row, s.effects held.id = some row ∧ row.attempts = held.attempts ∧
    (row.state = .planned ∨ row.state = .reconciliation) ∧ next.effects held.id = some effect

section Aiming
variable {request : DeliveryRequest} {effect : IntegrationEffect} {rest : List IntegrationEffect}

@[simp] theorem callOutcome_aim : (callOutcome effect subject bindingId).aim = none := by
  unfold callOutcome
  split <;> rfl

@[simp] theorem nextReconciled_aim : (nextReconciled rest).aim = none := by
  cases rest <;> rfl

@[simp] theorem Rest.next_aim (rest : Rest) : rest.next.aim = none := by
  cases rest with
  | done => rfl
  | reconcile => exact nextReconciled_aim
  | deliver => rfl

@[simp] theorem routeCreate_aim : (routeCreate request claimed branch effects now s).2.aim = none := by
  unfold routeCreate
  repeat' split
  all_goals rfl

@[simp] theorem admitCreate_aim : (admitCreate request branch existing answers s).aim = none := by
  unfold admitCreate
  split <;> rfl

@[simp] theorem integrateCreate_aim : (integrateCreate request admission existing source s).aim = none := by
  unfold integrateCreate
  repeat' split
  all_goals rfl

@[simp] theorem resolveCreate_aim : (resolveCreate request effect s).aim = none := by
  unfold resolveCreate
  repeat' split
  all_goals first | exact callOutcome_aim | rfl

@[simp] theorem replayCreate_aim : (replayCreate request s).aim = none := by
  unfold replayCreate
  repeat' split
  all_goals first | exact callOutcome_aim | rfl

@[simp] theorem routeMerge_aim : (routeMerge request claimed s).aim = none := by
  unfold routeMerge
  repeat' split
  all_goals rfl

@[simp] theorem replayMerge_aim : (replayMerge request bindingId effect).aim = none := by
  unfold replayMerge
  repeat' split
  all_goals first | exact callOutcome_aim | rfl

@[simp] theorem resolveMerge_aim : (resolveMerge request admission effect s).aim = none := by
  unfold resolveMerge
  repeat' split
  all_goals first | exact replayMerge_aim | rfl

@[simp] theorem addressCallback_aim {rest : Rest} : (addressCallback effect notice bindingId rest context).aim = none := by
  unfold addressCallback
  repeat' split
  all_goals first | exact Rest.next_aim _ | rfl

end Aiming

end EngineeringPlatform.Integration
