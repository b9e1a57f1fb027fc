import EngineeringPlatform.RequirementPlanned
import EngineeringPlatform.RequirementWorked
import EngineeringPlatform.RequirementMerged
-- Every reached requirement is consistent.
namespace EngineeringPlatform.Requirement
open Checked

theorem plannedWorkItem_checks (id : Uuid) (actor : String) (owner : Option String) (capabilities : List String)
    (repositoryId : String) : (plannedWorkItem id actor owner capabilities repositoryId).Checks := by
  unfold plannedWorkItem
  refine ⟨?_,?_,?_,?_,.inl rfl,fun _ => rfl,?_,?_,fun _ => rfl,?_,?_,?_⟩
  · cases owner <;> simp
  all_goals simp

theorem createRequirement_consistent (made : createRequirement texts d new = .ok a) : Consistent a := by
  unfold createRequirement at made
  simp only [bind_ok,orRaise_ok,pure_ok] at made
  obtain ⟨assigned,_,rfl⟩ := made
  have single : ∀ row ∈ [plannedWorkItem (d.uuid4 1) new.actor (if assigned then some new.actor else none)
      new.requiredCapabilities new.initialRepositoryId], row = plannedWorkItem (d.uuid4 1) new.actor
        (if assigned then some new.actor else none) new.requiredCapabilities new.initialRepositoryId :=
    fun row member => List.mem_singleton.mp member
  have settled : ∀ row ∈ [plannedWorkItem (d.uuid4 1) new.actor (if assigned then some new.actor else none)
      new.requiredCapabilities new.initialRepositoryId], row.Settled := by
    intro row member
    cases single row member
    exact ⟨rfl,rfl⟩
  refine ⟨⟨?_,?_,?_⟩,Phased.of_settled settled (fun done => by cases done) ?_ (fun selected => by cases selected),
    ⟨List.nodup_nil,List.nodup_nil,fun _ member => by cases member⟩,?_,
    Requested.none fun row member => (settled row member).1⟩
  · exact List.nodup_singleton _
  · intro row member
    cases single row member
    exact plannedWorkItem_checks _ _ _ _ _
  · intro row member started
    cases single row member
    exact absurd rfl started
  · intro _ row member
    cases single row member
    rfl
  · refine Evident.unselected List.nodup_nil (fun _ member => by cases member) rfl (fun _ current => by cases current) ?_
    intro _ member
    cases member

theorem step_consistent (consistent : Consistent a) (step : Step texts a command a') : Consistent a' := by
  obtain ⟨d,ran⟩ := step
  cases command with
  | acknowledgeRepositoryBindingRequest => exact acknowledgeRepositoryBindingRequest_consistent consistent ran
  | startRequirementPreparation => exact startRequirementPreparation_consistent consistent ran
  | recordRepositoryBinding => exact recordRepositoryBinding_consistent consistent ran
  | recordRepositoryBindingBlocked => exact recordRepositoryBindingBlocked_consistent consistent ran
  | addWorkItem => exact addWorkItem_consistent consistent ran
  | assignWorkItem => exact assignWorkItem_consistent consistent ran
  | createSddArtifact => exact createSddArtifact_consistent consistent ran
  | registerSddBaseline => exact registerSddBaseline_consistent consistent ran
  | submitBaselineConfirmation => exact submitBaselineConfirmation_consistent consistent ran
  | reassignBaselineGate => exact reassignBaselineGate_consistent consistent ran
  | decideBaseline => exact decideBaseline_consistent consistent ran
  | startWorkItem => exact startWorkItem_consistent consistent ran
  | requestDelivery => exact requestDelivery_consistent consistent ran
  | recordIntegrationMrReady _ bindingId => exact TerminalOutcome.record_consistent (.ready bindingId) consistent ran
  | recordIntegrationDeliveryBlocked _ bindingId reasonCode =>
    exact TerminalOutcome.record_consistent (.blocked bindingId reasonCode) consistent ran
  | recordIntegrationReconciliationPending => exact recordIntegrationReconciliationPending_consistent consistent ran
  | recordIntegrationMerged _ bindingId => exact TerminalOutcome.record_consistent (.merged bindingId) consistent ran
  | recordExternalMergeDrift _ bindingId =>
    exact TerminalOutcome.record_consistent (.externalMergeDrift bindingId) consistent ran
  | submitExternalValidation => exact submitExternalValidation_consistent consistent ran
  | requestIntegrationBaseline => exact requestIntegrationBaseline_consistent consistent ran
  | selectIntegrationBaseline => exact selectIntegrationBaseline_consistent consistent ran
  | confirmRequirementAcceptance => exact confirmRequirementAcceptance_consistent consistent ran
  | decideRequirementAcceptance => exact decideRequirementAcceptance_consistent consistent ran
  | requestFormalDelivery => exact requestFormalDelivery_consistent consistent ran
  | recordFormalReconciliationPending => exact recordFormalReconciliationPending_consistent consistent ran
  | recordFormalDeliveryBlocked => exact recordFormalDeliveryBlocked_consistent consistent ran
  | recordFormalMrReady => exact recordFormalMrReady_consistent consistent ran
  | recordFormalMerged => exact recordFormalMerged_consistent consistent ran
  | decideFormalReview => exact decideFormalReview_consistent consistent ran
  | reassignDeliveryGate => exact reassignDeliveryGate_consistent consistent ran

theorem reached_consistent (reached : Reached texts a) : Consistent a :=
  reached_induction (fun _ _ _ made => createRequirement_consistent made)
    (fun _ _ _ consistent step => step_consistent consistent step) reached

end EngineeringPlatform.Requirement
