import EngineeringPlatform.RequirementCommands
import EngineeringPlatform.RequirementDelivery
import EngineeringPlatform.RequirementEvidence
import EngineeringPlatform.RequirementFormal
-- One requirement under every command and callback of the module, each in a
-- transaction of its own. What the clock and the other modules answer may
-- differ from one to the next.
namespace EngineeringPlatform.Requirement
open Checked

inductive Command where
  | acknowledgeRepositoryBindingRequest (messageId : Uuid)
  | startRequirementPreparation (expectedRevision : Nat)
  | recordRepositoryBinding (workItemId : Uuid) (repositoryId baseCommitSha taskBranch : String)
      (expectedRevision : Nat)
  | recordRepositoryBindingBlocked (workItemId : Uuid) (repositoryId : String)
      (reasonCode : RepositoryBindingBlockedReason) (expectedRevision : Nat)
  | addWorkItem (repositoryId : String) (expectedRevision : Nat) (actor : String)
  | assignWorkItem (workItemId : Uuid) (humanOwnerId reason : String) (expectedRevision : Nat) (actor : String)
  | createSddArtifact (expectedRevision : Nat)
  | registerSddBaseline (artifactId artifactVersion : String) (expectedRevision : Nat) (actor : String)
  | submitBaselineConfirmation (sddBaselineId : Uuid) (expectedRevision : Nat)
  | reassignBaselineGate (gateId : Uuid) (reviewerId reason : String) (expectedGateRevision : Nat) (actor : String)
  | decideBaseline (gateId : Uuid) (outcome : DecisionOutcome) (reason : String) (expectedRevision : Nat)
      (actor : String)
  | startWorkItem (workItemId : Uuid) (expectedRevision : Nat) (actor : String)
  | requestDelivery (kind : DeliveryRequestKind) (workItemId : Uuid) (expectedRevision : Nat) (actor : String)
  | recordIntegrationMrReady (workItemId bindingId : Uuid) (expectedRevision : Nat)
  | recordIntegrationDeliveryBlocked (workItemId : Uuid) (bindingId : Option Uuid)
      (reasonCode : IntegrationDeliveryBlockedReason) (expectedRevision : Nat)
  | recordIntegrationReconciliationPending (workItemId : Uuid) (bindingId : Option Uuid) (expectedRevision : Nat)
  | recordIntegrationMerged (workItemId bindingId : Uuid) (expectedRevision : Nat)
  | recordExternalMergeDrift (workItemId bindingId : Uuid) (expectedRevision : Nat)
  | submitExternalValidation (given : ExternalValidation) (expectedRevision : Nat) (actor : String)
  | requestIntegrationBaseline (expectedRevision expectedRequirementVersion : Nat) (actor : String)
  | selectIntegrationBaseline (deliverySnapshotId integrationBaselineId : Uuid)
      (expectedRevision expectedRequirementVersion : Nat) (actor : String)
  | confirmRequirementAcceptance (selectionId : Uuid) (expectedRevision : Nat)
  | decideRequirementAcceptance (gateId : Uuid) (outcome : DecisionOutcome) (reason : String)
      (expectedRevision : Nat) (actor : String)
  | requestFormalDelivery (kind : DeliveryRequestKind) (workItemId : Uuid) (expectedRevision : Nat) (actor : String)
  | recordFormalReconciliationPending (workItemId : Uuid) (bindingId : Option Uuid) (expectedRevision : Nat)
  | recordFormalDeliveryBlocked (workItemId : Uuid) (bindingId : Option Uuid)
      (reasonCode : FormalDeliveryBlockedReason) (expectedRevision : Nat)
  | recordFormalMrReady (workItemId bindingId : Uuid) (headSha : String) (expectedRevision : Nat)
      (assignment : DeliveryGatePolicySnapshot)
  | recordFormalMerged (workItemId bindingId : Uuid) (headSha mergeCommitSha : String) (expectedRevision : Nat)
  | decideFormalReview (gateId : Uuid) (outcome : DecisionOutcome) (reason : String) (expectedRevision : Nat)
      (actor : String)
  | reassignDeliveryGate (gateId : Uuid) (candidateId : String) (expectedGateRevision : Nat) (reason actor : String)

def Command.apply (texts : Texts) (d : Dependencies) (a : Aggregate) : Command → Except RequirementError Aggregate
  | .acknowledgeRepositoryBindingRequest messageId => Requirement.acknowledgeRepositoryBindingRequest a messageId
  | .startRequirementPreparation expectedRevision => Requirement.startRequirementPreparation a expectedRevision
  | .recordRepositoryBinding workItemId repositoryId baseCommitSha taskBranch expectedRevision =>
    Requirement.recordRepositoryBinding a workItemId repositoryId baseCommitSha taskBranch expectedRevision
  | .recordRepositoryBindingBlocked workItemId repositoryId reasonCode expectedRevision =>
    Requirement.recordRepositoryBindingBlocked d a workItemId repositoryId reasonCode expectedRevision
  | .addWorkItem repositoryId expectedRevision actor =>
    Requirement.addWorkItem texts d a repositoryId expectedRevision actor
  | .assignWorkItem workItemId humanOwnerId reason expectedRevision actor =>
    Requirement.assignWorkItem d a workItemId humanOwnerId reason expectedRevision actor
  | .createSddArtifact expectedRevision => Requirement.createSddArtifact a expectedRevision
  | .registerSddBaseline artifactId artifactVersion expectedRevision actor =>
    Requirement.registerSddBaseline d a artifactId artifactVersion expectedRevision actor
  | .submitBaselineConfirmation sddBaselineId expectedRevision =>
    Requirement.submitBaselineConfirmation d a sddBaselineId expectedRevision
  | .reassignBaselineGate gateId reviewerId reason expectedGateRevision actor =>
    Requirement.reassignBaselineGate d a gateId reviewerId reason expectedGateRevision actor
  | .decideBaseline gateId outcome reason expectedRevision actor =>
    Requirement.decideBaseline d a gateId outcome reason expectedRevision actor
  | .startWorkItem workItemId expectedRevision actor =>
    Requirement.startWorkItem a workItemId expectedRevision actor
  | .requestDelivery kind workItemId expectedRevision actor =>
    Requirement.requestDelivery d kind a workItemId expectedRevision actor
  | .recordIntegrationMrReady workItemId bindingId expectedRevision =>
    Requirement.recordIntegrationMrReady a workItemId bindingId expectedRevision
  | .recordIntegrationDeliveryBlocked workItemId bindingId reasonCode expectedRevision =>
    Requirement.recordIntegrationDeliveryBlocked a workItemId bindingId reasonCode expectedRevision
  | .recordIntegrationReconciliationPending workItemId bindingId expectedRevision =>
    Requirement.recordIntegrationReconciliationPending a workItemId bindingId expectedRevision
  | .recordIntegrationMerged workItemId bindingId expectedRevision =>
    Requirement.recordIntegrationMerged a workItemId bindingId expectedRevision
  | .recordExternalMergeDrift workItemId bindingId expectedRevision =>
    Requirement.recordExternalMergeDrift a workItemId bindingId expectedRevision
  | .submitExternalValidation given expectedRevision actor =>
    Requirement.submitExternalValidation texts d a given expectedRevision actor
  | .requestIntegrationBaseline expectedRevision expectedRequirementVersion actor =>
    Requirement.requestIntegrationBaseline texts d a expectedRevision expectedRequirementVersion actor
  | .selectIntegrationBaseline deliverySnapshotId integrationBaselineId expectedRevision expectedRequirementVersion
      actor =>
    Requirement.selectIntegrationBaseline d a deliverySnapshotId integrationBaselineId expectedRevision
      expectedRequirementVersion actor
  | .confirmRequirementAcceptance selectionId expectedRevision =>
    Requirement.confirmRequirementAcceptance d a selectionId expectedRevision
  | .decideRequirementAcceptance gateId outcome reason expectedRevision actor =>
    Requirement.decideRequirementAcceptance d a gateId outcome reason expectedRevision actor
  | .requestFormalDelivery kind workItemId expectedRevision actor =>
    Requirement.requestFormalDelivery d kind a workItemId expectedRevision actor
  | .recordFormalReconciliationPending workItemId bindingId expectedRevision =>
    Requirement.recordFormalReconciliationPending d a workItemId bindingId expectedRevision
  | .recordFormalDeliveryBlocked workItemId bindingId reasonCode expectedRevision =>
    Requirement.recordFormalDeliveryBlocked d a workItemId bindingId reasonCode expectedRevision
  | .recordFormalMrReady workItemId bindingId headSha expectedRevision assignment =>
    Requirement.recordFormalMrReady d a workItemId bindingId headSha expectedRevision assignment
  | .recordFormalMerged workItemId bindingId headSha mergeCommitSha expectedRevision =>
    Requirement.recordFormalMerged d a workItemId bindingId headSha mergeCommitSha expectedRevision
  | .decideFormalReview gateId outcome reason expectedRevision actor =>
    Requirement.decideFormalReview d a gateId outcome reason expectedRevision actor
  | .reassignDeliveryGate gateId candidateId expectedGateRevision reason actor =>
    Requirement.reassignDeliveryGate d a gateId candidateId expectedGateRevision reason actor

def Step (texts : Texts) (a : Aggregate) (command : Command) (a' : Aggregate) : Prop :=
  ∃ d, command.apply texts d a = .ok a'

inductive Runs (texts : Texts) (a : Aggregate) : Aggregate → Prop where
  | here : Runs texts a a
  | step : Runs texts a a' → Step texts a' command a'' → Runs texts a a''

def Reached (texts : Texts) (a : Aggregate) : Prop :=
  ∃ d new created, createRequirement texts d new = .ok created ∧ Runs texts created a

theorem Runs.trans (one : Runs texts a a') (two : Runs texts a' a'') : Runs texts a a'' := by
  induction two with
  | here => exact one
  | step _ step ih => exact .step ih step

theorem Reached.step (reached : Reached texts a) (step : Step texts a command a') : Reached texts a' := by
  obtain ⟨d,new,created,made,runs⟩ := reached
  exact ⟨d,new,created,made,.step runs step⟩

theorem Reached.runs (reached : Reached texts a) (runs : Runs texts a a') : Reached texts a' := by
  obtain ⟨d,new,created,made,before⟩ := reached
  exact ⟨d,new,created,made,before.trans runs⟩

-- What holds of a new requirement and survives every command holds of every
-- reached one.
theorem reached_induction {holds : Aggregate → Prop}
    (creates : ∀ d new created, createRequirement texts d new = .ok created → holds created)
    (preserves : ∀ a command a', holds a → Step texts a command a' → holds a')
    (reached : Reached texts a) : holds a := by
  obtain ⟨d,new,created,made,runs⟩ := reached
  induction runs with
  | here => exact creates d new created made
  | step _ step ih => exact preserves _ _ _ ih step

-- Two work items delivered in step, every port answering as asked.
namespace Rehearsal

def digest : String := "sha256:" ++ String.ofList (List.replicate 64 '0')

def sha : String := String.ofList (List.replicate 40 '0')

def texts : Texts := ⟨fun _ => digest,fun _ _ _ _ _ => digest,some⟩

def policy : DeliveryGatePolicySnapshot := ⟨1,"ana","review",digest,⟨"policy",none⟩⟩

def evidence : IntegrationBaselineEvidence :=
  ⟨7,digest,180,digest,0,2,2,digest,.current,
    [⟨1,"core",sha,sha,[⟨"report","1",digest⟩]⟩,⟨20,"core",sha,sha,[⟨"report","1",digest⟩]⟩]⟩

def dependencies (step : Nat) : Dependencies where
  now := step
  uuid4 k := 10 * step + k
  canAssign _ _ _ := some true
  canAutoAssign _ _ _ := some true
  artifacts := some fun id version => some ⟨id,version,digest,true,true,"text/markdown; charset=utf-8"⟩
  gatePolicies := some (some ⟨1,"ana","review",digest⟩)
  reviewerGuard := some fun _ => some true
  integrationEvidence := some fun _ => some evidence
  deliveryGatePolicies := some (some policy)
  deliveryReviewerGuard := some fun actor capabilities => some ⟨true,actor,capabilities,0,digest⟩
  frozenGateCapabilities _ _ _ _ := some []

-- Each command reads its revisions off the requirement it runs on.
def replay : List (Aggregate → Command) → Nat → Aggregate → Except RequirementError Aggregate
  | [],_,a => .ok a
  | command :: rest,step,a => do
    let a ← (command a).apply texts (dependencies step) a
    replay rest (step + 1) a

def rehearse (script : List (Aggregate → Command)) : Except RequirementError Aggregate := do
  let a ← createRequirement texts (dependencies 0) ⟨0,1,digest,["deliver"],digest,"core","ana"⟩
  replay script 1 a

theorem replay_runs (ran : replay script step a = .ok a') : Runs texts a a' := by
  suffices all : ∀ {origin : Aggregate}, Runs texts origin a → Runs texts origin a' from all .here
  induction script generalizing step a with
  | nil =>
    cases ran
    exact fun before => before
  | cons command rest ih =>
    unfold replay at ran
    obtain ⟨middle,first,ran⟩ := bind_ok.mp ran
    exact fun before => ih ran (.step before ⟨dependencies step,first⟩)

theorem rehearsed (script : List (Aggregate → Command)) (holds : Aggregate → Bool)
    (ran : (rehearse script).toOption.any holds = true) :
    ∃ a, Reached texts a ∧ holds a = true := by
  cases finished : rehearse script with
  | error raised =>
    rw [finished] at ran
    cases ran
  | ok a =>
    rw [finished] at ran
    obtain ⟨created,made,replayed⟩ := bind_ok.mp finished
    exact ⟨a,⟨_,_,created,made,replay_runs replayed⟩,ran⟩

def revisionOf (a : Aggregate) (workItemId : Uuid) : Nat := (a.workItemById workItemId).elim 0 WorkItem.revision

def planned : List (Aggregate → Command) := [
  fun _ => .acknowledgeRepositoryBindingRequest 2,
  fun a => .addWorkItem "core" a.requirement.revision "ana",
  fun a => .recordRepositoryBinding 1 "core" sha "task" (revisionOf a 1),
  fun a => .recordRepositoryBinding 20 "core" sha "task" (revisionOf a 20),
  fun a => .registerSddBaseline "plan" "1" a.requirement.revision "ana",
  fun a => .submitBaselineConfirmation 50 a.requirement.revision,
  fun a => .decideBaseline 60 .approved "fine" a.requirement.revision "ana"]

def requested : List (Aggregate → Command) := planned ++ [
  fun a => .startWorkItem 1 a.requirement.revision "ana",
  fun a => .startWorkItem 20 a.requirement.revision "ana",
  fun a => .requestDelivery .createMr 1 a.requirement.revision "ana",
  fun a => .requestDelivery .createMr 20 a.requirement.revision "ana",
  fun a => .recordIntegrationMrReady 1 5 (revisionOf a 1),
  fun a => .recordIntegrationMrReady 20 6 (revisionOf a 20),
  fun a => .requestDelivery .mergeMr 1 a.requirement.revision "ana",
  fun a => .requestDelivery .mergeMr 20 a.requirement.revision "ana",
  fun a => .recordIntegrationMerged 1 5 (revisionOf a 1),
  fun a => .recordIntegrationMerged 20 6 (revisionOf a 20),
  fun a => .requestIntegrationBaseline a.requirement.revision a.requirement.requirementVersion "ana",
  fun a => .selectIntegrationBaseline 180 7 a.requirement.revision a.requirement.requirementVersion "ana",
  fun a => .confirmRequirementAcceptance 190 a.requirement.revision,
  fun a => .decideRequirementAcceptance 200 .approved "fine" a.requirement.revision "ana",
  fun a => .requestFormalDelivery .createMr 1 a.requirement.revision "ana",
  fun a => .requestFormalDelivery .createMr 20 a.requirement.revision "ana"]

def drifted : List (Aggregate → Command) := requested ++ [
  fun a => .recordFormalDeliveryBlocked 1 none .externalMergeDrift (revisionOf a 1)]

def merged : List (Aggregate → Command) := requested ++ [
  fun a => .recordFormalMrReady 1 8 sha (revisionOf a 1) policy,
  fun a => .recordFormalMrReady 20 9 sha (revisionOf a 20) policy,
  fun a => .decideFormalReview 240 .approved "fine" a.requirement.revision "ana",
  fun a => .decideFormalReview 250 .approved "fine" a.requirement.revision "ana",
  fun a => .requestFormalDelivery .mergeMr 1 a.requirement.revision "ana",
  fun a => .requestFormalDelivery .mergeMr 20 a.requirement.revision "ana",
  fun a => .recordFormalMerged 1 8 sha sha (revisionOf a 1),
  fun a => .recordFormalMerged 20 9 sha sha (revisionOf a 20)]

end Rehearsal

end EngineeringPlatform.Requirement
