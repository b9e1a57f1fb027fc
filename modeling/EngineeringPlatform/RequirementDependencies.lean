import Mathlib.Data.List.Sort
import EngineeringPlatform.RequirementRepository
namespace EngineeringPlatform.Requirement
open Checked

inductive CurrentnessState where
  | current
  | stale
  | unavailable
  deriving DecidableEq, Repr

structure IntegrationBaselineEvidenceWorkItem where
  workItemId : Uuid
  repositoryId : String
  taskCommitSha : String
  integrationMergeCommitSha : String
  artifactReferences : List ArtifactEvidenceReference
  deriving DecidableEq

structure IntegrationBaselineEvidence where
  id : Uuid
  evidenceHash : String
  deliverySnapshotId : Uuid
  deliverySnapshotHash : String
  requirementId : Uuid
  requirementVersion : Nat
  requiredWorkItemSetVersion : Nat
  requiredWorkItemSetHash : String
  currentnessState : CurrentnessState
  workItems : List IntegrationBaselineEvidenceWorkItem
  deriving DecidableEq

structure ArtifactSnapshot where
  id : String
  version : String
  sha256 : String
  available : Bool
  trustedPlainText : Bool
  mediaType : String
  deriving DecidableEq

structure GatePolicySnapshot where
  version : Nat
  defaultReviewerId : String
  policyCode : String
  snapshotHash : String
  deriving DecidableEq

structure DeliveryGatePolicySnapshot where
  version : Nat
  defaultReviewerId : String
  policyCode : String
  snapshotHash : String
  resolutionSnapshot : ResolutionSnapshot
  deriving DecidableEq

structure ReviewerEligibility where
  eligible : Bool
  actorId : String
  requiredCapabilities : List String
  workspaceId : Uuid
  snapshotHash : String
  deriving DecidableEq

-- What one command is answered by the clock, the random source and the other
-- modules. A port that is not configured is none; a call that raises is none.
structure Dependencies where
  now : Time
  uuid4 : Nat → Uuid
  canAssign : String → String → List String → Option Bool
  canAutoAssign : String → String → List String → Option Bool
  artifacts : Option (String → String → Option ArtifactSnapshot)
  gatePolicies : Option (Option GatePolicySnapshot)
  reviewerGuard : Option (String → Option Bool)
  integrationEvidence : Option (Uuid → Option IntegrationBaselineEvidence)
  deliveryGatePolicies : Option (Option DeliveryGatePolicySnapshot)
  deliveryReviewerGuard : Option (String → List String → Option ReviewerEligibility)
  frozenGateCapabilities : String → DeliveryGateType → Nat → String → Option (List String)

-- Pure functions of the platform: the digests of the canonical JSON of a work
-- item set and of a snapshot, and sanitize_external_reference.
structure Texts where
  workItemSetDigest : List Uuid → String
  canonicalDeliverySnapshotHash : Uuid → Nat → Nat → String → List Uuid → String
  sanitizeExternalReference : String → Option String

-- json.dumps(sorted(work_item_ids)): canonical texts of ids sort as the ids do.
def Texts.requiredWorkItemSetHash (texts : Texts) (workItemIds : List Uuid) : String :=
  texts.workItemSetDigest (workItemIds.insertionSort fun one two => one ≤ two)

def normalizedText (value : String) : Except RequirementError String :=
  if blank value then .error .invalidRequirementInput else .ok (strip value)

def validatedArtifacts (d : Dependencies) (references : List ArtifactEvidenceReference) :
    Except RequirementError PUnit := do
  let artifacts ← orRaise d.artifacts .evidenceUnavailableOrStale
  references.forM fun reference => do
    let snapshot ← orRaise (artifacts reference.artifactId reference.artifactVersion) .evidenceUnavailableOrStale
    require (snapshot.id = reference.artifactId ∧ snapshot.version = reference.artifactVersion ∧
      snapshot.sha256 = reference.artifactHash ∧ snapshot.available) .evidenceUnavailableOrStale

def validateEvidenceArtifacts (d : Dependencies) (evidence : IntegrationBaselineEvidence) :
    Except RequirementError PUnit :=
  evidence.workItems.forM fun item => do
    require (item.artifactReferences ≠ []) .evidenceUnavailableOrStale
    validatedArtifacts d item.artifactReferences

def readEvidence (d : Dependencies) (integrationBaselineId : Uuid) :
    Except RequirementError IntegrationBaselineEvidence := do
  let reader ← orRaise d.integrationEvidence .requirementDependencyUnavailable
  let evidence ← orRaise (reader integrationBaselineId) .evidenceUnavailableOrStale
  require (evidence.currentnessState = .current) .evidenceUnavailableOrStale
  pure evidence

-- The reviewer of an open delivery gate, checked against the gate's frozen policy.
def eligibleReviewer (d : Dependencies) (requirement : RequirementRow) (gate : DeliveryGate)
    (assignment : DeliveryGateAssignment) (actor : String) : Except RequirementError PUnit := do
  let guard ← orRaise d.deliveryReviewerGuard .requirementDependencyUnavailable
  let capabilities ← orRaise
    (d.frozenGateCapabilities assignment.resolutionSnapshot.policy gate.gateType gate.policyVersion
      gate.policySnapshotHash) .requirementDependencyUnavailable
  let eligibility ← orRaise (guard actor capabilities) .requirementDependencyUnavailable
  require (eligibility.eligible ∧ eligibility.workspaceId = requirement.workspaceId ∧
    eligibility.actorId = actor ∧ eligibility.requiredCapabilities = capabilities ∧
    canonicalSha256 eligibility.snapshotHash) .gateReviewerIneligible

end EngineeringPlatform.Requirement
