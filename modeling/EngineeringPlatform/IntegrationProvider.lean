import EngineeringPlatform.IntegrationStore
namespace EngineeringPlatform.Integration
open Checked EngineeringPlatform.SourceControl

-- How a conversation with the provider ends early: a settled reason, with the merge
-- request read back if there is one; no settled result; or an error that no clause
-- catches, which ends the processing as a crash does.
inductive ProviderFailure where
  | blocked (reason : SourceControlReason) (readback : Option GitLabMergeRequestSnapshot)
  | unresolved
  | uncaught
  deriving DecidableEq

def rejected (reason : SourceControlReason) : ProviderFailure := .blocked reason none

def hasValidMergeFactShape (snapshot : GitLabMergeRequestSnapshot) : Bool :=
  if snapshot.state = .merged then snapshot.mergeCommitSha ≠ none ∧ snapshot.mergedAt ≠ none
  else snapshot.mergeCommitSha = none ∧ snapshot.mergeUserId = none ∧ snapshot.mergedAt = none

def projectFailure : GitLabError → ProviderFailure
  | .projectPolicyUnsupported => rejected .projectProfileUnsupported
  | .targetBranchNotProtected => rejected .targetBranchNotProtected
  | .branchNotFound => rejected .targetBranchNotFound
  | .accessDenied | .projectNotFound => rejected .repositoryNotAuthorized
  | .providerUnavailable | .resultUnknown => .unresolved
  | _ => .uncaught

-- The clauses around listing, creating and reading one object.
def accessFailure : GitLabError → ProviderFailure
  | .accessDenied | .projectNotFound => rejected .repositoryNotAuthorized
  | .providerUnavailable | .resultUnknown => .unresolved
  | _ => .uncaught

def readbackFailure : GitLabError → ProviderFailure
  | .mergeRequestNotFound | .branchNotFound | .accessDenied | .projectNotFound
  | .providerUnavailable | .resultUnknown => .unresolved
  | _ => .uncaught

def createSourceFailure : GitLabError → ProviderFailure
  | .branchNotFound => rejected .branchBindingMissing
  | .accessDenied => rejected .repositoryNotAuthorized
  | .providerUnavailable | .resultUnknown => .unresolved
  | _ => .uncaught

def readProviderPreflight (profile : GitLabRepositoryProfile) (taskBranch baseCommitSha : String)
    (project : Except GitLabError GitLabProjectDeliveryProfile) (source : Except GitLabError BranchSnapshot) :
    Except ProviderFailure BranchSnapshot := do
  let project ← project.mapError projectFailure
  let source ← source.mapError createSourceFailure
  require (project.projectId = profile.projectId ∧ project.projectPath = profile.projectPath ∧
      project.defaultBranch = profile.defaultBranch ∧ project.mergeMethod = "merge" ∧ source.name = taskBranch)
    (rejected .projectProfileUnsupported)
  require (source.commitSha ≠ baseCommitSha) (rejected .noDeliveryCommit)
  pure source

structure CreateAnswers where
  candidates : Except GitLabError (List GitLabMergeRequestSnapshot)
  created : Except GitLabError GitLabMergeRequestLocator
  readback : Except GitLabError GitLabMergeRequestSnapshot
  source : Except GitLabError BranchSnapshot

def unboundCandidates (bound : List (String × Nat)) (candidates : List GitLabMergeRequestSnapshot) :
    List GitLabMergeRequestSnapshot :=
  candidates.filter fun candidate => (candidate.projectId,candidate.iid) ∉ bound

-- One merge request that no binding holds is adopted; with none, one is created.
def chooseMergeRequest (profile : GitLabRepositoryProfile) (sourceBranch : String)
    (created : Except GitLabError GitLabMergeRequestLocator) :
    List GitLabMergeRequestSnapshot → Except ProviderFailure (Nat × MergeRequestCreationOrigin)
  | [] => do
    let created ← created.mapError accessFailure
    pure (created.iid,.platformCreated)
  | [candidate] => do
    require (candidate.projectId = profile.projectId ∧ candidate.sourceBranch = sourceBranch ∧
      candidate.targetBranch = targetBranch) (rejected .mrConflict)
    pure (candidate.iid,.externalAdopted)
  | _ => .error (rejected .mrConflict)

def proveCreatedOrAdoptedMergeRequest (profile : GitLabRepositoryProfile) (taskBranch : String)
    (bound : List (String × Nat)) (answers : CreateAnswers) :
    Except ProviderFailure (GitLabMergeRequestSnapshot × MergeRequestCreationOrigin) := do
  let candidates ← answers.candidates.mapError accessFailure
  let (iid,origin) ← chooseMergeRequest profile taskBranch answers.created (unboundCandidates bound candidates)
  let readback ← answers.readback.mapError readbackFailure
  let source ← answers.source.mapError readbackFailure
  require (readback.projectId = profile.projectId ∧ readback.iid = iid ∧ readback.sourceBranch = taskBranch ∧
    readback.targetBranch = targetBranch ∧ source.name = taskBranch ∧ readback.headSha = source.commitSha ∧
    readback.state ≠ .locked) .unresolved
  pure (readback,origin)

-- The reconciler asks for the project once more, and looks for a candidate …
def discoverCreateCandidate (profile : GitLabRepositoryProfile) (sourceBranch : String) (bound : List (String × Nat))
    (project : Except GitLabError GitLabProjectDeliveryProfile)
    (candidates : Except GitLabError (List GitLabMergeRequestSnapshot)) :
    Except ProviderFailure (Option GitLabMergeRequestSnapshot) := do
  let project ← project.mapError projectFailure
  let candidates ← candidates.mapError projectFailure
  require (project.projectId = profile.projectId ∧ project.projectPath = profile.projectPath ∧
    project.defaultBranch = "main" ∧ project.mergeMethod = "merge") (rejected .projectProfileUnsupported)
  match unboundCandidates bound candidates with
  | [] => pure none
  | [candidate] => do
    require (candidate.projectId = profile.projectId ∧ candidate.sourceBranch = sourceBranch ∧
      candidate.targetBranch = targetBranch) (rejected .mrConflict)
    pure (some candidate)
  | _ => .error (rejected .mrConflict)

-- … creates the merge request again if there is none …
def retryCreateMergeRequest (profile : GitLabRepositoryProfile) (sourceBranch : String) (workspaceId : Uuid)
    (effect : IntegrationEffect) (context : RequirementBindingContext)
    (created : Except GitLabError GitLabMergeRequestLocator) : Except ProviderFailure Nat := do
  require (context.workItemId = effect.workItemId ∧ context.requirementId = effect.requirementId ∧
    context.workspaceId = workspaceId ∧ context.repositoryId = effect.repositoryId ∧
    context.requirementType ∈ requirementTypePrefixes) (rejected .mrConflict)
  let locator ← created.mapError accessFailure
  require (locator.projectId = profile.projectId ∧ locator.sourceBranch = sourceBranch ∧
    locator.targetBranch = targetBranch) .unresolved
  pure locator.iid

def proveReadbackFailure : GitLabError → ProviderFailure
  | .accessDenied | .projectNotFound => rejected .repositoryNotAuthorized
  | .mergeRequestNotFound | .providerUnavailable | .resultUnknown => .unresolved
  | _ => .uncaught

def proveSourceFailure : GitLabError → ProviderFailure
  | .accessDenied | .projectNotFound => rejected .repositoryNotAuthorized
  | .branchNotFound | .providerUnavailable | .resultUnknown => .unresolved
  | _ => .uncaught

def proveOpenSource (sourceBranch headSha : String) (source : Except GitLabError BranchSnapshot) :
    Except ProviderFailure Unit := do
  let source ← source.mapError proveSourceFailure
  require (source.name = sourceBranch) (rejected .mrConflict)
  require (headSha = source.commitSha) .unresolved

-- … and reads it back. An open one is compared with its source branch.
def proveCreateMergeRequest (profile : GitLabRepositoryProfile) (sourceBranch : String) (iid : Nat)
    (readback : Except GitLabError GitLabMergeRequestSnapshot) (source : Except GitLabError BranchSnapshot) :
    Except ProviderFailure GitLabMergeRequestSnapshot := do
  let snapshot ← readback.mapError proveReadbackFailure
  require (snapshot.projectId = profile.projectId ∧ snapshot.iid = iid ∧ snapshot.sourceBranch = sourceBranch ∧
    snapshot.targetBranch = targetBranch) (rejected .mrConflict)
  require (hasValidMergeFactShape snapshot = true) .unresolved
  require (snapshot.state ≠ .locked) .unresolved
  if snapshot.state = .opened then proveOpenSource sourceBranch snapshot.headSha source else pure ()
  pure snapshot

structure MergeProviderProof where
  source : Option BranchSnapshot
  mergeRequest : GitLabMergeRequestSnapshot
  deriving DecidableEq

def MergeProviderProof.currentHeadSha (proof : MergeProviderProof) : String :=
  match proof.source with
  | some source => source.commitSha
  | none => proof.mergeRequest.headSha

def mergeRequestFailure : GitLabError → ProviderFailure
  | .mergeRequestNotFound => rejected .mrClosed
  | .accessDenied | .projectNotFound => rejected .repositoryNotAuthorized
  | .providerUnavailable | .resultUnknown => .unresolved
  | _ => .uncaught

-- A source branch may be gone once its merge request is merged or closed.
def readSource (mergeRequest : GitLabMergeRequestSnapshot) (source : Except GitLabError BranchSnapshot) :
    Except ProviderFailure (Option BranchSnapshot) :=
  match source with
  | .ok source => .ok (some source)
  | .error .branchNotFound =>
    if mergeRequest.state = .merged ∨ mergeRequest.state = .closed then .ok none
    else .error (rejected .branchBindingMissing)
  | .error error => .error (accessFailure error)

structure MergeAnswers where
  project : Except GitLabError GitLabProjectDeliveryProfile
  mergeRequest : Except GitLabError GitLabMergeRequestSnapshot
  source : Except GitLabError BranchSnapshot

def readMergeProviderProof (profile : GitLabRepositoryProfile) (binding : MergeRequestBinding)
    (answers : MergeAnswers) : Except ProviderFailure MergeProviderProof := do
  let project ← answers.project.mapError projectFailure
  require (project.projectId = profile.projectId ∧ project.projectPath = profile.projectPath ∧
    profile.defaultBranch = "main" ∧ project.defaultBranch = "main" ∧
    project.defaultBranch = profile.defaultBranch ∧ project.mergeMethod = "merge")
    (rejected .projectProfileUnsupported)
  let mergeRequest ← answers.mergeRequest.mapError mergeRequestFailure
  require (mergeRequest.projectId = binding.externalProjectId ∧ mergeRequest.iid = binding.mergeRequestIid ∧
    mergeRequest.sourceBranch = binding.sourceBranch ∧ mergeRequest.targetBranch = targetBranch)
    (rejected .mrConflict)
  require (hasValidMergeFactShape mergeRequest = true) .unresolved
  let source ← readSource mergeRequest answers.source
  require (∀ found ∈ source, found.name = binding.sourceBranch) (rejected .branchBindingMissing)
  require (∀ found ∈ source, mergeRequest.state = .opened → mergeRequest.headSha = found.commitSha)
    (rejected .headShaChanged)
  pure ⟨source,mergeRequest⟩

def providerBlockReason (mergeRequest : GitLabMergeRequestSnapshot) : Option SourceControlReason :=
  match mergeRequest.state with
  | .merged => some .externalMergeDrift
  | .closed => some .mrClosed
  | .locked => some .mrChecksBlocked
  | .opened =>
    if mergeRequest.hasConflicts = true then some .mergeConflict
    else if mergeRequest.detailedMergeStatus ≠ "mergeable" ∨ mergeRequest.blockingDiscussionsResolved = false ∨
        mergeRequest.headPipelineStatus ≠ some "success" then some .mrChecksBlocked
    else none

structure MergeCallAnswers where
  merged : Except GitLabError Unit
  readback : Except GitLabError GitLabMergeRequestSnapshot
  source : Except GitLabError BranchSnapshot

def mergeCallFailure : GitLabError → ProviderFailure
  | .mergeRequestHeadChanged => rejected .headShaChanged
  | .mergeRequestBlocked => rejected .mergeConflict
  | .accessDenied | .projectNotFound => rejected .repositoryNotAuthorized
  | .mergeRequestNotFound => rejected .mrClosed
  | .resultUnknown | .providerUnavailable => .unresolved
  | _ => .uncaught

def mergeReadbackFailure : GitLabError → ProviderFailure
  | .mergeRequestNotFound | .accessDenied | .projectNotFound | .providerUnavailable | .resultUnknown => .unresolved
  | _ => .uncaught

def mergeSourceFailure (readback : GitLabMergeRequestSnapshot) : GitLabError → ProviderFailure
  | .branchNotFound => .blocked .sourceBranchMissingAfterIntegration (some readback)
  | .accessDenied | .projectNotFound | .providerUnavailable | .resultUnknown => .unresolved
  | _ => .uncaught

def mergedCoordinatesValid (binding : MergeRequestBinding) (requestedHeadSha : String)
    (preflight readback : GitLabMergeRequestSnapshot) : Bool :=
  readback.state = .merged ∧ readback.projectId = preflight.projectId ∧ readback.iid = preflight.iid ∧
    readback.sourceBranch = binding.sourceBranch ∧ readback.targetBranch = targetBranch ∧
    readback.headSha = requestedHeadSha ∧ readback.mergeCommitSha ≠ none ∧ readback.mergedAt ≠ none

def mergeExactHead (binding : MergeRequestBinding) (requestedHeadSha : String)
    (preflight : GitLabMergeRequestSnapshot) (answers : MergeCallAnswers) :
    Except ProviderFailure GitLabMergeRequestSnapshot := do
  let _ ← answers.merged.mapError mergeCallFailure
  let readback ← answers.readback.mapError mergeReadbackFailure
  require (mergedCoordinatesValid binding requestedHeadSha preflight readback = true)
    (if readback.headSha ≠ requestedHeadSha then rejected .headShaChanged
      else if readback.state = .closed then rejected .mrClosed else .unresolved)
  let source ← answers.source.mapError (mergeSourceFailure readback)
  require (source.name = binding.sourceBranch ∧ source.commitSha = requestedHeadSha)
    (.blocked .headShaChanged (some readback))
  pure readback

theorem mergeExactHead_ok (proved : mergeExactHead binding requestedHeadSha preflight answers = .ok snapshot) :
    snapshot.state = .merged ∧ snapshot.headSha = requestedHeadSha := by
  unfold mergeExactHead at proved
  obtain ⟨_,_,proved⟩ := bind_ok.mp proved
  obtain ⟨readback,_,proved⟩ := bind_ok.mp proved
  obtain ⟨valid,proved⟩ := require_bind_ok.mp proved
  obtain ⟨source,_,proved⟩ := bind_ok.mp proved
  obtain ⟨_,proved⟩ := require_bind_ok.mp proved
  cases pure_ok.mp proved
  simp only [mergedCoordinatesValid,decide_eq_true_eq] at valid
  exact ⟨valid.1,valid.2.2.2.2.2.1⟩

theorem providerBlockReason_drift (same : providerBlockReason mergeRequest = some .externalMergeDrift) :
    mergeRequest.state = .merged := by
  unfold providerBlockReason at same
  cases state : mergeRequest.state with
  | merged => rfl
  | closed => simp [state] at same
  | locked => simp [state] at same
  | opened =>
    simp only [state] at same
    split at same
    · cases same
    · split at same <;> cases same

end EngineeringPlatform.Integration
