import EngineeringPlatform.IntegrationProvider
namespace EngineeringPlatform.Integration
open Checked EngineeringPlatform.SourceControl

structure Admission where
  context : RequirementDeliveryContext
  bindingContext : RequirementBindingContext
  repositoryProfile : GitLabRepositoryProfile
  branchBindingId : Uuid
  taskBranch : String
  baseCommitSha : String
  deriving DecidableEq

-- What the Requirement module and the eligibility of an actor answer.
structure AdmissionAnswers where
  context : RequirementDeliveryContext
  bindingContext : RequirementBindingContext
  eligible : Bool

def sameContexts (context : RequirementDeliveryContext) (bindingContext : RequirementBindingContext) : Bool :=
  bindingContext.requirementId = context.requirementId ∧ bindingContext.workspaceId = context.workspaceId ∧
    bindingContext.workItemId = context.workItemId ∧
    bindingContext.workItemRevision = context.workItemRevision ∧
    bindingContext.repositoryId = context.repositoryId ∧
    bindingContext.requiredCapabilities = context.requiredCapabilities

-- Sibling commands advance the revision of the requirement; the request fences its
-- work item.
def sameRequest (request : DeliveryRequest) (context : RequirementDeliveryContext) : Bool :=
  context.requirementId = request.requirementId ∧ request.requirementRevision ≤ context.requirementRevision ∧
    context.workItemId = request.workItemId ∧ context.repositoryId = request.repositoryId ∧
    context.workItemRevision = request.workItemRevision ∧ context.requestActorId = request.actorId

def createContextValid (request : DeliveryRequest) (answers : AdmissionAnswers) : Bool :=
  sameRequest request answers.context ∧ answers.context.requirementState = "IN_PROGRESS" ∧
    answers.context.workItemState = "IN_PROGRESS" ∧ answers.context.integrationDeliveryState = "MR_PENDING" ∧
    answers.context.integrationMergeRequestBindingId = none ∧
    sameContexts answers.context answers.bindingContext ∧
    answers.bindingContext.requirementType ∈ requirementTypePrefixes

def repositoryAuthorized (workspaceId : Uuid) (row : WorkspaceRepository) : Bool :=
  row.status = .authorized ∧ row.workspaceId = workspaceId

def branchMatches (context : RequirementDeliveryContext) (branch : RepositoryBranchBinding) : Bool :=
  branch.requirementId = context.requirementId ∧ branch.workspaceId = context.workspaceId ∧
    branch.repositoryId = context.repositoryId ∧ some branch.branchName = context.taskBranch ∧
    some branch.baseCommitSha = context.baseCommitSha

def decideAdmission (request : DeliveryRequest) (branch : Option RepositoryBranchBinding)
    (answers : AdmissionAnswers) (s : IntegrationStore) : Except SourceControlReason Admission := do
  require (answers.context.humanOwnerId = some request.actorId ∧
    answers.bindingContext.assignmentState = "ASSIGNED" ∧
    answers.bindingContext.humanOwnerId = answers.context.humanOwnerId) .ownerMismatch
  require (answers.context.repositoryState = "BOUND") .repositoryNotAuthorized
  let baseCommitSha ← orRaise answers.context.baseCommitSha .branchBindingMissing
  let taskBranch ← orRaise answers.context.taskBranch .branchBindingMissing
  require (answers.eligible = true) .ownerIneligible
  let repository ← orRaise ((s.repositories answers.context.repositoryId).filter
    (repositoryAuthorized answers.context.workspaceId)) .repositoryNotAuthorized
  let branch ← orRaise (branch.filter (branchMatches answers.context)) .branchBindingMissing
  pure ⟨answers.context,answers.bindingContext,repositoryProfile repository,branch.id,taskBranch,baseCommitSha⟩

def readAdmission (request : DeliveryRequest) (branch : Option RepositoryBranchBinding)
    (answers : AdmissionAnswers) (s : IntegrationStore) :
    Except IntegrationError (Except SourceControlReason Admission) := do
  require (createContextValid request answers = true)
    (.sourceControlDependencyUnavailable "Integration MR context is invalid")
  pure (decideAdmission request branch answers s)

def createSubject (workItemId : Uuid) (headSha : String) : EffectSubject := .workItem workItemId headSha
def mergeEffectSubject (bindingId : Uuid) (headSha : String) : EffectSubject := .mergeRequest bindingId headSha

-- The effect of a request, and the head its payload names.
def validatedEffectPayload (effect : IntegrationEffect) (subject : EffectSubject) (requirementId : Uuid)
    (repositoryId fingerprint : String) (branchBindingId workItemId : Uuid) : Option String :=
  match effect.payload with
  | .create branch headSha =>
    if effect.operation = .createIntegrationMr ∧ effect.subject = subject ∧ effect.workItemId = workItemId ∧
        effect.requirementId = requirementId ∧ effect.repositoryId = repositoryId ∧
        effect.requestFingerprint = fingerprint ∧ effect.subject = createSubject workItemId headSha ∧
        branch = branchBindingId then some headSha
    else none
  | .merge _ _ => none

structure MergeAdmission where
  context : RequirementDeliveryContext
  bindingContext : RequirementBindingContext
  repositoryProfile : GitLabRepositoryProfile
  branchBindingId : Uuid
  binding : MergeRequestBinding
  latestObservation : MergeRequestObservation
  blockedReason : Option SourceControlReason
  deriving DecidableEq

structure StoredMergeFacts where
  binding : MergeRequestBinding
  observation : MergeRequestObservation
  effect : Option IntegrationEffect
  deriving DecidableEq

def storedMergeEffect (request : DeliveryRequest) (binding : MergeRequestBinding) :
    List IntegrationEffect → Except IntegrationError (Option IntegrationEffect)
  | [] => .ok none
  | [effect] =>
    match effect.payload with
    | .merge bindingId headSha =>
      if effect.operation = .mergeIntegrationMr ∧ effect.workItemId = request.workItemId ∧
          effect.requirementId = request.requirementId ∧ effect.repositoryId = request.repositoryId ∧
          effect.requestFingerprint = request.payloadHash ∧ bindingId = binding.id ∧
          effect.subject = mergeEffectSubject binding.id headSha then .ok (some effect)
      else .error .effectCollision
    | .create _ _ => .error .effectCollision
  | _ => .error .effectCollision

def readStoredMergeFacts (request : DeliveryRequest) (includeEffect : Bool) (s : IntegrationStore) :
    Except IntegrationError StoredMergeFacts := do
  let bindingId ← orRaise request.integrationMergeRequestBindingId
    (.sourceControlDependencyUnavailable "Integration merge binding is unavailable")
  let effects := if includeEffect then
    s.effectsByFingerprint .mergeIntegrationMr request.workItemId request.payloadHash else []
  let binding ← orRaise (s.bindingById bindingId)
    (.sourceControlDependencyUnavailable "Integration merge facts are unavailable")
  let workItemBinding ← orRaise (s.currentBinding request.workItemId)
    (.sourceControlDependencyUnavailable "Integration merge facts are unavailable")
  let observation ← orRaise (s.latestObservation bindingId)
    (.sourceControlDependencyUnavailable "Integration merge facts are unavailable")
  require (effects.length ≤ 1) .effectCollision
  require (binding = workItemBinding ∧ binding.id = bindingId ∧ binding.workItemId = request.workItemId ∧
    binding.requirementId = request.requirementId ∧ binding.repositoryId = request.repositoryId ∧
    observation.bindingId = binding.id)
    (.sourceControlDependencyUnavailable "Integration merge facts are invalid")
  let effect ← storedMergeEffect request binding effects
  pure ⟨binding,observation,effect⟩

def mergeContextValid (request : DeliveryRequest) (answers : AdmissionAnswers) : Bool :=
  sameRequest request answers.context ∧ answers.context.requirementState = "VERIFYING" ∧
    answers.context.workItemState = "VERIFYING" ∧ answers.context.integrationDeliveryState = "MERGE_PENDING" ∧
    answers.context.integrationMergeRequestBindingId = request.integrationMergeRequestBindingId ∧
    sameContexts answers.context answers.bindingContext

def mergeBlockedReason (answers : AdmissionAnswers) : Option SourceControlReason :=
  if answers.bindingContext.assignmentState ≠ "ASSIGNED" ∨ answers.context.humanOwnerId = none ∨
      answers.bindingContext.humanOwnerId ≠ answers.context.humanOwnerId then some .ownerMismatch
  else if answers.context.repositoryState ≠ "BOUND" then some .repositoryNotAuthorized
  else if answers.eligible = false then some .mergeActorIneligible
  else none

-- The facts an admission to merge was decided on, all read in one connection.
def mergeFactsValid (context : RequirementDeliveryContext) (repository : WorkspaceRepository)
    (branch : RepositoryBranchBinding) (bindingId : Uuid) (binding workItemBinding : MergeRequestBinding)
    (observation : MergeRequestObservation) : Bool :=
  branch.id = binding.branchBindingId ∧ branchMatches context branch ∧ binding.id = bindingId ∧
    workItemBinding = binding ∧ binding.requirementId = context.requirementId ∧
    binding.workspaceId = context.workspaceId ∧ binding.workItemId = context.workItemId ∧
    binding.repositoryId = context.repositoryId ∧ binding.externalProjectId = repository.projectId ∧
    some binding.sourceBranch = context.taskBranch ∧ binding.targetBranch = targetBranch ∧
    observation.bindingId = binding.id ∧ observation.state = .opened

def readMergeAdmission (request : DeliveryRequest) (answers : AdmissionAnswers) (s : IntegrationStore) :
    Except IntegrationError MergeAdmission := do
  require (mergeContextValid request answers = true)
    (.sourceControlDependencyUnavailable "Integration merge context is invalid")
  let bindingId ← orRaise answers.context.integrationMergeRequestBindingId
    (.sourceControlDependencyUnavailable "Integration merge binding is unavailable")
  let repository ← orRaise ((s.repositories answers.context.repositoryId).filter
      (repositoryAuthorized answers.context.workspaceId))
    (.sourceControlDependencyUnavailable "Integration merge facts are unavailable")
  let branch ← orRaise (s.branches answers.context.workItemId)
    (.sourceControlDependencyUnavailable "Integration merge facts are unavailable")
  let binding ← orRaise (s.bindingById bindingId)
    (.sourceControlDependencyUnavailable "Integration merge facts are unavailable")
  let workItemBinding ← orRaise (s.currentBinding answers.context.workItemId)
    (.sourceControlDependencyUnavailable "Integration merge facts are unavailable")
  let observation ← orRaise (s.latestObservation bindingId)
    (.sourceControlDependencyUnavailable "Integration merge facts are unavailable")
  require (mergeFactsValid answers.context repository branch bindingId binding workItemBinding observation = true)
    (.sourceControlDependencyUnavailable "Integration merge facts are invalid")
  pure ⟨answers.context,answers.bindingContext,repositoryProfile repository,branch.id,binding,observation,
    mergeBlockedReason answers⟩

def validatedMergeEffect (effect : IntegrationEffect) (admission : MergeAdmission) (fingerprint : String) :
    Option String :=
  match effect.payload with
  | .merge bindingId headSha =>
    if effect.operation = .mergeIntegrationMr ∧ effect.workItemId = admission.context.workItemId ∧
        effect.requirementId = admission.context.requirementId ∧
        effect.repositoryId = admission.context.repositoryId ∧ effect.requestFingerprint = fingerprint ∧
        bindingId = admission.binding.id ∧ effect.subject = mergeEffectSubject admission.binding.id headSha then
      some headSha
    else none
  | .create _ _ => none

def classifyCurrentMergeEffect (request : DeliveryRequest) (admission : MergeAdmission) (currentHeadSha : String)
    (stored : Option IntegrationEffect) (s : IntegrationStore) :
    Except IntegrationError (Option IntegrationEffect) :=
  let exact := s.effectBySubject .mergeIntegrationMr (mergeEffectSubject admission.binding.id currentHeadSha)
  match stored with
  | none => do
    require (exact = none) .effectCollision
    pure none
  | some effect => do
    let headSha ← orRaise (validatedMergeEffect effect admission request.payloadHash) .effectCollision
    if headSha ≠ currentHeadSha then do
      require (exact = none) .effectCollision
      pure (some effect)
    else do
      let found ← orRaise exact .effectCollision
      require (found.id = effect.id ∧ validatedMergeEffect found admission request.payloadHash = some headSha)
        .effectCollision
      pure (some effect)

structure CreateReconciliationContext where
  headSha : String
  workspaceId : Uuid
  branchBindingId : Uuid
  sourceBranch : String
  profile : GitLabRepositoryProfile
  boundMergeRequests : List (String × Nat)
  deriving DecidableEq

def boundMergeRequests (workItemId : Uuid) (s : IntegrationStore) : List (String × Nat) :=
  (s.bindingsOf workItemId).map fun row => (row.externalProjectId,row.mergeRequestIid)

def readCreateReconciliationContext (effect : IntegrationEffect) (s : IntegrationStore) :
    Except SourceControlReason CreateReconciliationContext := do
  let (branchBindingId,headSha) ← orRaise (match effect.payload with
    | .create branchBindingId headSha => some (branchBindingId,headSha)
    | .merge _ _ => none) .mrConflict
  let branch ← orRaise ((s.branches effect.workItemId).filter fun branch =>
    branch.id = branchBindingId ∧ branch.workItemId = effect.workItemId ∧
      branch.requirementId = effect.requirementId ∧ branch.repositoryId = effect.repositoryId)
    .branchBindingMissing
  let repository ← orRaise ((s.repositories effect.repositoryId).filter fun repository =>
    repositoryAuthorized branch.workspaceId repository && repository.id = effect.repositoryId)
    .repositoryNotAuthorized
  require (repository.defaultBranch = "main") .projectProfileUnsupported
  require (branch.branchName ≠ "" ∧ branch.branchName ≠ targetBranch) .branchBindingMissing
  pure ⟨headSha,branch.workspaceId,branch.id,branch.branchName,repositoryProfile repository,
    boundMergeRequests effect.workItemId s⟩

structure MergeReconciliationContext where
  requestedHeadSha : String
  repositoryProfile : GitLabRepositoryProfile
  binding : MergeRequestBinding
  latestObservation : MergeRequestObservation
  deriving DecidableEq

def readMergeReconciliationContext (effect : IntegrationEffect) (s : IntegrationStore) :
    Except SourceControlReason MergeReconciliationContext := do
  let (bindingId,headSha) ← orRaise (match effect.payload with
    | .merge bindingId headSha =>
      if effect.subject = mergeEffectSubject bindingId headSha then some (bindingId,headSha) else none
    | .create _ _ => none) .mrConflict
  let binding ← orRaise (s.bindingById bindingId) .branchBindingMissing
  let workItemBinding ← orRaise (s.currentBinding effect.workItemId) .branchBindingMissing
  let branch ← orRaise (s.branches effect.workItemId) .branchBindingMissing
  let observation ← orRaise (s.latestObservation bindingId) .branchBindingMissing
  require (binding = workItemBinding ∧ binding.id = bindingId ∧ binding.workItemId = effect.workItemId ∧
    binding.requirementId = effect.requirementId ∧ binding.repositoryId = effect.repositoryId ∧
    binding.branchBindingId = branch.id ∧ binding.sourceBranch = branch.branchName ∧
    binding.targetBranch = targetBranch ∧ observation.bindingId = binding.id) .mrConflict
  let repository ← orRaise ((s.repositories effect.repositoryId).filter fun repository =>
    repositoryAuthorized binding.workspaceId repository && repository.projectId = binding.externalProjectId)
    .repositoryNotAuthorized
  require (repository.defaultBranch = "main") .projectProfileUnsupported
  pure ⟨headSha,repositoryProfile repository,binding,observation⟩

end EngineeringPlatform.Integration
