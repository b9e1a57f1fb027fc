import EngineeringPlatform.RequirementDependencies
namespace EngineeringPlatform.Requirement
open Checked
variable (texts : Texts) (d : Dependencies)

-- _create_requirement_once, past the checks of its texts and of the route.
structure NewRequirement where
  workspaceId : Uuid
  routeSnapshotVersion : Nat
  routeSnapshotHash : String
  requiredCapabilities : List String
  acceptanceCriteriaHash : String
  initialRepositoryId : String
  actor : String

def plannedWorkItem (id : Uuid) (actor : String) (owner : Option String) (capabilities : List String)
    (repositoryId : String) : WorkItem :=
  ⟨id,actor,owner,capabilities,if owner.isSome then .assigned else .unassigned,.waitingRepository,.draft,
    repositoryId,none,none,none,none,.notStarted,none,none,.notStarted,none,none,none,1⟩

def initialAssignment (workItemId : Uuid) (actor reason : String) (owner : Option String) : List WorkItemAssignment :=
  match owner with
  | some assignee => [⟨workItemId,workItemId,assignee,actor,reason,1,none⟩]
  | none => []

def createRequirement (new : NewRequirement) : Except RequirementError Aggregate := do
  let requirementId := d.uuid4 0
  let workItemId := d.uuid4 1
  let assigned ← orRaise (d.canAutoAssign new.actor new.initialRepositoryId new.requiredCapabilities)
    .requirementDependencyUnavailable
  let owner := if assigned then some new.actor else none
  pure {
    requirement := ⟨requirementId,new.workspaceId,new.actor,new.routeSnapshotVersion,new.routeSnapshotHash,
      some new.requiredCapabilities,1,new.acceptanceCriteriaHash,.created,1,1,
      texts.requiredWorkItemSetHash [workItemId],none,none,none,1⟩,
    workItems := [plannedWorkItem workItemId new.actor owner new.requiredCapabilities new.initialRepositoryId],
    assignments := initialAssignment workItemId new.actor "V0.4_INITIAL_ASSIGNMENT" owner,
    baselines := [], gates := [], gateAssignments := [], gateDecisions := [], snapshots := [], selections := [],
    deliveryGates := [], deliveryAssignments := [], decisions := [],
    outbox := [⟨d.uuid4 2,1,.repositoryBinding ⟨workItemId,new.initialRepositoryId⟩,d.now⟩]}

def bindingRequested (a : Aggregate) (chosen : OutboxMessage → Bool) : Bool :=
  a.outbox.any fun message =>
    chosen message && match message.payload with
      | .repositoryBinding _ => true
      | _ => false

def acknowledgeRepositoryBindingRequest (a : Aggregate) (messageId : Uuid) : Except RequirementError Aggregate := do
  require (bindingRequested a fun message => message.id = messageId) .repositoryBindingRequestMissing
  if a.requirement.state = .created then
    a.updateRequirementState a.requirement.revision .preparing .staleRequirementRevision
  else pure a

def startRequirementPreparation (a : Aggregate) (expectedRevision : Nat) : Except RequirementError Aggregate := do
  require (a.requirement.revision = expectedRevision) .staleRequirementRevision
  require (bindingRequested a fun message => message.aggregateVersion = a.requirement.requirementVersion)
    .repositoryBindingRequestMissing
  let target ← transitionRequirement a.requirement.state .preparing
  a.updateRequirementState expectedRevision target .staleRequirementRevision

def recordRepositoryBinding (a : Aggregate) (workItemId : Uuid) (repositoryId baseCommitSha taskBranch : String)
    (expectedRevision : Nat) : Except RequirementError Aggregate := do
  let row ← orRaise (a.workItemById workItemId) .workItemNotFound
  require (row.repositoryId = repositoryId) .repositoryBindingConflict
  let normalizedSha ← normalizedText baseCommitSha
  let normalizedBranch ← normalizedText taskBranch
  if row.repositoryState = .bound then do
    require (row.baseCommitSha = some normalizedSha ∧ row.taskBranch = some normalizedBranch)
      .repositoryBindingConflict
    pure a
  else do
    require (row.revision = expectedRevision) .staleWorkItemRevision
    let state := deriveWorkItemState a.requirement.state row.assignmentState .bound
    a.bindWorkItem workItemId expectedRevision normalizedSha normalizedBranch state .staleWorkItemRevision

def recordRepositoryBindingBlocked (a : Aggregate) (workItemId : Uuid) (repositoryId : String)
    (reasonCode : RepositoryBindingBlockedReason) (expectedRevision : Nat) : Except RequirementError Aggregate := do
  let row ← orRaise (a.workItemById workItemId) .workItemNotFound
  require (row.repositoryId = repositoryId) .repositoryBindingConflict
  require (row.repositoryState ≠ .bound) .repositoryBindingConflict
  if row.repositoryState = .blocked ∧ row.repositoryBlockedReasonCode = some reasonCode then pure a
  else do
    require (row.revision = expectedRevision) .staleWorkItemRevision
    a.blockWorkItem workItemId expectedRevision reasonCode d.now .staleWorkItemRevision

def addWorkItem (a : Aggregate) (repositoryId : String) (expectedRevision : Nat) (actor : String) :
    Except RequirementError Aggregate := do
  require (a.requirement.revision = expectedRevision) .staleRequirementRevision
  require (a.requirement.state = .preparing) .workItemAssignmentConflict
  let stableRepositoryId ← normalizedText repositoryId
  let capabilities ← orRaise a.requirement.routeCapabilities .requirementDependencyUnavailable
  require (capabilities ≠ [] ∧ ∀ value ∈ capabilities, blank value = false) .requirementDependencyUnavailable
  let assigned := (d.canAutoAssign actor stableRepositoryId capabilities).getD false
  let owner := if assigned then some actor else none
  let workItemId := d.uuid4 0
  let a ← a.insertWorkItem (plannedWorkItem workItemId actor owner capabilities stableRepositoryId)
  let a := {a with assignments := a.assignments ++ initialAssignment workItemId actor "V0.4_AUTO_ASSIGNMENT" owner}
  let a ← a.updateRequirementPlan expectedRevision (texts.requiredWorkItemSetHash (a.workItems.map WorkItem.id))
    .staleRequirementRevision
  pure (a.insertOutbox (d.uuid4 1) a.requirement.requirementVersion
    (.repositoryBinding ⟨workItemId,stableRepositoryId⟩) d.now)

def ownerBindingBlock (reason : Option RepositoryBindingBlockedReason) : Bool :=
  reason = some .ownerUnassigned || reason = some .ownerIneligible

def assignWorkItem (a : Aggregate) (workItemId : Uuid) (humanOwnerId reason : String) (expectedRevision : Nat)
    (actor : String) : Except RequirementError Aggregate := do
  require (a.requirement.state = .preparing) .workItemAssignmentConflict
  let row ← orRaise (a.workItemById workItemId) .workItemNotFound
  require (row.revision = expectedRevision) .staleWorkItemRevision
  require (row.integrationDeliveryState = .notStarted) .workItemAssignmentConflict
  let candidateId ← normalizedText humanOwnerId
  let normalizedReason ← normalizedText reason
  let eligible ← orRaise (d.canAssign candidateId row.repositoryId row.requiredCapabilities)
    .requirementDependencyUnavailable
  require eligible .workItemAssigneeIneligible
  let current := a.currentWorkItemAssignment workItemId
  require (current.all fun assignment => assignment.assigneeId ≠ candidateId) .workItemAssignmentConflict
  let ownerBlocked := ownerBindingBlock row.repositoryBlockedReasonCode
  let assigned ← a.assignWorkItemProjection workItemId expectedRevision candidateId
    (if ownerBlocked then .waitingRepository else row.repositoryState)
    (if ownerBlocked then none else row.repositoryBlockedReasonCode)
    (if ownerBlocked then none else row.repositoryBlockedAt) .staleWorkItemRevision
  let superseded := assigned.assignments.map fun assignment =>
    if some assignment = current then {assignment with supersededAt := some d.now} else assignment
  let assignment : WorkItemAssignment :=
    ⟨d.uuid4 0,workItemId,candidateId,actor,normalizedReason,current.elim 1 (fun row => row.revision + 1),none⟩
  let a := {assigned with assignments := superseded ++ [assignment]}
  if row.repositoryState ≠ .bound ∧ (row.assignmentState = .unassigned ∨ ownerBlocked) then
    pure (a.insertOutbox (d.uuid4 1) a.requirement.requirementVersion
      (.repositoryBinding ⟨workItemId,row.repositoryId⟩) d.now)
  else pure a

-- _create_sdd_artifact_once writes its artifact to a table nothing else of this
-- model reads.
def createSddArtifact (a : Aggregate) (expectedRevision : Nat) : Except RequirementError Aggregate := do
  require (a.requirement.revision = expectedRevision) .staleRequirementRevision
  require (a.requirement.state = .preparing) .staleBaselineSubject
  a.updateRequirementState expectedRevision .preparing .staleRequirementRevision

def registerSddBaseline (a : Aggregate) (artifactId artifactVersion : String) (expectedRevision : Nat)
    (actor : String) : Except RequirementError Aggregate := do
  require (a.requirement.revision = expectedRevision) .staleRequirementRevision
  require (a.requirement.state = .preparing) .staleBaselineSubject
  require a.requirement.routeCapabilities.isSome .requirementDependencyUnavailable
  let artifacts ← orRaise d.artifacts .requirementDependencyUnavailable
  let normalizedArtifactId ← normalizedText artifactId
  let normalizedArtifactVersion ← normalizedText artifactVersion
  let snapshot ← orRaise (artifacts normalizedArtifactId normalizedArtifactVersion) .requirementDependencyUnavailable
  require (snapshot.available ∧ snapshot.trustedPlainText ∧ snapshot.mediaType = "text/markdown; charset=utf-8" ∧
    snapshot.id = normalizedArtifactId ∧ snapshot.version = normalizedArtifactVersion ∧
    canonicalSha256 snapshot.sha256) .artifactUnavailable
  match a.sddBaselineByArtifact snapshot.id snapshot.version with
  | some existing => do
    require (existing.artifactHash = snapshot.sha256) .artifactUnavailable
    require (a.requirement.currentSddBaselineId = some existing.id ∧ a.gateByBaselineId existing.id = none)
      .staleBaselineSubject
    pure a
  | none => do
    let baseline : SddBaseline :=
      ⟨d.uuid4 0,a.requirement.requirementVersion,snapshot.id,snapshot.version,snapshot.sha256,
        a.requirement.routeSnapshotVersion,a.requirement.routeSnapshotHash,actor⟩
    let a := {a with baselines := a.baselines ++ [baseline]}
    a.setCurrentSddBaseline expectedRevision baseline.id .staleRequirementRevision

def submitBaselineConfirmation (a : Aggregate) (sddBaselineId : Uuid) (expectedRevision : Nat) :
    Except RequirementError Aggregate := do
  require (a.requirement.revision = expectedRevision) .staleRequirementRevision
  let baseline ← orRaise (a.sddBaselineById sddBaselineId) .sddBaselineNotFound
  require (a.requirement.currentSddBaselineId = some sddBaselineId) .staleBaselineSubject
  require (baseline.requirementVersion = a.requirement.requirementVersion ∧
    baseline.routeSnapshotVersion = a.requirement.routeSnapshotVersion ∧
    baseline.routeSnapshotHash = a.requirement.routeSnapshotHash) .staleBaselineSubject
  require (a.gateByBaselineId sddBaselineId = none) .staleBaselineSubject
  let target ← transitionRequirement a.requirement.state .awaitingConfirmation
  let policies ← orRaise d.gatePolicies .requirementDependencyUnavailable
  let policy ← orRaise policies .requirementDependencyUnavailable
  require (1 ≤ policy.version ∧ blank policy.defaultReviewerId = false ∧ blank policy.policyCode = false ∧
    canonicalSha256 policy.snapshotHash) .requirementDependencyUnavailable
  let gate : GateInstance :=
    ⟨d.uuid4 0,baseline.requirementVersion,sddBaselineId,baseline.artifactId,baseline.artifactVersion,
      baseline.artifactHash,baseline.routeSnapshotVersion,baseline.routeSnapshotHash,policy.policyCode,
      policy.version,policy.snapshotHash,.opened,1⟩
  require (a.gateById gate.id = none) .constraintViolated
  let assignment : GateAssignment :=
    ⟨d.uuid4 1,gate.id,policy.defaultReviewerId,policy.defaultReviewerId,1,none⟩
  let a := {a with gates := a.gates ++ [gate], gateAssignments := a.gateAssignments ++ [assignment]}
  a.updateRequirementState expectedRevision target .staleRequirementRevision

-- UPDATE requirement.gate_instance … WHERE id AND revision AND state='OPEN'
def writeOpenGate (a : Aggregate) (id : Uuid) (expectedRevision : Nat) (change : GateInstance → GateInstance)
    (missing : RequirementError) : Except RequirementError Aggregate := do
  let row ← orRaise (a.gateById id) missing
  require (row.revision = expectedRevision ∧ row.state = .opened) missing
  pure {a with
    gates := KeyedRows.update GateInstance.id a.gates id fun _ => {change row with revision := row.revision + 1}}

def reassignBaselineGate (a : Aggregate) (gateId : Uuid) (reviewerId reason : String) (expectedGateRevision : Nat)
    (actor : String) : Except RequirementError Aggregate := do
  let gate ← orRaise (a.gateById gateId) .gateNotFound
  require (gate.revision = expectedGateRevision) .staleGateRevision
  require (gate.state = .opened) .gateAlreadyDecided
  require a.requirement.routeCapabilities.isSome .requirementDependencyUnavailable
  let current ← orRaise (a.currentGateAssignment gateId) .requirementDependencyUnavailable
  require (current.defaultReviewerId = actor) .gateReviewerMismatch
  let candidateId ← normalizedText reviewerId
  let _ ← normalizedText reason
  require (current.currentReviewerId ≠ candidateId) .gateAssignmentConflict
  let guard ← orRaise d.reviewerGuard .requirementDependencyUnavailable
  let eligible ← orRaise (guard candidateId) .requirementDependencyUnavailable
  require eligible .gateReviewerIneligible
  let superseded := a.gateAssignments.map fun row =>
    if row = current then {row with supersededAt := some d.now} else row
  let assignment : GateAssignment :=
    ⟨d.uuid4 0,gateId,current.defaultReviewerId,candidateId,current.revision + 1,none⟩
  let a := {a with gateAssignments := superseded ++ [assignment]}
  writeOpenGate a gateId expectedGateRevision (fun row => row) .staleGateRevision

def decideBaseline (a : Aggregate) (gateId : Uuid) (outcome : DecisionOutcome) (reason : String)
    (expectedRevision : Nat) (actor : String) : Except RequirementError Aggregate := do
  require (a.requirement.revision = expectedRevision) .staleRequirementRevision
  let gate ← orRaise (a.gateById gateId) .gateNotFound
  require (gate.state = .opened) .gateAlreadyDecided
  require a.requirement.routeCapabilities.isSome .staleBaselineSubject
  let baseline ← orRaise (a.sddBaselineById gate.sddBaselineId) .staleBaselineSubject
  require (a.requirement.currentSddBaselineId = some gate.sddBaselineId ∧
    baseline.requirementVersion = gate.requirementVersion ∧ baseline.artifactId = gate.artifactId ∧
    baseline.artifactVersion = gate.artifactVersion ∧ baseline.artifactHash = gate.artifactHash ∧
    baseline.routeSnapshotVersion = gate.routeSnapshotVersion ∧
    baseline.routeSnapshotHash = gate.routeSnapshotHash ∧
    gate.requirementVersion = a.requirement.requirementVersion ∧
    gate.routeSnapshotVersion = a.requirement.routeSnapshotVersion ∧
    gate.routeSnapshotHash = a.requirement.routeSnapshotHash) .staleBaselineSubject
  let assignment ← orRaise (a.currentGateAssignment gateId) .requirementDependencyUnavailable
  require (assignment.currentReviewerId = actor) .gateReviewerMismatch
  let guard ← orRaise d.reviewerGuard .requirementDependencyUnavailable
  let eligible ← orRaise (guard actor) .requirementDependencyUnavailable
  require eligible .gateReviewerIneligible
  let normalizedReason ← normalizedText reason
  let target ← transitionRequirement a.requirement.state (decisionTarget outcome)
  let a ← a.insertDecision
    ⟨d.uuid4 0,gateId,assignment.id,actor,outcome,normalizedReason,gate.revision,d.now⟩
  let a ← writeOpenGate a gateId gate.revision (fun row => {row with state := .decided}) .gateAlreadyDecided
  let a ← a.updateRequirementState expectedRevision target .staleRequirementRevision
  a.reconcilePlannedWorkItemStates target

end EngineeringPlatform.Requirement
