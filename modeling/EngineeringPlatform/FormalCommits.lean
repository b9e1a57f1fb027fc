import EngineeringPlatform.FormalStore
import EngineeringPlatform.RowLocks
-- The transactions that commit what the provider proved about a formal merge request.
namespace EngineeringPlatform.FormalDelivery
open Checked EngineeringPlatform.SourceControl RowLocks
open Integration (GitLabMergeRequestSnapshot MergeRequestCreationOrigin MergeRequestBinding MergeRequestObservation)

-- The effect a commit ends, as it was claimed, and the inbox row of the request it
-- was claimed for. A reconciliation has no inbox row.
structure CommitLease where
  effectId : Uuid
  effectAttempts : Nat
  expectedState : EffectState
  message : Option (Uuid × Option Nat)
  now : Time
  deriving DecidableEq

structure CommitCreate where
  lease : CommitLease
  admission : FormalDeliveryAdmission
  snapshot : GitLabMergeRequestSnapshot
  routing : FormalReviewRoutingSnapshot
  branchBindingId : Uuid
  creationOrigin : MergeRequestCreationOrigin
  bindingId : Uuid
  observationId : Uuid
  assignmentId : Uuid
  deriving DecidableEq

structure CommitMerge where
  lease : CommitLease
  bindingId : Uuid
  snapshot : GitLabMergeRequestSnapshot
  observationId : Uuid
  deriving DecidableEq

inductive FormalCommit where
  | create (commit : CommitCreate)
  | merge (commit : CommitMerge)
  deriving DecidableEq

-- What a commit answers with: its binding, and the observation and the assignment it
-- goes on with.
structure FormalFacts where
  bindingId : Uuid
  observation : MergeRequestObservation
  assignment : Option FormalReviewAssignment
  deriving DecidableEq

def formalBinding (commit : CommitCreate) : MergeRequestBinding where
  id := commit.bindingId
  workItemId := commit.admission.workItemId
  requirementId := commit.admission.requirementId
  workspaceId := commit.admission.workspaceId
  repositoryId := commit.admission.repositoryId
  branchBindingId := commit.branchBindingId
  externalProjectId := commit.snapshot.projectId
  mergeRequestIid := commit.snapshot.iid
  sourceBranch := commit.snapshot.sourceBranch
  targetBranch := "main"
  createEffectId := commit.lease.effectId
  headSha := commit.snapshot.headSha
  creationOrigin := commit.creationOrigin
  createdAt := commit.lease.now

def ensureBinding (commit : CommitCreate) (found : Option MergeRequestBinding) (s : FormalStore) :
    Except FormalError (FormalStore × MergeRequestBinding) :=
  match found with
  | some binding => pure (s,binding)
  | none => do
    require (commit.admission.formalMergeRequestBindingId = none)
      (.formalDeliveryConflict "Formal MR Binding is unavailable")
    let s ← insertMergeRequestBinding (formalBinding commit) s
    pure (s,formalBinding commit)

def bindingAgrees (commit : CommitCreate) (created : Bool) (binding : MergeRequestBinding) : Bool :=
  binding.workItemId = commit.admission.workItemId ∧ binding.requirementId = commit.admission.requirementId ∧
    binding.workspaceId = commit.admission.workspaceId ∧ binding.repositoryId = commit.admission.repositoryId ∧
    binding.branchBindingId = commit.branchBindingId ∧ binding.externalProjectId = commit.snapshot.projectId ∧
    binding.sourceBranch = commit.admission.taskBranch ∧ binding.targetBranch = "main" ∧
    binding.mergeRequestIid = commit.snapshot.iid ∧
    (created = true → binding.createEffectId = commit.lease.effectId ∧ binding.headSha = commit.admission.requestedHeadSha) ∧
    (created = false → commit.admission.formalMergeRequestBindingId = some binding.id)

def assignmentMatchesCycle (commit : CommitCreate) (assignment : FormalReviewAssignment) : Bool :=
  assignment.acceptanceDecisionId = commit.admission.acceptanceDecisionId ∧
    assignment.subjectHeadSha = commit.snapshot.headSha ∧
    assignment.defaultReviewerId = commit.routing.defaultReviewerId ∧
    assignment.currentReviewerId = commit.routing.defaultReviewerId ∧
    assignment.policyCode = commit.routing.policyCode ∧ assignment.policyVersion = commit.routing.policyVersion ∧
    assignment.policySnapshotHash = commit.routing.policySnapshotHash ∧
    assignment.resolutionSnapshot = commit.routing.resolutionSnapshot

def assignmentRow (commit : CommitCreate) (bindingId : Uuid) (revision : Nat) : FormalReviewAssignment where
  id := commit.assignmentId
  bindingId := bindingId
  acceptanceDecisionId := commit.admission.acceptanceDecisionId
  requirementId := commit.admission.requirementId
  workItemId := commit.admission.workItemId
  subjectHeadSha := commit.snapshot.headSha
  defaultReviewerId := commit.routing.defaultReviewerId
  currentReviewerId := commit.routing.defaultReviewerId
  policyCode := commit.routing.policyCode
  policyVersion := commit.routing.policyVersion
  policySnapshotHash := commit.routing.policySnapshotHash
  resolutionSnapshot := commit.routing.resolutionSnapshot
  revision := revision
  assignedAt := commit.lease.now

def assign (commit : CommitCreate) (bindingId : Uuid) (revision : Nat) (s : FormalStore) :
    Except FormalError (FormalStore × FormalReviewAssignment) := do
  let s ← insertFormalReviewAssignment (assignmentRow commit bindingId revision) s
  pure (s,assignmentRow commit bindingId revision)

-- The assignment of this acceptance: the current one, or one that follows it.
def ensureAssignment (commit : CommitCreate) (bindingId : Uuid) (current : Option FormalReviewAssignment)
    (s : FormalStore) : Except FormalError (FormalStore × FormalReviewAssignment) :=
  match current with
  | none => assign commit bindingId 1 s
  | some assignment => do
    require (assignment.acceptanceDecisionId = commit.admission.acceptanceDecisionId →
        assignmentMatchesCycle commit assignment = true)
      (.formalDeliveryConflict "Formal Review acceptance cycle conflicts")
    if assignmentMatchesCycle commit assignment = true then pure (s,assignment)
    else do
      let s ← supersedeFormalReviewAssignment assignment.id assignment.revision commit.lease.now s
      assign commit bindingId (assignment.revision + 1) s

def FormalEffect.succeed (now : Time) (row : FormalEffect) : FormalEffect :=
  {row with
    state := .succeeded, callbackState := .pending, lastErrorCode := none, nextReconcileAt := none
    completedAt := some now, updatedAt := now}

-- The observation a commit goes on with: the one it appended, or else the latest.
def observed (digest : Digest) (id bindingId : Uuid) (snapshot : GitLabMergeRequestSnapshot) (now : Time)
    (s : FormalStore) : Except FormalError (FormalStore × Option MergeRequestObservation) := do
  let (s,appended) ← appendMergeRequestObservation (observationRow digest id bindingId snapshot now) s
  pure (s,appended.or (s.latestMergeRequestObservation bindingId))

-- `_complete_request`
def completeRequest (lease : CommitLease) (s : FormalStore) : Except FormalError FormalStore :=
  match lease.message with
  | none => pure s
  | some (messageId,attempts) => do
    let attempts ← orRaise attempts (.requirementCallbackUnavailable "Formal Delivery inbox lease was lost")
    completeFormalRequest messageId attempts lease.now s

def settle (lease : CommitLease) (lost : String) (observation : Option MergeRequestObservation) (s : FormalStore) :
    Except FormalError (FormalStore × MergeRequestObservation) := do
  let (s,_) ← orRaise (transitionEffect lease.effectId lease.expectedState lease.effectAttempts
    (FormalEffect.succeed lease.now) s) (.requirementCallbackUnavailable lost)
  let observation ← orRaise observation (.requirementCallbackUnavailable lost)
  let s ← completeRequest lease s
  pure (s,observation)

-- `found` and `current` are what the transaction read of its binding and of the
-- current assignment, which it has locked.
def commitCreate (digest : Digest) (commit : CommitCreate) (found : Option MergeRequestBinding)
    (current : Option FormalReviewAssignment) (s : FormalStore) : Except FormalError (FormalStore × FormalFacts) := do
  let (s,binding) ← ensureBinding commit found s
  require (bindingAgrees commit found.isNone binding = true) (.formalDeliveryConflict "Formal MR Binding conflicts")
  let (s,observation) ← observed digest commit.observationId binding.id commit.snapshot commit.lease.now s
  let (s,assignment) ← ensureAssignment commit binding.id current s
  let (s,observation) ← settle commit.lease "Formal MR fact commit was lost" observation s
  pure (s,⟨binding.id,observation,some assignment⟩)

def commitMerge (digest : Digest) (commit : CommitMerge) (s : FormalStore) :
    Except FormalError (FormalStore × FormalFacts) := do
  let (s,observation) ← observed digest commit.observationId commit.bindingId commit.snapshot commit.lease.now s
  let (s,observation) ← settle commit.lease "Formal merge fact commit was lost" observation s
  pure (s,⟨commit.bindingId,observation,none⟩)

abbrev FormalTransaction := Transaction FormalStore Uuid (Body FormalStore FormalError FormalFacts)

-- SELECT … FOR UPDATE of the current assignment: a row that was superseded while the
-- lock was waited for is not returned.
def lockCurrentAssignment (bindingId : Uuid) : Transaction FormalStore Uuid (Option FormalReviewAssignment) := do
  match ← see fun s => s.currentFormalReviewAssignment bindingId with
  | none => pure none
  | some row =>
    acquire row.id
    see fun s => s.assignments.find? fun other => other.id = row.id ∧ other.bindingId = bindingId ∧ other.supersededAt = none

def createTransaction (digest : Digest) (commit : CommitCreate) : FormalTransaction := do
  let found ← see fun s => s.formalBindingByWorkItem commit.admission.workItemId
  let current ← lockCurrentAssignment ((found.map (·.id)).getD commit.bindingId)
  pure (commitCreate digest commit found current)

def formalTransaction (digest : Digest) : FormalCommit → FormalTransaction
  | .create commit => createTransaction digest commit
  | .merge commit => pure (commitMerge digest commit)

-- Everything else moves effects and inbox rows only.
structure Elsewhere where
  inbox : Table Uuid FormalRequest
  effects : Table Uuid FormalEffect

def formalProgram (digest : Digest) : Program FormalStore Uuid FormalCommit FormalFacts FormalError Elsewhere where
  transaction := formalTransaction digest
  elsewhere s event := some {s with inbox := event.inbox, effects := event.effects}

variable {s next : FormalStore}

theorem insertMergeRequestBinding_ok (ran : insertMergeRequestBinding row s = .ok next) :
    (∀ other ∈ s.bindings, other.supersededAt = none → other.workItemId ≠ row.workItemId) ∧
      next = {s with bindings := s.bindings ++ [row]} := by
  simp only [insertMergeRequestBinding,require_bind_ok,pure_ok] at ran
  obtain ⟨_,_,_,fresh,_,rfl⟩ := ran
  exact ⟨fresh,rfl⟩

-- A binding that was found is taken as it is, and none is found of a work item that gets one.
theorem ensureBinding_ok (ran : ensureBinding commit found s = .ok (next,binding)) :
    found = some binding ∧ next = s ∨
      found = none ∧ binding = formalBinding commit ∧
        (∀ other ∈ s.bindings, other.supersededAt = none → other.workItemId ≠ commit.admission.workItemId) ∧
        next = {s with bindings := s.bindings ++ [formalBinding commit]} := by
  cases found with
  | some found =>
    cases pure_ok.mp ran
    exact .inl ⟨rfl,rfl⟩
  | none =>
    obtain ⟨_,ran⟩ := require_bind_ok.mp ran
    obtain ⟨after,inserted,ran⟩ := bind_ok.mp ran
    cases pure_ok.mp ran
    obtain ⟨fresh,rfl⟩ := insertMergeRequestBinding_ok inserted
    exact .inr ⟨rfl,rfl,fresh,rfl⟩

theorem ensureBinding_keeps (ran : ensureBinding commit found s = .ok (next,binding)) :
    binding.id = (found.map (·.id)).getD commit.bindingId ∧ next.observations = s.observations ∧
      next.assignments = s.assignments := by
  rcases ensureBinding_ok ran with ⟨rfl,rfl⟩ | ⟨rfl,rfl,_,rfl⟩
  · exact ⟨rfl,rfl,rfl⟩
  · exact ⟨rfl,rfl,rfl⟩

-- Whether the binding has an observation of this digest already.
def Seen (s : FormalStore) (bindingId : Uuid) (digest : String) : Prop :=
  ∃ row ∈ s.observations, row.bindingId = bindingId ∧ row.observationDigest = digest

theorem observed_ok {id : Uuid} (ran : observed digest id bindingId snapshot now s = .ok (next,observation)) :
    next.bindings = s.bindings ∧ next.assignments = s.assignments ∧
      (Seen s bindingId (observationDigest digest snapshot) ∧ next.observations = s.observations ∨
        ¬Seen s bindingId (observationDigest digest snapshot) ∧ (∀ row ∈ s.observations, row.id ≠ id) ∧
          next.observations = s.observations ++ [observationRow digest id bindingId snapshot now]) := by
  obtain ⟨⟨after,appended⟩,appending,ran⟩ := bind_ok.mp ran
  cases pure_ok.mp ran
  unfold appendMergeRequestObservation at appending
  split at appending
  · rename_i seen
    cases pure_ok.mp appending
    exact ⟨rfl,rfl,.inl ⟨seen,rfl⟩⟩
  · rename_i unseen
    simp only [require_bind_ok,pure_ok] at appending
    obtain ⟨fresh,same⟩ := appending
    cases same
    exact ⟨rfl,rfl,.inr ⟨unseen,fresh,rfl⟩⟩

theorem completeRequest_ok (ran : completeRequest lease s = .ok next) :
    ∃ inbox, next = {s with inbox} := by
  unfold completeRequest at ran
  split at ran
  · cases pure_ok.mp ran
    exact ⟨_,rfl⟩
  · obtain ⟨_,_,ran⟩ := orRaise_bind_ok.mp ran
    obtain ⟨_,_,ran⟩ := orRaise_bind_ok.mp ran
    cases pure_ok.mp ran
    exact ⟨_,rfl⟩

theorem settle_ok (ran : settle lease lost observation s = .ok (next,chosen)) :
    ∃ inbox effects, next = {s with inbox, effects} := by
  obtain ⟨⟨after,row⟩,moved,ran⟩ := orRaise_bind_ok.mp ran
  obtain ⟨⟨rows,_⟩,_,same⟩ := Option.map_eq_some_iff.mp moved
  cases same
  obtain ⟨_,_,ran⟩ := orRaise_bind_ok.mp ran
  obtain ⟨final,completed,ran⟩ := bind_ok.mp ran
  cases pure_ok.mp ran
  obtain ⟨inbox,rfl⟩ := completeRequest_ok completed
  exact ⟨inbox,rows,rfl⟩

theorem insertFormalReviewAssignment_ok (ran : insertFormalReviewAssignment row s = .ok next) :
    (∀ other ∈ s.assignments, other.id ≠ row.id) ∧ (∀ other ∈ s.assignmentsOf row.bindingId, other.revision ≠ row.revision) ∧
      (∀ other ∈ s.assignmentsOf row.bindingId, other.supersededAt ≠ none) ∧
      next = {s with assignments := s.assignments ++ [row]} := by
  simp only [insertFormalReviewAssignment,require_bind_ok,pure_ok] at ran
  obtain ⟨fresh,_,revision,current,_,rfl⟩ := ran
  exact ⟨fresh,revision,current,rfl⟩

theorem assign_ok (ran : assign commit bindingId revision s = .ok (next,row)) :
    ∃ assignments, next = {s with assignments} := by
  obtain ⟨after,inserted,ran⟩ := bind_ok.mp ran
  cases pure_ok.mp ran
  exact ⟨_,(insertFormalReviewAssignment_ok inserted).2.2.2⟩

-- Only assignments change as one is made.
theorem ensureAssignment_ok (ran : ensureAssignment commit bindingId current s = .ok (next,row)) :
    ∃ assignments, next = {s with assignments} := by
  cases current with
  | none => exact assign_ok ran
  | some assignment =>
    obtain ⟨_,ran⟩ := require_bind_ok.mp ran
    split at ran
    · cases pure_ok.mp ran
      exact ⟨_,rfl⟩
    · obtain ⟨after,superseded,ran⟩ := bind_ok.mp ran
      simp only [supersedeFormalReviewAssignment,orRaise_bind_ok,require_bind_ok,pure_ok] at superseded
      obtain ⟨_,_,_,rfl⟩ := superseded
      obtain ⟨_,rfl⟩ := assign_ok ran
      exact ⟨_,rfl⟩

-- What a create commit does to bindings, to observations and to assignments, one after
-- the other.
theorem commitCreate_ok (ran : commitCreate digest commit found current s = .ok (next,facts)) :
    ∃ bound binding noted observation assigned assignment,
      ensureBinding commit found s = .ok (bound,binding) ∧ facts.bindingId = binding.id ∧ next.bindings = bound.bindings ∧
      observed digest commit.observationId binding.id commit.snapshot commit.lease.now bound = .ok (noted,observation) ∧
      next.observations = noted.observations ∧
      ensureAssignment commit binding.id current noted = .ok (assigned,assignment) ∧ next.assignments = assigned.assignments := by
  obtain ⟨⟨bound,binding⟩,ensured,ran⟩ := bind_ok.mp ran
  obtain ⟨_,ran⟩ := require_bind_ok.mp ran
  obtain ⟨⟨noted,observation⟩,observing,ran⟩ := bind_ok.mp ran
  obtain ⟨⟨assigned,assignment⟩,assigning,ran⟩ := bind_ok.mp ran
  obtain ⟨⟨final,chosen⟩,settled,ran⟩ := bind_ok.mp ran
  cases pure_ok.mp ran
  obtain ⟨_,rfl⟩ := ensureAssignment_ok assigning
  obtain ⟨_,_,rfl⟩ := settle_ok settled
  exact ⟨bound,binding,noted,observation,_,assignment,ensured,rfl,(observed_ok observing).1,observing,rfl,assigning,rfl⟩

theorem commitMerge_ok (ran : commitMerge digest commit s = .ok (next,facts)) :
    facts.bindingId = commit.bindingId ∧ ∃ noted observation,
      observed digest commit.observationId commit.bindingId commit.snapshot commit.lease.now s = .ok (noted,observation) ∧
      next.bindings = noted.bindings ∧ next.observations = noted.observations ∧ next.assignments = noted.assignments := by
  obtain ⟨⟨noted,observation⟩,observed,ran⟩ := bind_ok.mp ran
  obtain ⟨⟨final,chosen⟩,settled,ran⟩ := bind_ok.mp ran
  cases pure_ok.mp ran
  obtain ⟨_,_,rfl⟩ := settle_ok settled
  exact ⟨rfl,noted,observation,observed,rfl,rfl,rfl⟩

end EngineeringPlatform.FormalDelivery
