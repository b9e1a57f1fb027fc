import EngineeringPlatform.EvidenceDelivery
namespace EngineeringPlatform.Evidence
open Checked EngineeringPlatform.SourceControl Integration KeyLocks
variable (texts : EvidenceTexts)

-- One call of _process_integration_baseline_request: by the batch, under a savepoint
-- and with `claim_required`, or by the facade.
structure Generation where
  messageId : Uuid
  generatedBy : String
  candidate : Bool
  deriving DecidableEq

inductive Generated where
  | evidence (evidence : IntegrationBaselineEvidence)
  | failed (error : EvidenceError)
  deriving DecidableEq

-- `timedelta(minutes=2)`
def evidenceLease : Nat := 120

def retryAt (now : Time) (nextAttempt : Nat) : Time := now + min (5 * 2 ^ min (nextAttempt - 1) 6) 300

def EvidenceRequest.claimable (now : Time) (row : EvidenceRequest) : Bool :=
  row.availableAt ≤ now ∧ row.state ∈ [InboxState.received,.failed,.processing]

def EvidenceRequest.claim (now : Time) (row : EvidenceRequest) : EvidenceRequest :=
  {row with
    state := .processing, attempts := row.attempts + 1, availableAt := now + evidenceLease, updatedAt := now}

def EvidenceRequest.complete (now : Time) (row : EvidenceRequest) : EvidenceRequest :=
  {row with state := .processed, processedAt := some now, updatedAt := now, lastErrorCode := none}

def EvidenceRequest.fail (now : Time) (availableAt : Time) (reason : SourceControlReason) (row : EvidenceRequest) :
    EvidenceRequest :=
  {row with
    state := .failed, attempts := row.attempts + 1, availableAt := availableAt, lastErrorCode := some reason,
    updatedAt := now, processedAt := none}

-- _candidate_error_code
def EvidenceError.code : EvidenceError → SourceControlReason
  | .stale => .evidenceStale
  | .unavailable => .evidenceUnavailable
  | _ => .connectorUnavailable

-- What a work item's context proves of its merge request.
structure ProvenMerge where
  context : IntegrationContext
  headSha : String
  mergeCommitSha : String

def provenMerge (request : EvidenceRequest) (context : Option IntegrationContext) : Except EvidenceError ProvenMerge := do
  let context ← orRaise context .unavailable
  require (context.binding.requirementId = request.subject.requirementId) .stale
  let (headSha,mergeCommitSha) ← orRaise context.merged .stale
  pure ⟨context,headSha,mergeCommitSha⟩

-- The rest of _item_from_context, from the latest validation on.
def itemFromContext (workItemId : Uuid) (proven : ProvenMerge) (row : Option ExternalValidationRow) :
    Except EvidenceError IntegrationBaselineEvidenceItem := do
  let row ← orRaise row .unavailable
  let validation ← validationFromRow texts row
  IntegrationBaselineEvidenceItem.modelValidate
    ⟨workItemId,proven.context.binding.repositoryId,proven.context.taskBranch,proven.headSha,proven.context.binding.id,
      proven.context.binding.mergeRequestIid,proven.mergeCommitSha,"HUMAN",validation.submittedBy,
      stableArtifacts validation.artifactReferences,validation⟩

def evidenceItemRow (evidenceId : Uuid) (request : EvidenceRequest) (item : IntegrationBaselineEvidenceItem) :
    EvidenceItemRow where
  evidenceId := evidenceId
  requirementId := request.subject.requirementId
  workItemId := item.workItemId
  repositoryId := item.repositoryId
  taskBranch := item.taskBranch
  taskCommitSha := item.taskCommitSha
  integrationMergeRequestBindingId := item.integrationMergeRequestBindingId
  integrationMergeRequestIid := item.integrationMergeRequestIid
  integrationMergeCommitSha := item.integrationMergeCommitSha
  executorType := item.executorType
  executorId := item.executorId
  artifactReferences := texts.jsonb item.artifactReferences
  externalValidationReferenceId := item.externalValidation.id
  itemHash := canonicalEvidenceItemHash texts item

-- ck_sc_evidence_item_refs and ck_sc_evidence_item_artifacts, as far as an item that
-- was validated can violate them.
def EvidenceItemRow.storable (row : EvidenceItemRow) : Bool :=
  row.taskBranch.toList.any (· ≠ ' ') ∧ row.executorId.toList.any (· ≠ ' ') ∧ row.artifactReferences ≠ []

-- fk_sc_evidence_item_binding and fk_sc_evidence_item_validation.
def EvidenceItemRow.referenced (row : EvidenceItemRow) (t : EvidenceTables) (m : MergeRequests) : Bool :=
  (m.bindings.any fun binding =>
    binding.id = row.integrationMergeRequestBindingId ∧ binding.workItemId = row.workItemId ∧
      binding.requirementId = row.requirementId) ∧
  (t.validations.any fun validation =>
    validation.id = row.externalValidationReferenceId ∧ validation.requirementId = row.requirementId ∧
      validation.workItemId = row.workItemId)

-- A claimed request: how it was when it was locked, and as the claim left it.
structure ClaimedRequest where
  locked : EvidenceRequest
  row : EvidenceRequest
  deriving DecidableEq

inductive GenerationPhase where
  | locking
  | processed (request : EvidenceRequest)
  | claiming (request : EvidenceRequest)
  | validating (claimed : ClaimedRequest)
  | collecting (claimed : ClaimedRequest) (items : List IntegrationBaselineEvidenceItem) (rest : List Uuid)
  | matching (claimed : ClaimedRequest) (items : List IntegrationBaselineEvidenceItem) (workItemId : Uuid)
      (proven : ProvenMerge) (rest : List Uuid)
  | revalidating (claimed : ClaimedRequest) (items : List IntegrationBaselineEvidenceItem)
  | inserting (claimed : ClaimedRequest) (items : List IntegrationBaselineEvidenceItem)
  | storing (claimed : ClaimedRequest) (items : List IntegrationBaselineEvidenceItem) (header : EvidenceHeader)
  | lost (claimed : ClaimedRequest) (now : Time)
  | completing (claimed : ClaimedRequest) (header : EvidenceHeader) (now : Time)
  | readingBack (claimed : ClaimedRequest) (header : EvidenceHeader)
  | failing (claimed : ClaimedRequest) (error : EvidenceError)
  | committing (generated : Generated)

-- The claim that the savepoint would undo, once there is one.
def GenerationPhase.claimed : GenerationPhase → Option ClaimedRequest
  | .validating claimed | .collecting claimed _ _ | .matching claimed _ _ _ _ | .revalidating claimed _
  | .inserting claimed _ | .storing claimed _ _ | .lost claimed _ | .completing claimed _ _
  | .readingBack claimed _ => some claimed
  | _ => none

-- The answer of the Requirement module to validate_snapshot, and the values that the
-- clock and the random source give.
structure GenerationInput where
  now : Time
  evidenceId : Uuid
  snapshot : Option EvidenceError

def canonicalWorkItems (request : EvidenceRequest) : Bool := request.workItemIds.Pairwise (· < ·)

-- INSERT … ON CONFLICT (delivery_snapshot_id, delivery_snapshot_hash) DO NOTHING
def insertIntegrationBaselineEvidence (header : EvidenceHeader) (claimed : ClaimedRequest)
    (items : List IntegrationBaselineEvidenceItem) (transaction : Transaction) (s : EvidenceStore) :
    Reply GenerationPhase :=
  let t := transaction.view s
  if header.generatedBy = "" then .raises .integrity else
  match t.integrationBaselineEvidenceBySnapshot header.snapshot with
  | some _ => .goes [] [] (.lost claimed header.generatedAt)
  | none =>
    if t.integrationBaselineEvidenceById header.id = none ∧
        (∀ row ∈ t.evidence, ¬(row.subject.requirementId = header.subject.requirementId ∧
          row.evidenceHash = header.evidenceHash)) then
      .holding s transaction [.snapshot header.snapshot,.evidence header.id] [.evidence header]
        (.storing claimed items header)
    else if s.locks.Free transaction.id (.snapshot header.snapshot) then .raises .integrity else .waits

def Generation.statement (g : Generation) (input : GenerationInput) (transaction : Transaction) (s : EvidenceStore) :
    GenerationPhase → Reply GenerationPhase
  | .locking =>
    match (transaction.view s).evidenceRequest g.messageId with
    | none => .raises .unavailable
    | some request =>
      request.locked transaction s
        (if request.state = .processed then
          if g.candidate then .raises .lost else .goes [.request g.messageId] [] (.processed request)
        else .goes [.request g.messageId] [] (.claiming request))
  | .processed request =>
    .checked (getIntegrationBaselineEvidenceBySnapshot texts (transaction.view s) s.mergeRequests request.snapshot)
      fun evidence => .goes [] [] (.committing (.evidence evidence))
  | .claiming request =>
    if request.claimable input.now then
      .goes [] [.updatedRequest (request.claim input.now)] (.validating ⟨request,request.claim input.now⟩)
    else .raises (if g.candidate then .lost else .unavailable)
  | .validating claimed =>
    if canonicalWorkItems claimed.row then
      match input.snapshot with
      | some error => .raises error
      | none => .goes [] [] (.collecting claimed [] claimed.row.workItemIds)
    else .raises .stale
  | .collecting claimed items [] => .goes [] [] (.revalidating claimed items)
  | .collecting claimed items (workItemId :: rest) =>
    .checked (provenMerge claimed.row (s.mergeRequests.integrationEvidenceContext workItemId)) fun proven =>
      .goes [] [] (.matching claimed items workItemId proven rest)
  | .matching claimed items workItemId proven rest =>
    .checked (itemFromContext texts workItemId proven ((transaction.view s).latestExternalValidation workItemId
      proven.context.binding.id proven.headSha proven.mergeCommitSha)) fun item =>
        .goes [] [] (.collecting claimed (items ++ [item]) rest)
  | .revalidating claimed items =>
    match input.snapshot with
    | some error => .raises error
    | none => .goes [] [] (.inserting claimed items)
  | .inserting claimed items =>
    .checked (canonicalIntegrationBaselineHash texts input.evidenceId claimed.row.subject items) fun evidenceHash =>
      insertIntegrationBaselineEvidence
        ⟨input.evidenceId,claimed.row.subject,evidenceHash,strip g.generatedBy,input.now⟩ claimed items transaction s
  | .storing claimed items header =>
    let rows := items.map (evidenceItemRow texts header.id claimed.row)
    if rows.all fun row => row.storable ∧ row.referenced (transaction.view s) s.mergeRequests then
      .goes [] (rows.map .item) (.completing claimed header header.generatedAt)
    else .raises .integrity
  | .lost claimed now =>
    match (transaction.view s).integrationBaselineEvidenceBySnapshot claimed.row.snapshot with
    | some existing => .goes [] [] (.completing claimed existing now)
    | none => .raises .messageConflict
  | .completing claimed header now =>
    match (transaction.view s).evidenceRequest g.messageId with
    | some row =>
      if row.state = .processing ∧ row.attempts = claimed.row.attempts then
        .goes [] [.updatedRequest (row.complete now)] (.readingBack claimed header)
      else .raises .unavailable
    | none => .raises .unavailable
  | .readingBack _ header =>
    .checked (evidenceFromRows texts (transaction.view s) s.mergeRequests header) fun evidence =>
      .goes [] [] (.committing (.evidence evidence))
  | .failing claimed error =>
    match (transaction.view s).evidenceRequest g.messageId with
    | some row =>
      if row.attempts = claimed.locked.attempts ∧ row.state ∈ [InboxState.received,.failed,.processing] then
        .goes [] [.updatedRequest (row.fail input.now (retryAt input.now claimed.row.attempts) error.code)]
          (.committing (.failed error))
      else .goes [] [] (.committing (.failed error))
    | none => .goes [] [] (.committing (.failed error))
  | .committing generated => .goes [] [] (.committing generated)

end EngineeringPlatform.Evidence
