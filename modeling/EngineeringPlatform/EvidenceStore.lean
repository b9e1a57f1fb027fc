import EngineeringPlatform.EvidenceDomain
import EngineeringPlatform.KeyLocks
namespace EngineeringPlatform.Evidence
open Checked EngineeringPlatform.SourceControl Integration KeyLocks

structure ExternalValidationRow where
  id : Uuid
  workItemId : Uuid
  requirementId : Uuid
  workspaceId : Uuid
  integrationMergeRequestBindingId : Uuid
  targetCommitSha : String
  integrationMergeCommitSha : String
  reference : String
  notes : String
  artifactReferences : List ArtifactReference
  referenceHash : String
  requestFingerprint : String
  submittedBy : String
  submittedAt : Time
  deriving DecidableEq

-- ck_sc_validation_receipt_outcome: an ACCEPTED receipt has a canonical validation, a
-- REJECTED one the reason EVIDENCE_STALE.
inductive ReceiptOutcome where
  | accepted (canonicalExternalValidationId : Uuid)
  | rejected
  deriving DecidableEq

structure ExternalValidationReceipt where
  messageId : Uuid
  requestFingerprint : String
  outcome : ReceiptOutcome
  requirementId : Uuid
  workItemId : Uuid
  receivedAt : Time
  deriving DecidableEq

structure EvidenceRequest where
  messageId : Uuid
  payloadHash : String
  subject : BaselineSubject
  workItemIds : List Uuid
  state : InboxState
  attempts : Nat
  availableAt : Time
  lastErrorCode : Option SourceControlReason := none
  receivedAt : Time
  updatedAt : Time
  processedAt : Option Time := none
  deriving DecidableEq

structure EvidenceHeader where
  id : Uuid
  subject : BaselineSubject
  evidenceHash : String
  generatedBy : String
  generatedAt : Time
  deriving DecidableEq

structure EvidenceItemRow where
  evidenceId : Uuid
  requirementId : Uuid
  workItemId : Uuid
  repositoryId : String
  taskBranch : String
  taskCommitSha : String
  integrationMergeRequestBindingId : Uuid
  integrationMergeRequestIid : Nat
  integrationMergeCommitSha : String
  executorType : String
  executorId : String
  artifactReferences : List ArtifactReference
  externalValidationReferenceId : Uuid
  itemHash : String
  deriving DecidableEq

structure EvidenceTables where
  validations : List ExternalValidationRow
  receipts : List ExternalValidationReceipt
  requests : List EvidenceRequest
  evidence : List EvidenceHeader
  items : List EvidenceItemRow

def ExternalValidationRow.content (row : ExternalValidationRow) : Uuid × String := (row.workItemId,row.referenceHash)
def EvidenceHeader.snapshot (row : EvidenceHeader) : Uuid × String :=
  (row.subject.deliverySnapshotId,row.subject.deliverySnapshotHash)
def EvidenceRequest.snapshot (row : EvidenceRequest) : Uuid × String :=
  (row.subject.deliverySnapshotId,row.subject.deliverySnapshotHash)

def newerValidation (one two : ExternalValidationRow) : Bool :=
  two.submittedAt < one.submittedAt ∨ one.submittedAt = two.submittedAt ∧ two.id < one.id

namespace EvidenceTables
variable (t : EvidenceTables)

def empty : EvidenceTables := ⟨[],[],[],[],[]⟩

def externalValidationById (id : Uuid) : Option ExternalValidationRow :=
  KeyedRows.find ExternalValidationRow.id t.validations id
def externalValidationByHash (workItemId : Uuid) (referenceHash : String) : Option ExternalValidationRow :=
  KeyedRows.find ExternalValidationRow.content t.validations (workItemId,referenceHash)
def externalValidationReceipt (messageId : Uuid) : Option ExternalValidationReceipt :=
  KeyedRows.find ExternalValidationReceipt.messageId t.receipts messageId
def evidenceRequest (messageId : Uuid) : Option EvidenceRequest :=
  KeyedRows.find EvidenceRequest.messageId t.requests messageId
def integrationBaselineEvidenceById (id : Uuid) : Option EvidenceHeader :=
  KeyedRows.find EvidenceHeader.id t.evidence id
def integrationBaselineEvidenceBySnapshot (snapshot : Uuid × String) : Option EvidenceHeader :=
  KeyedRows.find EvidenceHeader.snapshot t.evidence snapshot

def latestExternalValidation (workItemId bindingId : Uuid) (targetCommitSha integrationMergeCommitSha : String) :
    Option ExternalValidationRow :=
  RankedRows.top newerValidation (t.validations.filter fun row =>
    row.workItemId = workItemId ∧ row.integrationMergeRequestBindingId = bindingId ∧
      row.targetCommitSha = targetCommitSha ∧ row.integrationMergeCommitSha = integrationMergeCommitSha)

-- item JOIN validation ON validation.id, ORDER BY item.work_item_id
def integrationBaselineEvidenceItems (evidenceId : Uuid) : List (EvidenceItemRow × ExternalValidationRow) :=
  ((t.items.filter fun row => row.evidenceId = evidenceId).filterMap fun row =>
    (t.externalValidationById row.externalValidationReferenceId).map fun validation => (row,validation)).mergeSort
      fun one two => one.1.workItemId ≤ two.1.workItemId

end EvidenceTables

-- The merge requests of the kind INTEGRATION and what was observed of them.
structure MergeRequests where
  bindings : List MergeRequestBinding
  branches : List RepositoryBranchBinding
  observations : List MergeRequestObservation

structure IntegrationContext where
  binding : MergeRequestBinding
  taskBranch : String
  observation : Option MergeRequestObservation

-- At most one binding of a work item is not superseded:
-- uq_sc_current_mr_binding_kind_work_item.
def MergeRequests.integrationEvidenceContext (m : MergeRequests) (workItemId : Uuid) : Option IntegrationContext := do
  let binding ← m.bindings.find? fun row => row.workItemId = workItemId ∧ row.supersededAt = none
  let branch ← m.branches.find? fun row => row.id = binding.branchBindingId
  pure ⟨binding,branch.branchName,
    RankedRows.top newerObservation (m.observations.filter fun row => row.bindingId = binding.id)⟩

-- The head and the merge commit of a binding proven MERGED.
def IntegrationContext.merged (context : IntegrationContext) : Option (String × String) := do
  let observation ← context.observation
  let mergeCommitSha ← observation.mergeCommitSha
  if observation.state = .merged ∧ observation.headSha = context.binding.headSha then
    some (observation.headSha,mergeCommitSha)
  else none

inductive EvidenceKey where
  | content (workItemId : Uuid) (referenceHash : String)
  | validation (id : Uuid)
  | receipt (messageId : Uuid)
  | request (messageId : Uuid)
  | snapshot (snapshot : Uuid × String)
  | evidence (id : Uuid)
  deriving DecidableEq

-- What a transaction has written and not committed.
inductive EvidenceWrite where
  | validation (row : ExternalValidationRow)
  | receipt (row : ExternalValidationReceipt)
  | request (row : EvidenceRequest)
  | updatedRequest (row : EvidenceRequest)
  | evidence (row : EvidenceHeader)
  | item (row : EvidenceItemRow)
  deriving DecidableEq

def EvidenceTables.apply (t : EvidenceTables) : EvidenceWrite → EvidenceTables
  | .validation row => {t with validations := t.validations ++ [row]}
  | .receipt row => {t with receipts := t.receipts ++ [row]}
  | .request row => {t with requests := t.requests ++ [row]}
  | .updatedRequest row =>
    {t with requests := KeyedRows.update EvidenceRequest.messageId t.requests row.messageId fun _ => row}
  | .evidence row => {t with evidence := t.evidence ++ [row]}
  | .item row => {t with items := t.items ++ [row]}

def EvidenceTables.applyAll (t : EvidenceTables) (writes : List EvidenceWrite) : EvidenceTables :=
  writes.foldl EvidenceTables.apply t

-- A transaction in progress: it sees what is committed and what it has written.
-- `began` is the moment of the merge requests at which it did.
structure Transaction where
  id : Nat
  began : Nat
  writes : List EvidenceWrite
  deriving DecidableEq

-- Between which moments the transaction ran that generated an evidence.
structure GenerationSpan where
  evidenceId : Uuid
  began : Nat
  ended : Nat
  deriving DecidableEq

-- `earlier` are the merge requests as they were before, newest first.
structure EvidenceStore where
  tables : EvidenceTables
  mergeRequests : MergeRequests
  earlier : List MergeRequests
  spans : List GenerationSpan
  locks : Locks EvidenceKey

def EvidenceStore.initial : EvidenceStore := ⟨.empty,⟨[],[],[]⟩,[],[],.none⟩

-- The merge requests at every moment so far, the last one now.
def EvidenceStore.moments (s : EvidenceStore) : List MergeRequests := s.earlier.reverse ++ [s.mergeRequests]
def EvidenceStore.moment (s : EvidenceStore) : Nat := s.earlier.length

def Transaction.view (transaction : Transaction) (s : EvidenceStore) : EvidenceTables :=
  s.tables.applyAll transaction.writes

def Transaction.write (transaction : Transaction) (writes : List EvidenceWrite) : Transaction :=
  {transaction with writes := transaction.writes ++ writes}

def evidenceOf (writes : List EvidenceWrite) : List EvidenceHeader :=
  writes.filterMap fun | .evidence row => some row | _ => none

def EvidenceStore.take (s : EvidenceStore) (transaction : Transaction) (keys : List EvidenceKey) : EvidenceStore :=
  {s with locks := s.locks.take transaction.id keys}

def EvidenceStore.rollback (s : EvidenceStore) (transaction : Transaction) : EvidenceStore :=
  {s with locks := s.locks.finish transaction.id}

def EvidenceStore.commit (s : EvidenceStore) (transaction : Transaction) : EvidenceStore :=
  {s with
    tables := transaction.view s
    spans := s.spans ++ (evidenceOf transaction.writes).map fun row => ⟨row.id,transaction.began,s.moment⟩
    locks := s.locks.finish transaction.id}

variable (texts : EvidenceTexts)

def validationFromRow (row : ExternalValidationRow) : Except EvidenceError ExternalValidationReference := do
  let artifactReferences ← row.artifactReferences.mapM ArtifactReference.modelValidate
  ExternalValidationReference.modelValidate texts
    ⟨row.id,row.workItemId,row.integrationMergeRequestBindingId,row.targetCommitSha,row.integrationMergeCommitSha,
      row.reference,row.notes,artifactReferences,row.submittedBy,row.submittedAt⟩

def itemFromRow (row : EvidenceItemRow) (stored : ExternalValidationRow) :
    Except EvidenceError IntegrationBaselineEvidenceItem := do
  let artifactReferences ← row.artifactReferences.mapM ArtifactReference.modelValidate
  let validation ← ExternalValidationReference.modelValidate texts
    ⟨row.externalValidationReferenceId,row.workItemId,row.integrationMergeRequestBindingId,row.taskCommitSha,
      row.integrationMergeCommitSha,stored.reference,stored.notes,artifactReferences,stored.submittedBy,
      stored.submittedAt⟩
  IntegrationBaselineEvidenceItem.modelValidate
    ⟨row.workItemId,row.repositoryId,row.taskBranch,row.taskCommitSha,row.integrationMergeRequestBindingId,
      row.integrationMergeRequestIid,row.integrationMergeCommitSha,row.executorType,row.executorId,
      validation.artifactReferences,validation⟩

def flagged (condition : Prop) [Decidable condition] (reason : String) : List String := if condition then [reason] else []

-- The latest validation for what is proven of the binding now.
def latestValidation (t : EvidenceTables) (context : IntegrationContext) (workItemId : Uuid) :
    Option ExternalValidationRow := do
  let observation ← context.observation
  let mergeCommitSha ← observation.mergeCommitSha
  t.latestExternalValidation workItemId context.binding.id observation.headSha mergeCommitSha

def staleReasons (item : IntegrationBaselineEvidenceItem) (context : IntegrationContext)
    (latest : Option ExternalValidationRow) : List String :=
  flagged (context.binding.id ≠ item.integrationMergeRequestBindingId) "BINDING_CHANGED" ++
  flagged (context.binding.repositoryId ≠ item.repositoryId) "REPOSITORY_CHANGED" ++
  flagged (context.binding.headSha ≠ item.taskCommitSha) "BINDING_HEAD_CHANGED" ++
  match context.observation with
  | none => []
  | some observation =>
    flagged (observation.state ≠ .merged) "OBSERVATION_NOT_MERGED" ++
    flagged (observation.headSha ≠ item.taskCommitSha) "OBSERVATION_HEAD_CHANGED" ++
    flagged (observation.mergeCommitSha ≠ some item.integrationMergeCommitSha) "OBSERVATION_MERGE_COMMIT_CHANGED" ++
    flagged (latest.any (fun row => row.id ≠ item.externalValidation.id) = true) "VALIDATION_CHANGED"

def unavailableReasons (context : IntegrationContext) (latest : Option ExternalValidationRow) : List String :=
  match context.observation with
  | none => ["OBSERVATION_UNAVAILABLE"]
  | some observation =>
    flagged (observation.mergeCommitSha ≠ none ∧ latest = none) "VALIDATION_UNAVAILABLE"

def currentnessState (stale unavailable : Bool) : EvidenceCurrentnessState :=
  if stale then .stale else if unavailable then .unavailable else .current

def itemCurrentness (t : EvidenceTables) (m : MergeRequests) (item : IntegrationBaselineEvidenceItem) :
    IntegrationBaselineEvidenceItemCurrentness :=
  let context := m.integrationEvidenceContext item.workItemId
  let latest := context.bind fun context => latestValidation t context item.workItemId
  let stale := (context.map fun context => staleReasons item context latest).getD []
  let unavailable := (context.map fun context => unavailableReasons context latest).getD ["BINDING_UNAVAILABLE"]
  let observation := context.bind IntegrationContext.observation
  ⟨item.workItemId,item.integrationMergeRequestBindingId,context.map fun context => context.binding.id,
    item.taskCommitSha,context.map fun context => context.binding.headSha,
    observation.map MergeRequestObservation.headSha,item.integrationMergeCommitSha,
    observation.bind MergeRequestObservation.mergeCommitSha,item.externalValidation.id,
    latest.map ExternalValidationRow.id,currentnessState (stale ≠ []) (unavailable ≠ []),stale ++ unavailable⟩

def evidenceCurrentness (t : EvidenceTables) (m : MergeRequests) (items : List IntegrationBaselineEvidenceItem) :
    IntegrationBaselineEvidenceCurrentness :=
  let rows := items.map (itemCurrentness t m)
  ⟨currentnessState (rows.any fun row => row.state = .stale) (rows.any fun row => row.state = .unavailable),rows⟩

def evidenceFromRows (t : EvidenceTables) (m : MergeRequests) (header : EvidenceHeader) :
    Except EvidenceError IntegrationBaselineEvidence := do
  let items ← (t.integrationBaselineEvidenceItems header.id).mapM fun row => itemFromRow texts row.1 row.2
  IntegrationBaselineEvidence.modelValidate texts
    ⟨header.id,header.subject,header.evidenceHash,items,evidenceCurrentness t m items,header.generatedBy,
      header.generatedAt⟩

def getIntegrationBaselineEvidenceBySnapshot (t : EvidenceTables) (m : MergeRequests) (snapshot : Uuid × String) :
    Except EvidenceError IntegrationBaselineEvidence := do
  let header ← orRaise (t.integrationBaselineEvidenceBySnapshot snapshot) .unavailable
  evidenceFromRows texts t m header

end EngineeringPlatform.Evidence
