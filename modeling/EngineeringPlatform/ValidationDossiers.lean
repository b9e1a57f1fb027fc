import EngineeringPlatform.DossierMaterial
import EngineeringPlatform.ModelGatewayDomain
namespace EngineeringPlatform.Dossiers
open CanonicalCodec CanonicalJson Checked ModelGateway PythonText

inductive MaterialCategory where
  | modelIdentity
  | capabilitySpec
  | contextLimits
  | parameterSchema
  | pricing
  | quota
  | dataProcessing
  | health
  deriving DecidableEq

inductive Provenance where
  | declared
  deriving DecidableEq

structure MaterialReference where
  category : MaterialCategory
  title : Text
  sourceReference : Text
  externalVersion : Option Text
  declaredContentSha256 : Option Text
  expiresAt : Option Int
  note : Option Text
  deriving DecidableEq

structure DeclaredMaterial extends MaterialReference where
  provenance : Provenance
  deriving DecidableEq

structure ProbeUsage where
  promptTokens : Option Int
  completionTokens : Option Int
  totalTokens : Option Int
  deriving DecidableEq

structure CheckResultSummary where
  state : CheckState
  reason : Option CheckReason
  finishedAt : Option Int
  reportedModelId : Option Text
  providerRequestId : Option Text
  elapsedMs : Option Int
  usage : Option ProbeUsage
  deriving DecidableEq

structure CheckEvidenceReference where
  checkId : Text
  checkRevision : Int
  checkKind : CheckKind
  inputDigest : Text
  resultSummary : CheckResultSummary
  resultHash : Text
  deriving DecidableEq

-- A dossier without its hash.
structure Snapshot where
  id : Text
  deploymentId : Text
  candidateRevision : Int
  createdBy : Text
  createdAt : Int
  materials : List DeclaredMaterial
  checks : List CheckEvidenceReference
  deriving DecidableEq

structure ValidationDossier extends Snapshot where
  snapshotHash : Text
  deriving DecidableEq

structure CreateValidationDossier where
  materials : List MaterialReference
  checkIds : List Text
  deriving DecidableEq

def categoryName : MaterialCategory → String
  | .modelIdentity => "MODEL_IDENTITY"
  | .capabilitySpec => "CAPABILITY_SPEC"
  | .contextLimits => "CONTEXT_LIMITS"
  | .parameterSchema => "PARAMETER_SCHEMA"
  | .pricing => "PRICING"
  | .quota => "QUOTA"
  | .dataProcessing => "DATA_PROCESSING"
  | .health => "HEALTH"

def kindName : CheckKind → String
  | .basicText => "BASIC_TEXT"
  | .streamText => "STREAM_TEXT"
  | .streamStop => "STREAM_STOP"
  | .thinking => "THINKING"
  | .searchSources => "SEARCH_SOURCES"
  | .toolCall => "TOOL_CALL"

def stateName : CheckState → String
  | .queued => "QUEUED"
  | .running => "RUNNING"
  | .succeeded => "SUCCEEDED"
  | .failed => "FAILED"
  | .unknown => "UNKNOWN"
  | .blocked => "BLOCKED"

def reasonName : CheckReason → String
  | .connectionMissing => "CONNECTION_MISSING"
  | .connectionUnavailable => "CONNECTION_UNAVAILABLE"
  | .modelNotAllowed => "MODEL_NOT_ALLOWED"
  | .materialUnavailable => "MATERIAL_UNAVAILABLE"
  | .materialVersionChanged => "MATERIAL_VERSION_CHANGED"
  | .inputChanged => "INPUT_CHANGED"
  | .candidateArchived => "CANDIDATE_ARCHIVED"
  | .actorIneligible => "ACTOR_INELIGIBLE"
  | .authorizationUnavailable => "AUTHORIZATION_UNAVAILABLE"
  | .connectionBusy => "CONNECTION_BUSY"
  | .targetUnavailable => "TARGET_UNAVAILABLE"
  | .targetNotAllowed => "TARGET_NOT_ALLOWED"
  | .providerRejected => "PROVIDER_REJECTED"
  | .providerRateLimited => "PROVIDER_RATE_LIMITED"
  | .providerError => "PROVIDER_ERROR"
  | .redirectRejected => "REDIRECT_REJECTED"
  | .invalidResponse => "INVALID_RESPONSE"
  | .responseTooLarge => "RESPONSE_TOO_LARGE"
  | .modelIdentityMismatch => "MODEL_IDENTITY_MISMATCH"
  | .responseTruncated => "RESPONSE_TRUNCATED"
  | .responseRefused => "RESPONSE_REFUSED"
  | .requestOutcomeUnknown => "REQUEST_OUTCOME_UNKNOWN"
  | .executionExpired => "EXECUTION_EXPIRED"
  | .invalidStreamResponse => "INVALID_STREAM_RESPONSE"
  | .streamIdentityChanged => "STREAM_IDENTITY_CHANGED"
  | .streamEventTooLarge => "STREAM_EVENT_TOO_LARGE"
  | .streamEventLimit => "STREAM_EVENT_LIMIT"
  | .streamInterrupted => "STREAM_INTERRUPTED"
  | .streamCloseFailed => "STREAM_CLOSE_FAILED"
  | .thinkingSignalMissing => "THINKING_SIGNAL_MISSING"
  | .searchSourceSignalMissing => "SEARCH_SOURCE_SIGNAL_MISSING"
  | .searchModelNotAllowed => "SEARCH_MODEL_NOT_ALLOWED"
  | .searchRegionNotAllowed => "SEARCH_REGION_NOT_ALLOWED"
  | .invalidSearchResponse => "INVALID_SEARCH_RESPONSE"
  | .searchEvidenceLimit => "SEARCH_EVIDENCE_LIMIT"
  | .unsafeSearchSource => "UNSAFE_SEARCH_SOURCE"
  | .unexpectedToolOutput => "UNEXPECTED_TOOL_OUTPUT"
  | .responseCloseFailed => "RESPONSE_CLOSE_FAILED"
  | .toolCallModelNotAllowed => "TOOL_CALL_MODEL_NOT_ALLOWED"
  | .toolCallSignalMissing => "TOOL_CALL_SIGNAL_MISSING"

def category : Codec MaterialCategory :=
  enumeration [.modelIdentity,.capabilitySpec,.contextLimits,.parameterSchema,.pricing,.quota,.dataProcessing,.health]
    categoryName (by decide +kernel)

def checkKind : Codec CheckKind :=
  enumeration [.basicText,.streamText,.streamStop,.thinking,.searchSources,.toolCall] kindName (by decide +kernel)

def terminalState : Codec CheckState := enumeration [.succeeded,.failed,.blocked,.unknown] stateName (by decide +kernel)

def checkReasons : List CheckReason :=
  [.connectionMissing,.connectionUnavailable,.modelNotAllowed,.materialUnavailable,.materialVersionChanged,.inputChanged,
    .candidateArchived,.actorIneligible,.authorizationUnavailable,.connectionBusy,.targetUnavailable,.targetNotAllowed,
    .providerRejected,.providerRateLimited,.providerError,.redirectRejected,.invalidResponse,.responseTooLarge,
    .modelIdentityMismatch,.responseTruncated,.responseRefused,.requestOutcomeUnknown,.executionExpired,
    .invalidStreamResponse,.streamIdentityChanged,.streamEventTooLarge,.streamEventLimit,.streamInterrupted,
    .streamCloseFailed,.thinkingSignalMissing,.searchSourceSignalMissing,.searchModelNotAllowed,.searchRegionNotAllowed,
    .invalidSearchResponse,.searchEvidenceLimit,.unsafeSearchSource,.unexpectedToolOutput,.responseCloseFailed,
    .toolCallModelNotAllowed,.toolCallSignalMissing]

def checkReason : Codec CheckReason := enumeration checkReasons reasonName (by decide +kernel)

def provenance : Codec Provenance := enumeration [.declared] (fun _ => "DECLARED") (by decide)

def usageCount : Codec Int := integer true (fun _ => none) fun count => 0 ≤ count ∧ count ≤ 2147483647

variable {m : Materials} (lawful : m.Lawful)

def dossierTime (lawful : m.Lawful) : Codec Int where
  encode time := .text (m.timestamp time)
  decode
    | .text value => (m.instant value).bind utcTime
    | _ => none
  settles json time read := by
    cases json with
    | text value =>
      obtain ⟨instant,_,accepted⟩ := Option.bind_eq_some_iff.mp read
      unfold utcTime at accepted
      split at accepted
      · rename_i inside
        cases accepted
        exact Option.bind_eq_some_iff.mpr ⟨_,lawful.instant _ inside,if_pos inside⟩
      · cases accepted
    | _ => cases read

def identity (lawful : m.Lawful) : Codec Text := string (dossierId m) (dossierId_settles lawful)
def hashText : Codec Text := string sha256 sha256_settles
def plain : Codec Text := string plainText plainText_settles

def materialReferenceShape (lawful : m.Lawful) : Shape MaterialReference :=
  ((((((field "category" category).and
    (field "title" (string (materialTitle m) (stripped_settles lawful 120))) rfl).and
    (field "source_reference" (string (sourceReference m) (sourceReference_settles lawful))) rfl).and
    (defaulted "external_version" (optional (string (externalVersion m) (stripped_settles lawful 128)) fun _ => nofun) none rfl) rfl).and
    (defaulted "declared_content_sha256" (optional hashText fun _ => nofun) none rfl) rfl).and
    (defaulted "expires_at" (optional (dossierTime lawful) fun _ => nofun) none rfl) rfl).and
    (defaulted "note" (optional (string (materialNote m) (stripped_settles lawful 500)) fun _ => nofun) none rfl) rfl |>.onto
    (fun ((((((category,title),reference),version),hash),expires),note) => ⟨category,title,reference,version,hash,expires,note⟩)
    (fun value => ((((((value.category,value.title),value.sourceReference),value.externalVersion),value.declaredContentSha256),
      value.expiresAt),value.note))
    fun _ => rfl

def declaredMaterialShape (lawful : m.Lawful) : Shape DeclaredMaterial :=
  ((materialReferenceShape lawful).and (defaulted "provenance" provenance .declared (by decide)) rfl).onto
    (fun (material,provenance) => ⟨material,provenance⟩) (fun value => (value.toMaterialReference,value.provenance)) fun _ => rfl

def materialReference (lawful : m.Lawful) : Codec MaterialReference := (materialReferenceShape lawful).model true
def declaredMaterial (lawful : m.Lawful) : Codec DeclaredMaterial := (declaredMaterialShape lawful).model true

def probeUsageShape : Shape ProbeUsage :=
  (((defaulted "prompt_tokens" (optional usageCount fun _ => nofun) none rfl).and
    (defaulted "completion_tokens" (optional usageCount fun _ => nofun) none rfl) rfl).and
    (defaulted "total_tokens" (optional usageCount fun _ => nofun) none rfl) rfl).onto
    (fun ((prompt,completion),total) => ⟨prompt,completion,total⟩)
    (fun value => ((value.promptTokens,value.completionTokens),value.totalTokens)) fun _ => rfl

def probeUsage : Codec ProbeUsage := probeUsageShape.model false

def checkResultSummaryShape (lawful : m.Lawful) : Shape CheckResultSummary :=
  ((((((field "state" terminalState).and (field "reason" (optional checkReason fun _ => nofun)) rfl).and
    (field "finished_at" (optional (dossierTime lawful) fun _ => nofun)) rfl).and
    (field "reported_model_id" (optional plain fun _ => nofun)) rfl).and
    (field "provider_request_id" (optional plain fun _ => nofun)) rfl).and
    (field "elapsed_ms" (optional (integer false m.spelled fun _ => true) fun _ => nofun)) rfl).and
    (field "usage" (optional probeUsage fun _ => nofun)) rfl |>.onto
    (fun ((((((state,reason),finished),model),request),elapsed),usage) => ⟨state,reason,finished,model,request,elapsed,usage⟩)
    (fun value => ((((((value.state,value.reason),value.finishedAt),value.reportedModelId),value.providerRequestId),
      value.elapsedMs),value.usage))
    fun _ => rfl

def checkResultSummary (lawful : m.Lawful) : Codec CheckResultSummary := (checkResultSummaryShape lawful).model true

section
variable (sha : Text → Text)

-- SHA-256 in hex digits, of the text of a value.
def digest (json : CanonicalJson.Json) : Text := sha (asciiDumps json)

def hashMatchesSummary (lawful : m.Lawful) (value : CheckEvidenceReference) : Bool :=
  value.resultHash = digest sha ((checkResultSummary lawful).encode value.resultSummary)

def checkEvidenceReferenceShape (lawful : m.Lawful) : Shape CheckEvidenceReference :=
  ((((((field "check_id" (identity lawful)).and (field "check_revision" (integer false m.spelled (1 ≤ ·))) rfl).and
    (field "check_kind" checkKind) rfl).and (field "input_digest" hashText) rfl).and
    (field "result_summary" (checkResultSummary lawful)) rfl).and (field "result_hash" hashText) rfl).onto
    (fun (((((id,revision),kind),input),summary),hash) => ⟨id,revision,kind,input,summary,hash⟩)
    (fun value => (((((value.checkId,value.checkRevision),value.checkKind),value.inputDigest),value.resultSummary),value.resultHash))
    (fun _ => rfl) |>.holding (hashMatchesSummary sha lawful)

def checkEvidenceReference (lawful : m.Lawful) : Codec CheckEvidenceReference := (checkEvidenceReferenceShape sha lawful).model true

def snapshotShape (lawful : m.Lawful) : Shape Snapshot :=
  ((((((field "id" (identity lawful)).and (field "deployment_id" (identity lawful)) rfl).and
    (field "candidate_revision" (integer false m.spelled (1 ≤ ·))) rfl).and
    (field "created_by" (string nonEmptyText nonEmptyText_settles)) rfl).and (field "created_at" (dossierTime lawful)) rfl).and
    (field "materials" (list (declaredMaterial lawful) 32)) rfl).and
    (field "checks" (list (checkEvidenceReference sha lawful) 6)) rfl |>.onto
    (fun ((((((id,deployment),revision),by'),at'),materials),checks) => ⟨id,deployment,revision,by',at',materials,checks⟩)
    (fun value => ((((((value.id,value.deploymentId),value.candidateRevision),value.createdBy),value.createdAt),value.materials),
      value.checks))
    fun _ => rfl

-- `snapshot_integrity`
def snapshotIntegrity (lawful : m.Lawful) (value : ValidationDossier) : Bool :=
  ¬(value.materials = [] ∧ value.checks = []) ∧ (value.checks.map CheckEvidenceReference.checkKind).Nodup ∧
    value.snapshotHash = digest sha ((snapshotShape sha lawful).dump value.toSnapshot)

def validationDossierShape (lawful : m.Lawful) : Shape ValidationDossier :=
  ((snapshotShape sha lawful).and (field "snapshot_hash" hashText) rfl).onto
    (fun (snapshot,hash) => ⟨snapshot,hash⟩) (fun value => (value.toSnapshot,value.snapshotHash)) (fun _ => rfl)
    |>.holding (snapshotIntegrity sha lawful)

def validationDossier (lawful : m.Lawful) : Codec ValidationDossier := (validationDossierShape sha lawful).model true

end
end EngineeringPlatform.Dossiers
