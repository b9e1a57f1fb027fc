import EngineeringPlatform.ModelExecution
import EngineeringPlatform.SharedWorkers
namespace EngineeringPlatform.ModelGateway
open Checked KeyedRows SharedWorkers

structure ProbeUsage where
  promptTokens : Option Nat
  completionTokens : Option Nat
  totalTokens : Option Nat
  deriving DecidableEq

-- The tool-call observation has fields the row's own validator reads; of the
-- other kinds only the rendered content is kept.
inductive ProbeObservation where
  | recorded (kind : CheckKind) (content : String)
  | toolCall (consumedBytes : Nat) (matchingCallObserved toolCallCompletionObserved localResponseClosed : Bool)
  deriving DecidableEq

structure ProbeEvidence where
  observation : Option ProbeObservation
  elapsedMs : Option Nat
  providerRequestId : Option String
  reportedModelId : Option String
  usage : Option ProbeUsage
  deriving DecidableEq

inductive ReportedLimit where
  | value (tokens : Nat)
  | null
  | missing
  deriving DecidableEq

structure MetadataReport where
  model : String
  provider : String
  inferenceProvider : String
  contextWindow : ReportedLimit
  maxInputTokens : ReportedLimit
  maxOutputTokens : ReportedLimit
  deriving DecidableEq

structure MetadataEvidence where
  elapsedMs : Option Nat
  responseSha256 : Option String
  responseBytes : Option Nat
  providerRequestId : Option String
  report : Option MetadataReport
  deriving DecidableEq

abbrev ConnectionCheck := Execution CheckInput CheckState CheckReason ProbeEvidence InputCurrentness
abbrev MetadataObservation :=
  Execution MetadataInput MetadataState MetadataReason MetadataEvidence MetadataApplicability

def Execution.fenced (row : Execution ι σ ρ ω μ) : Bool :=
  (row.attempt = 0 ∧ row.executionToken = none ∧ row.startedAt = none ∧ row.deadlineAt = none) ∨
    (row.attempt = 1 ∧ row.executionToken.isSome ∧
      row.startedAt.any fun started => row.deadlineAt.any fun deadline => decide (started < deadline))

-- `consistent_execution_fence` and the table's CHECK constraints.
def checkConstraints (row : ConnectionCheck) : Bool :=
  row.fenced ∧ (row.attempt = 1 → row.input.snapshot.connectionRef.isSome) ∧
    ((row.state = .queued ∨ row.state = .blocked) ↔ row.attempt = 0) ∧
    ((row.state = .queued ∨ row.state = .running) ↔ row.finishedAt = none) ∧
    ((row.state = .failed ∨ row.state = .unknown ∨ row.state = .blocked) ↔ row.reason.isSome) ∧
    ((row.state = .succeeded ∨ row.state = .failed ∨ row.state = .unknown) ∨
      (row.evidence.observation = none ∧ row.evidence.providerRequestId = none ∧
        row.evidence.reportedModelId = none ∧ row.evidence.usage = none)) ∧
    (row.input.checkKind = .toolCall ∧ row.state = .succeeded →
      row.evidence.observation.any fun
        | .toolCall _ matching completion closed => matching && completion && closed
        | .recorded _ _ => false)

-- `consistent_outcome`, `consistent_execution` and the table's CHECK constraints.
def metadataConstraints (row : MetadataObservation) : Bool :=
  row.fenced ∧ row.deploymentId = row.input.deploymentId ∧
    ((row.state = .queued ∨ row.state = .blocked) ↔ row.attempt = 0) ∧
    ((row.state = .queued ∨ row.state = .running) ↔ row.finishedAt = none) ∧
    ((row.state = .indeterminate ∨ row.state = .failed ∨ row.state = .blocked ∨ row.state = .unknown) ↔
      row.reason.isSome) ∧
    (row.state = .reported ↔ row.evidence.report.isSome) ∧
    (row.evidence.responseSha256.isNone ↔ row.evidence.responseBytes.isNone) ∧
    (row.state = .reported ∨ row.state = .notFound →
      row.evidence.responseSha256.isSome ∧ row.evidence.responseBytes.any fun bytes => decide (0 < bytes)) ∧
    (row.state = .queued ∨ row.state = .running ∨ row.state = .blocked →
      row.evidence.responseSha256 = none ∧ row.evidence.providerRequestId = none ∧ row.evidence.report = none) ∧
    (row.evidence.report.all fun report =>
      report.model = row.input.providerModelId ∧ report.inferenceProvider = row.input.source.inferenceProvider)

def noProbeEvidence : ProbeEvidence := ⟨none,none,none,none,none⟩
def noMetadataEvidence : MetadataEvidence := ⟨none,none,none,none,none⟩

def checkExecution :
    ExecutionKind CheckInput CheckState CheckReason ProbeEvidence InputCurrentness ConnectionDefinition where
  queued := .queued
  running := .running
  blocked := .blocked
  unknown := .unknown
  finals := [.succeeded,.failed,.unknown]
  executionExpired := .executionExpired
  inputChanged := .inputChanged
  connectionBusy := .connectionBusy
  materialVersionChanged := .materialVersionChanged
  requestOutcomeUnknown := .requestOutcomeUnknown
  noEvidence := noProbeEvidence
  lateEvidence := fun evidence => evidence
  current := .current
  stale := .stale
  unverifiable := .unverifiable
  lease := seconds executionLeaseSeconds
  timeout := seconds probeTimeoutSeconds
  invalidTransition := "invalid check transition"
  invalidRow := "invalid check row"
  fenceLost := "check execution fence lost"
  connectionRef := fun input => input.snapshot.connectionRef
  deploymentRevision := fun input => input.snapshot.deploymentRevision
  materialVersion := fun connection => connection.materialVersion
  busyReference := fun _ connection => connection.reference
  managerReason := some
  validate := validateInput
  constraints := checkConstraints
  queued_running := by decide
  blocked_queued := by decide
  blocked_running := by decide
  queued_final := by decide
  running_final := by decide
  unknown_final := by decide
  validated := validateInput_reference

def metadataExecution :
    ExecutionKind MetadataInput MetadataState MetadataReason MetadataEvidence MetadataApplicability
      MetadataSourceDefinition where
  queued := .queued
  running := .running
  blocked := .blocked
  unknown := .unknown
  finals := [.reported,.notFound,.indeterminate,.failed,.unknown]
  executionExpired := .executionExpired
  inputChanged := .inputChanged
  connectionBusy := .connectionBusy
  materialVersionChanged := .materialVersionChanged
  requestOutcomeUnknown := .requestOutcomeUnknown
  noEvidence := noMetadataEvidence
  lateEvidence := fun _ => noMetadataEvidence
  current := .matching
  stale := .stale
  unverifiable := .unverifiable
  lease := seconds metadataLeaseSeconds
  timeout := seconds metadataTimeoutSeconds
  invalidTransition := "invalid metadata transition"
  invalidRow := "invalid metadata row"
  fenceLost := "metadata observation execution fence lost"
  connectionRef := fun input => some input.connectionRef
  deploymentRevision := fun input => input.deploymentRevision
  materialVersion := fun source => source.materialVersion
  busyReference := fun input _ => input.connectionRef
  managerReason := metadataReason
  validate := validateSource
  constraints := metadataConstraints
  queued_running := by decide
  blocked_queued := by decide
  blocked_running := by decide
  queued_final := by decide
  running_final := by decide
  unknown_final := by decide
  validated := fun _ => rfl

inductive ExecutionRef where
  | check (id : Uuid)
  | metadata (id : Uuid)
  deriving DecidableEq

-- A request as its provider receives it.
structure ProviderRequest where
  execution : ExecutionRef
  executionToken : Option Uuid
  sentAt : Time
  deriving DecidableEq

-- Every process reads one clock, which only runs forward.
structure GatewayStore where
  clock : Time
  deployments : List Deployment
  checks : List ConnectionCheck
  observations : List MetadataObservation
  requests : List ProviderRequest

def Execution.occupies (k : ExecutionKind ι σ ρ ω μ κ) [DecidableEq σ] (reference : String)
    (row : Execution ι σ ρ ω μ) : Bool :=
  row.state = k.running ∧ k.connectionRef row.input = some reference

-- `connection_busy`: the advisory lock makes the two scans and the claim after
-- them one step for every other claim of the connection.
def GatewayStore.connectionBusy (s : GatewayStore) (reference : String) : Bool :=
  s.checks.any (Execution.occupies checkExecution reference) ||
    s.observations.any (Execution.occupies metadataExecution reference)

def GatewayStore.deployment (s : GatewayStore) (deploymentId : Uuid) : Option Deployment :=
  findDeployment s.deployments deploymentId

structure CatalogError where
  code : String
  deriving DecidableEq

def MetadataReason.value : MetadataReason → String
  | .sourceUnconfigured => "SOURCE_UNCONFIGURED"
  | .sourceUnavailable => "SOURCE_UNAVAILABLE"
  | .sourceNotApproved => "SOURCE_NOT_APPROVED"
  | .sourceScopeMismatch => "SOURCE_SCOPE_MISMATCH"
  | .connectionUnavailable => "CONNECTION_UNAVAILABLE"
  | .candidateArchived => "CANDIDATE_ARCHIVED"
  | .inputChanged => "INPUT_CHANGED"
  | .actorIneligible => "ACTOR_INELIGIBLE"
  | .authorizationUnavailable => "AUTHORIZATION_UNAVAILABLE"
  | .materialUnavailable => "MATERIAL_UNAVAILABLE"
  | .materialVersionChanged => "MATERIAL_VERSION_CHANGED"
  | .connectionBusy => "CONNECTION_BUSY"
  | .targetUnavailable => "TARGET_UNAVAILABLE"
  | .targetNotAllowed => "TARGET_NOT_ALLOWED"
  | .providerRejected => "PROVIDER_REJECTED"
  | .providerRateLimited => "PROVIDER_RATE_LIMITED"
  | .providerError => "PROVIDER_ERROR"
  | .redirectRejected => "REDIRECT_REJECTED"
  | .invalidResponse => "INVALID_RESPONSE"
  | .invalidPage => "INVALID_PAGE"
  | .resultNotUnique => "RESULT_NOT_UNIQUE"
  | .incompleteResult => "INCOMPLETE_RESULT"
  | .modelIdentityMismatch => "MODEL_IDENTITY_MISMATCH"
  | .invalidTokenValue => "INVALID_TOKEN_VALUE"
  | .responseTooLarge => "RESPONSE_TOO_LARGE"
  | .requestOutcomeUnknown => "REQUEST_OUTCOME_UNKNOWN"
  | .responseCloseFailed => "RESPONSE_CLOSE_FAILED"
  | .executionExpired => "EXECUTION_EXPIRED"

structure PatchDeployment where
  providerModelId : Option String
  connectionRef : Option (Option String)
  declaredContextWindow : Option (Option Nat)
  declaredMaxOutputTokens : Option (Option Nat)

def createDeployment (value : Deployment) (s : GatewayStore) : Except CatalogError GatewayStore := do
  require (s.deployment value.id = none ∧ s.deployments.all fun row => row.deploymentKey ≠ value.deploymentKey)
    ⟨"MODEL_DEPLOYMENT_KEY_CONFLICT"⟩
  pure { s with deployments := s.deployments ++ [{ value with revision := 1, state := .draft }] }

def writable (deploymentId : Uuid) (expectedRevision : Nat) (s : GatewayStore) : Except CatalogError Deployment := do
  let current ← orRaise (s.deployment deploymentId) ⟨"MODEL_DEPLOYMENT_NOT_FOUND"⟩
  require (current.revision = expectedRevision) ⟨"MODEL_DEPLOYMENT_REVISION_CONFLICT"⟩
  require (current.state ≠ .archived) ⟨"MODEL_DEPLOYMENT_ARCHIVED"⟩
  pure current

def patchDeployment (deploymentId : Uuid) (request : PatchDeployment) (expectedRevision : Nat) (s : GatewayStore) :
    Except CatalogError GatewayStore := do
  let current ← writable deploymentId expectedRevision s
  pure { s with
    deployments := update (·.id) s.deployments deploymentId fun _ =>
      { current with
        providerModelId := request.providerModelId.getD current.providerModelId
        connectionRef := request.connectionRef.getD current.connectionRef
        declaredContextWindow := request.declaredContextWindow.getD current.declaredContextWindow
        declaredMaxOutputTokens := request.declaredMaxOutputTokens.getD current.declaredMaxOutputTokens
        revision := current.revision + 1 } }

def archiveDeployment (deploymentId : Uuid) (expectedRevision : Nat) (s : GatewayStore) :
    Except CatalogError GatewayStore := do
  let current ← writable deploymentId expectedRevision s
  pure { s with
    deployments := update (·.id) s.deployments deploymentId fun _ =>
      { current with state := .archived, revision := current.revision + 1 } }

-- The insert does nothing where the id is taken or, for an active row, where the
-- candidate has an active one already.
def insertable (k : ExecutionKind ι σ ρ ω μ κ) [DecidableEq σ] (value : Execution ι σ ρ ω μ)
    (rows : List (Execution ι σ ρ ω μ)) : Bool :=
  find (·.id) rows value.id = none ∧
    (k.active value.state → rows.all fun row => !(row.deploymentId = value.deploymentId && k.active row.state))

-- `ModelConnectionChecks.accept`: what the connection refuses at once is recorded
-- blocked and never queued.
def acceptCheck (digests : Digests) (directories : Directories) (deploymentId : Uuid) (expectedRevision : Nat)
    (actor : String) (checkKind : CheckKind) (newId : Uuid) (s : GatewayStore) :
    Except CatalogError GatewayStore := do
  let deployment ← orRaise (s.deployment deploymentId) ⟨"MODEL_DEPLOYMENT_NOT_FOUND"⟩
  require (deployment.revision = expectedRevision) ⟨"MODEL_DEPLOYMENT_REVISION_CONFLICT"⟩
  require (deployment.state ≠ .archived) ⟨"MODEL_DEPLOYMENT_ARCHIVED"⟩
  require (s.checks.all fun row => !(row.deploymentId = deploymentId && checkExecution.active row.state))
    ⟨"MODEL_CONNECTION_CHECK_ACTIVE"⟩
  let resolved := resolveConnection directories deployment.connectionRef
  let admitted : Except CheckReason Unit := do
    let (_,connection) ← resolved
    validateConnectionAdmission deployment connection checkKind
  let reason := match admitted with
    | .ok _ => none
    | .error reason => some reason
  let check : ConnectionCheck :=
    { id := newId
      deploymentId
      revision := 1
      requestedBy := actor
      requestedAt := s.clock
      input := ⟨checkKind,captureCheck digests deployment (resolved.toOption.map (·.2)) (resolved.toOption.map (·.1))
        checkKind⟩
      state := if reason.isSome then .blocked else .queued
      reason
      evidence := noProbeEvidence
      attempt := 0
      executionToken := none
      startedAt := none
      deadlineAt := none
      finishedAt := if reason.isSome then some s.clock else none
      materialCurrentness := .unverifiable }
  require (insertable checkExecution check s.checks = true) ⟨"MODEL_CONNECTION_CHECK_ACTIVE"⟩
  pure { s with checks := s.checks ++ [check] }

-- `ModelMetadataObservations.accept`
def acceptMetadata (digests : Digests) (directories : Directories) (deploymentId : Uuid) (expectedRevision : Nat)
    (sourceFingerprint actor : String) (newId : Uuid) (s : GatewayStore) : Except CatalogError GatewayStore := do
  let candidate ← orRaise (s.deployment deploymentId) ⟨"MODEL_DEPLOYMENT_NOT_FOUND"⟩
  require (candidate.revision = expectedRevision) ⟨"MODEL_DEPLOYMENT_REVISION_CONFLICT"⟩
  let (current,_) ← (resolveMetadataInput digests directories candidate).mapError fun reason =>
    ⟨"MODEL_METADATA_" ++ reason.value⟩
  require (current.source.fingerprint = sourceFingerprint) ⟨"MODEL_METADATA_SOURCE_CHANGED"⟩
  require (s.observations.all fun row => !(row.deploymentId = deploymentId && metadataExecution.active row.state))
    ⟨"MODEL_METADATA_OBSERVATION_ACTIVE"⟩
  let value : MetadataObservation :=
    { id := newId
      deploymentId
      revision := 1
      requestedBy := actor
      requestedAt := s.clock
      input := current
      state := .queued
      reason := none
      evidence := noMetadataEvidence
      attempt := 0
      executionToken := none
      startedAt := none
      deadlineAt := none
      finishedAt := none
      materialCurrentness := .unverifiable }
  require (insertable metadataExecution value s.observations = true) ⟨"MODEL_METADATA_OBSERVATION_ACTIVE"⟩
  pure { s with observations := s.observations ++ [value] }

def recoverExpiredCheck (id : Uuid) (s : GatewayStore) : Except WorkerError GatewayStore := do
  let checks ← recoverExecution checkExecution s.clock s.deployments id s.checks
  pure { s with checks }

def recoverExpiredMetadataObservation (id : Uuid) (s : GatewayStore) : Except WorkerError GatewayStore := do
  let observations ← recoverExecution metadataExecution s.clock s.deployments id s.observations
  pure { s with observations }

inductive GatewayTransaction where
  | tick (elapsed : Time)
  | create (value : Deployment)
  | patch (deploymentId : Uuid) (request : PatchDeployment) (expectedRevision : Nat)
  | archive (deploymentId : Uuid) (expectedRevision : Nat)
  | acceptCheck (directories : Directories) (deploymentId : Uuid) (expectedRevision : Nat) (actor : String)
      (checkKind : CheckKind) (newId : Uuid)
  | acceptMetadata (directories : Directories) (deploymentId : Uuid) (expectedRevision : Nat)
      (sourceFingerprint actor : String) (newId : Uuid)
  | recoverCheck (id : Uuid)
  | recoverMetadata (id : Uuid)

def commitGateway (digests : Digests) (s : GatewayStore) : GatewayTransaction → Option GatewayStore
  | .tick elapsed => some { s with clock := s.clock + elapsed }
  | .create value => (createDeployment value s).toOption
  | .patch deploymentId request expectedRevision => (patchDeployment deploymentId request expectedRevision s).toOption
  | .archive deploymentId expectedRevision => (archiveDeployment deploymentId expectedRevision s).toOption
  | .acceptCheck directories deploymentId expectedRevision actor checkKind newId =>
    (acceptCheck digests directories deploymentId expectedRevision actor checkKind newId s).toOption
  | .acceptMetadata directories deploymentId expectedRevision sourceFingerprint actor newId =>
    (acceptMetadata digests directories deploymentId expectedRevision sourceFingerprint actor newId s).toOption
  | .recoverCheck id => (recoverExpiredCheck id s).toOption
  | .recoverMetadata id => (recoverExpiredMetadataObservation id s).toOption

abbrev CheckWorker :=
  ExecutionWorker CheckInput CheckState CheckReason ProbeEvidence InputCurrentness ConnectionDefinition
abbrev MetadataWorker :=
  ExecutionWorker MetadataInput MetadataState MetadataReason MetadataEvidence MetadataApplicability
    MetadataSourceDefinition

-- A worker process runs one of the two at a time.
inductive GatewayWorker where
  | check (worker : CheckWorker)
  | metadata (worker : MetadataWorker)

inductive GatewayEvent where
  | check (event : ExecutionEvent CheckState CheckReason ProbeEvidence)
  | metadata (event : ExecutionEvent MetadataState MetadataReason MetadataEvidence)

def GatewayWorker.asCheck : GatewayWorker → Option CheckWorker
  | .check worker => some worker
  | .metadata .idle => some .idle
  | .metadata _ => none

def GatewayWorker.asMetadata : GatewayWorker → Option MetadataWorker
  | .metadata worker => some worker
  | .check .idle => some .idle
  | .check _ => none

def GatewayStore.receive (s : GatewayStore) (execution : ExecutionRef) (token : Option Uuid) : List ProviderRequest :=
  ⟨execution,token,s.clock⟩ :: s.requests

-- `process_connection_check`, one step of it.
def processConnectionCheck (digests : Digests) (s : GatewayStore) (worker : CheckWorker)
    (event : ExecutionEvent CheckState CheckReason ProbeEvidence) : Option (GatewayStore × CheckWorker) :=
  (executionStep checkExecution digests s.clock s.deployments s.connectionBusy s.checks worker event).map
    fun (checks,sent,memory) =>
      ({ s with
        checks
        requests := sent.elim s.requests fun row => s.receive (.check row.id) row.executionToken },memory)

-- `process_metadata_observation`, one step of it.
def processMetadataObservation (digests : Digests) (s : GatewayStore) (worker : MetadataWorker)
    (event : ExecutionEvent MetadataState MetadataReason MetadataEvidence) :
    Option (GatewayStore × MetadataWorker) :=
  (executionStep metadataExecution digests s.clock s.deployments s.connectionBusy s.observations worker event).map
    fun (observations,sent,memory) =>
      ({ s with
        observations
        requests := sent.elim s.requests fun row => s.receive (.metadata row.id) row.executionToken },memory)

def gatewayStep (digests : Digests) (s : GatewayStore) (worker : GatewayWorker) :
    GatewayEvent → Option (GatewayStore × GatewayWorker)
  | .check event => worker.asCheck.bind fun worker =>
    (processConnectionCheck digests s worker event).map fun (next,memory) => (next,.check memory)
  | .metadata event => worker.asMetadata.bind fun worker =>
    (processMetadataObservation digests s worker event).map fun (next,memory) => (next,.metadata memory)

def modelGateway (digests : Digests) : Program GatewayStore GatewayWorker GatewayTransaction GatewayEvent where
  idle := .check .idle
  transact := commitGateway digests
  act := gatewayStep digests

def emptyGateway (clock : Time) : GatewayStore := ⟨clock,[],[],[],[]⟩

end EngineeringPlatform.ModelGateway
