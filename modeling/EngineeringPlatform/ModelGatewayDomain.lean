import EngineeringPlatform.Checked
import EngineeringPlatform.Platform
import Mathlib.Data.List.Sort
namespace EngineeringPlatform.ModelGateway
open Checked

inductive ProviderKind where
  | bailianCompatibleMode
  deriving DecidableEq

inductive DeploymentState where
  | draft
  | archived
  deriving DecidableEq

inductive CheckKind where
  | basicText
  | streamText
  | streamStop
  | thinking
  | searchSources
  | toolCall
  deriving DecidableEq

inductive Region where
  | cnBeijing
  | apSoutheast1
  | usEast1
  | cnHongkong
  | euCentral1
  | apNortheast1
  deriving DecidableEq

inductive CheckState where
  | queued
  | running
  | succeeded
  | failed
  | unknown
  | blocked
  deriving DecidableEq

inductive CheckReason where
  | connectionMissing
  | connectionUnavailable
  | modelNotAllowed
  | materialUnavailable
  | materialVersionChanged
  | inputChanged
  | candidateArchived
  | actorIneligible
  | authorizationUnavailable
  | connectionBusy
  | targetUnavailable
  | targetNotAllowed
  | providerRejected
  | providerRateLimited
  | providerError
  | redirectRejected
  | invalidResponse
  | responseTooLarge
  | modelIdentityMismatch
  | responseTruncated
  | responseRefused
  | requestOutcomeUnknown
  | executionExpired
  | invalidStreamResponse
  | streamIdentityChanged
  | streamEventTooLarge
  | streamEventLimit
  | streamInterrupted
  | streamCloseFailed
  | thinkingSignalMissing
  | searchSourceSignalMissing
  | searchModelNotAllowed
  | searchRegionNotAllowed
  | invalidSearchResponse
  | searchEvidenceLimit
  | unsafeSearchSource
  | unexpectedToolOutput
  | responseCloseFailed
  | toolCallModelNotAllowed
  | toolCallSignalMissing
  deriving DecidableEq

inductive InputCurrentness where
  | current
  | stale
  | unverifiable
  deriving DecidableEq

inductive MetadataState where
  | queued
  | running
  | reported
  | notFound
  | indeterminate
  | failed
  | blocked
  | unknown
  deriving DecidableEq

inductive MetadataReason where
  | sourceUnconfigured
  | sourceUnavailable
  | sourceNotApproved
  | sourceScopeMismatch
  | connectionUnavailable
  | candidateArchived
  | inputChanged
  | actorIneligible
  | authorizationUnavailable
  | materialUnavailable
  | materialVersionChanged
  | connectionBusy
  | targetUnavailable
  | targetNotAllowed
  | providerRejected
  | providerRateLimited
  | providerError
  | redirectRejected
  | invalidResponse
  | invalidPage
  | resultNotUnique
  | incompleteResult
  | modelIdentityMismatch
  | invalidTokenValue
  | responseTooLarge
  | requestOutcomeUnknown
  | responseCloseFailed
  | executionExpired
  deriving DecidableEq

inductive MetadataApplicability where
  | matching
  | stale
  | unverifiable
  deriving DecidableEq

structure Deployment where
  id : Uuid
  deploymentKey : String
  revision : Nat
  state : DeploymentState
  providerKind : ProviderKind
  providerModelId : String
  connectionRef : Option String
  declaredContextWindow : Option Nat
  declaredMaxOutputTokens : Option Nat
  deriving DecidableEq

structure ConnectionDefinition where
  reference : String
  version : String
  materialVersion : String
  providerKind : ProviderKind
  region : Region
  workspaceId : String
  allowedModelIds : List String
  secretRef : String
  responsesSearchModelIds : List String
  toolCallModelIds : List String
  deriving DecidableEq

structure ConnectionManifest where
  environment : String
  connections : List ConnectionDefinition
  deriving DecidableEq

structure MetadataSourceDefinition where
  sourceId : String
  version : String
  connectionRef : String
  providerKind : ProviderKind
  region : Region
  workspaceId : Option String
  serviceSite : String
  allowedModelIds : List String
  inferenceProvider : String
  secretRef : String
  materialVersion : String
  deriving DecidableEq

structure MetadataSourceManifest where
  environment : String
  sources : List MetadataSourceDefinition
  deriving DecidableEq

-- The mounted manifests as one process finds them: absent where no path is set,
-- and `none` inside where the file is missing or does not validate.
structure Directories where
  environment : String
  connections : Option ConnectionManifest
  sources : Option (Option MetadataSourceManifest)

def searchRegions : List Region := [.cnBeijing,.apSoutheast1]

def seconds (count : Nat) : Time := count * 1000000

def executionLeaseSeconds : Nat := 25
def probeTimeoutSeconds : Nat := 20
def metadataLeaseSeconds : Nat := executionLeaseSeconds
def metadataTimeoutSeconds : Nat := probeTimeoutSeconds
def maxResponseBytes : Nat := 65536
def metadataMaxBytes : Nat := maxResponseBytes

def probeVersion : CheckKind → String
  | .basicText => "basic-text-v1"
  | .streamText => "stream-text-v1"
  | .streamStop => "stream-stop-v1"
  | .thinking => "thinking-v1"
  | .searchSources => "search-sources-v1"
  | .toolCall => "tool-call-v1"

def adapterVersion : CheckKind → String
  | .searchSources => "bailian-responses-v1"
  | .toolCall => "bailian-tool-call-v1"
  | _ => "bailian-compatible-v1"

def metadataAdapterVersion : String := "bailian-model-metadata-v1"

structure CheckInputValues where
  deploymentId : Uuid
  deploymentRevision : Nat
  providerKind : ProviderKind
  providerModelId : String
  connectionRef : Option String
  environment : Option String
  region : Option Region
  connectionVersion : Option String
  materialVersion : Option String
  connectionFingerprint : Option String
  adapterVersion : String
  probeVersion : String
  deriving DecidableEq

structure CheckInputSnapshot extends CheckInputValues where
  inputDigest : String
  deriving DecidableEq

-- What a check was accepted for: the kind column beside the captured input.
structure CheckInput where
  checkKind : CheckKind
  snapshot : CheckInputSnapshot
  deriving DecidableEq

structure MetadataConnectionValues where
  reference : String
  version : String
  providerKind : ProviderKind
  region : Region
  workspaceId : String
  deriving DecidableEq

structure MetadataSourceView where
  sourceId : String
  version : String
  fingerprint : String
  region : Region
  workspaceId : Option String
  serviceSite : String
  inferenceProvider : String
  deriving DecidableEq

structure MetadataInputValues where
  deploymentId : Uuid
  deploymentRevision : Nat
  providerKind : ProviderKind
  providerModelId : String
  declaredContextWindow : Option Nat
  declaredMaxOutputTokens : Option Nat
  connectionRef : String
  connectionVersion : String
  connectionFingerprint : String
  environment : String
  source : MetadataSourceView
  materialVersion : String
  adapterVersion : String
  pageNo : Nat
  pageSize : Nat
  deriving DecidableEq

structure MetadataInput extends MetadataInputValues where
  inputDigest : String
  deriving DecidableEq

-- `digest` of each of the payloads the code serialises. The probe's own body is
-- fixed by the model and the kind, so it is not an argument of its own.
structure Digests where
  connection : ConnectionDefinition → String
  checkInput : CheckInputValues → CheckKind → String
  metadataConnection : MetadataConnectionValues → String
  metadataSource : String → MetadataSourceDefinition → MetadataConnectionValues → String → String
  metadataInput : MetadataInputValues → String

def sorted (values : List String) : List String := values.insertionSort (· ≤ ·)

-- The values `fingerprint_for` serialises: a kind's own allowlist counts, the
-- other kinds' do not.
def ConnectionDefinition.fingerprinted (connection : ConnectionDefinition) (kind : CheckKind) : ConnectionDefinition :=
  { connection with
    responsesSearchModelIds := if kind = .searchSources then sorted connection.responsesSearchModelIds else []
    toolCallModelIds := if kind = .toolCall then sorted connection.toolCallModelIds else [] }

def ConnectionDefinition.fingerprintFor (digests : Digests) (connection : ConnectionDefinition) (kind : CheckKind) :
    String :=
  digests.connection (connection.fingerprinted kind)

def captureCheck (digests : Digests) (deployment : Deployment) (connection : Option ConnectionDefinition)
    (environment : Option String) (kind : CheckKind) : CheckInputSnapshot :=
  let values : CheckInputValues :=
    { deploymentId := deployment.id
      deploymentRevision := deployment.revision
      providerKind := deployment.providerKind
      providerModelId := deployment.providerModelId
      connectionRef := deployment.connectionRef
      environment
      region := connection.map (·.region)
      connectionVersion := connection.map (·.version)
      materialVersion := connection.map (·.materialVersion)
      connectionFingerprint := connection.map (·.fingerprintFor digests kind)
      adapterVersion := adapterVersion kind
      probeVersion := probeVersion kind }
  ⟨values,digests.checkInput values kind⟩

-- `FileConnectionDirectory.resolve`
def resolveConnection (directories : Directories) (reference : Option String) :
    Except CheckReason (String × ConnectionDefinition) := do
  let reference ← orRaise reference .connectionMissing
  let manifest ← orRaise directories.connections .connectionUnavailable
  require (manifest.environment = directories.environment) .connectionUnavailable
  let connection ← orRaise (manifest.connections.find? fun item => item.reference = reference)
    .connectionUnavailable
  pure (manifest.environment,connection)

-- `FileMetadataSourceDirectory.resolve`
def resolveSource (directories : Directories) (reference : Option String) :
    Except MetadataReason (String × MetadataSourceDefinition) := do
  let file ← orRaise directories.sources .sourceUnconfigured
  let manifest ← orRaise file .sourceUnavailable
  require (manifest.environment = directories.environment) .sourceScopeMismatch
  let source ← orRaise (manifest.sources.find? fun item => some item.connectionRef = reference)
    .sourceNotApproved
  pure (manifest.environment,source)

def validateConnectionAdmission (deployment : Deployment) (connection : ConnectionDefinition) (kind : CheckKind) :
    Except CheckReason Unit := do
  require (connection.providerKind = deployment.providerKind ∧
    deployment.providerModelId ∈ connection.allowedModelIds) .modelNotAllowed
  require (kind = .searchSources → connection.region ∈ searchRegions) .searchRegionNotAllowed
  require (kind = .searchSources → deployment.providerModelId ∈ connection.responsesSearchModelIds)
    .searchModelNotAllowed
  require (kind = .toolCall → deployment.providerModelId ∈ connection.toolCallModelIds) .toolCallModelNotAllowed

-- `_validate_input`, for the deployment as it is read now.
def validateInput (digests : Digests) (directories : Directories) (deployment : Option Deployment)
    (input : CheckInput) : Except CheckReason ConnectionDefinition := do
  let deployment ← orRaise deployment .candidateArchived
  require (deployment.state ≠ .archived) .candidateArchived
  let (environment,connection) ← resolveConnection directories deployment.connectionRef
  validateConnectionAdmission deployment connection input.checkKind
  require (captureCheck digests deployment (some connection) (some environment) input.checkKind = input.snapshot)
    .inputChanged
  pure connection

def metadataConnectionValues (connection : ConnectionDefinition) : MetadataConnectionValues :=
  ⟨connection.reference,connection.version,connection.providerKind,connection.region,connection.workspaceId⟩

def captureMetadata (digests : Digests) (candidate : Deployment) (connection : ConnectionDefinition)
    (source : MetadataSourceDefinition) (environment : String) : MetadataInput :=
  let used := metadataConnectionValues connection
  let values : MetadataInputValues :=
    { deploymentId := candidate.id
      deploymentRevision := candidate.revision
      providerKind := candidate.providerKind
      providerModelId := candidate.providerModelId
      declaredContextWindow := candidate.declaredContextWindow
      declaredMaxOutputTokens := candidate.declaredMaxOutputTokens
      connectionRef := connection.reference
      connectionVersion := connection.version
      connectionFingerprint := digests.metadataConnection used
      environment
      source :=
        { sourceId := source.sourceId
          version := source.version
          fingerprint := digests.metadataSource environment source used candidate.providerModelId
          region := source.region
          workspaceId := source.workspaceId
          serviceSite := source.serviceSite
          inferenceProvider := source.inferenceProvider }
      materialVersion := source.materialVersion
      adapterVersion := metadataAdapterVersion
      pageNo := 1
      pageSize := 2 }
  ⟨values,digests.metadataInput values⟩

def resolveMetadataInput (digests : Digests) (directories : Directories) (candidate : Deployment) :
    Except MetadataReason (MetadataInput × MetadataSourceDefinition) := do
  require (candidate.state = .draft) .candidateArchived
  let (environment,source) ← resolveSource directories candidate.connectionRef
  let (connectionEnvironment,connection) ←
    (resolveConnection directories candidate.connectionRef).mapError fun _ => .connectionUnavailable
  require (environment = connectionEnvironment ∧ source.connectionRef = connection.reference ∧
    candidate.providerKind = source.providerKind ∧ connection.providerKind = source.providerKind ∧
    connection.region = source.region ∧
    (source.workspaceId = none ∨ source.workspaceId = some connection.workspaceId)) .sourceScopeMismatch
  require (candidate.providerModelId ∈ source.allowedModelIds) .sourceNotApproved
  pure (captureMetadata digests candidate connection source environment,source)

-- `_source`
def validateSource (digests : Digests) (directories : Directories) (candidate : Option Deployment)
    (input : MetadataInput) : Except MetadataReason MetadataSourceDefinition := do
  let candidate ← orRaise candidate .candidateArchived
  let (current,source) ← resolveMetadataInput digests directories candidate
  require (current = input) .inputChanged
  pure source

-- `MetadataReason(error.reason.value)`, and `none` where no member has that value.
def metadataReason : CheckReason → Option MetadataReason
  | .connectionUnavailable => some .connectionUnavailable
  | .materialUnavailable => some .materialUnavailable
  | .materialVersionChanged => some .materialVersionChanged
  | .inputChanged => some .inputChanged
  | .candidateArchived => some .candidateArchived
  | .actorIneligible => some .actorIneligible
  | .authorizationUnavailable => some .authorizationUnavailable
  | .connectionBusy => some .connectionBusy
  | .targetUnavailable => some .targetUnavailable
  | .targetNotAllowed => some .targetNotAllowed
  | .providerRejected => some .providerRejected
  | .providerRateLimited => some .providerRateLimited
  | .providerError => some .providerError
  | .redirectRejected => some .redirectRejected
  | .invalidResponse => some .invalidResponse
  | .responseTooLarge => some .responseTooLarge
  | .modelIdentityMismatch => some .modelIdentityMismatch
  | .requestOutcomeUnknown => some .requestOutcomeUnknown
  | .executionExpired => some .executionExpired
  | .responseCloseFailed => some .responseCloseFailed
  | _ => none

-- A validated input names the connection the deployment is bound to now.
theorem resolveConnection_ok (ran : resolveConnection directories reference = .ok (environment,connection)) :
    reference = some connection.reference := by
  unfold resolveConnection at ran
  simp only [bind_ok,require_ok,orRaise_ok,pure_ok,Prod.mk.injEq] at ran
  obtain ⟨asked,present,_,_,_,_,_,found,_,rfl⟩ := ran
  have same := List.find?_some found
  rw [present,of_decide_eq_true same]

theorem validateInput_reference (ran : validateInput digests directories deployment input = .ok connection) :
    input.snapshot.connectionRef = some connection.reference := by
  unfold validateInput at ran
  simp only [bind_ok,require_ok,orRaise_ok,pure_ok] at ran
  obtain ⟨deployment,_,_,_,⟨environment,_⟩,resolved,_,_,_,captured,rfl⟩ := ran
  rw [←captured]
  exact resolveConnection_ok resolved

end EngineeringPlatform.ModelGateway
