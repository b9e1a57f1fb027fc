import EngineeringPlatform.JsonCodec
import EngineeringPlatform.SandboxController
-- The results of a provision command with every field they carry, as they are written
-- into its receipt and read from it.
namespace EngineeringPlatform.Sandbox.Receipts
open JsonCodec Identity Idempotency

inductive ExecutionKind where
  | singleRepositoryFix
  deriving DecidableEq

def ExecutionKind.value : ExecutionKind → String
  | .singleRepositoryFix => "SINGLE_REPOSITORY_FIX"

def digestPattern (value : String) : Bool :=
  value.toList.take 7 = "sha256:".toList ∧ value.length = 71 ∧
    (value.toList.drop 7).all fun char => ('0' ≤ char ∧ char ≤ '9') ∨ ('a' ≤ char ∧ char ≤ 'f')

abbrev Digest := {value : String // digestPattern value = true}
abbrev PositiveInt := {value : Int // 1 ≤ value}

structure ExecutionRef where
  executionId : NonEmptyStr
  kind : ExecutionKind

structure EvidenceRef where
  kind : EvidenceKind
  artifactId : NonEmptyStr
  version : NonEmptyStr
  sha256 : Digest
  classification : NonEmptyStr

structure CanonicalDenial where
  code : DenialCode
  failureDimension : Option NonEmptyStr
  policyVersion : Option NonEmptyStr
  diagnosticRef : Option EvidenceRef
  retryable : Bool

structure MaterializationHandle where
  materializationId : NonEmptyStr
  environmentId : NonEmptyStr
  executionId : NonEmptyStr
  leaseId : NonEmptyStr
  generation : PositiveInt
  fencingToken : String
  revision : PositiveInt
  deadlineAt : Time

structure MaterializationReady where
  handle : MaterializationHandle
  bindingDigest : Digest
  runnerProtocolVersion : NonEmptyStr
  labOnly : Bool

-- The fields of MaterializationBlocked and of MaterializationFailed.
structure MaterializationDenied where
  execution : ExecutionRef
  bindingDigest : Digest
  denial : CanonicalDenial

inductive ProvisionResult where
  | ready (result : MaterializationReady)
  | blocked (result : MaterializationDenied)
  | failed (result : MaterializationDenied)

-- `schema_version: Literal[1] = 1`
def schemaVersion : String × JsonValue := ("schema_version",.integer 1)

def readsSchema (fields : Fields) : Option Unit := defaulted fields "schema_version" () (literalInteger 1)

def evidenceKindValue : EvidenceKind → String
  | .checkpoint => "CHECKPOINT"
  | .patch => "PATCH"
  | .log => "LOG"
  | .testResult => "TEST_RESULT"
  | .previewMetadata => "PREVIEW_METADATA"
  | .diagnostic => "DIAGNOSTIC"

def executionKind : Codec ExecutionKind :=
  enumeration [.singleRepositoryFix] ExecutionKind.value fun value => by cases value; decide

def evidenceKind : Codec EvidenceKind :=
  enumeration [.checkpoint,.patch,.log,.testResult,.previewMetadata,.diagnostic] evidenceKindValue
    fun value => by cases value <;> decide

def denialCode : Codec DenialCode :=
  enumeration [.capacityUnavailable,.policyLimitReached,.policyDisabled,.runtimeBindingInvalid,.runtimeCapabilityDenied,
    .runtimeBoundaryViolation,.staleRunnerGeneration,.resourceExhausted] DenialCode.value fun value => by cases value <;> decide

def digest : Codec Digest := pattern digestPattern

def positiveInt : Codec PositiveInt := integer 1

def executionRef : Codec ExecutionRef :=
  model ["schema_version","execution_id","kind"]
    (fun value => [schemaVersion,("execution_id",nonEmpty.encode value.executionId),("kind",executionKind.encode value.kind)])
    (fun fields => do
      readsSchema fields
      pure ⟨← required fields "execution_id" nonEmpty,← required fields "kind" executionKind⟩)
    (fun value => by simp [schemaVersion])
    fun value => by simp [schemaVersion,readsSchema,literalInteger,required,defaulted,List.lookup_cons]

def evidenceRef : Codec EvidenceRef :=
  model ["schema_version","kind","artifact_id","version","sha256","classification"]
    (fun value => [schemaVersion,("kind",evidenceKind.encode value.kind),("artifact_id",nonEmpty.encode value.artifactId),
      ("version",nonEmpty.encode value.version),("sha256",digest.encode value.sha256),
      ("classification",nonEmpty.encode value.classification)])
    (fun fields => do
      readsSchema fields
      pure ⟨← required fields "kind" evidenceKind,← required fields "artifact_id" nonEmpty,← required fields "version" nonEmpty,
        ← required fields "sha256" digest,← required fields "classification" nonEmpty⟩)
    (fun value => by simp [schemaVersion])
    fun value => by simp [schemaVersion,readsSchema,literalInteger,required,defaulted,List.lookup_cons]

def canonicalDenial : Codec CanonicalDenial :=
  model ["schema_version","code","failure_dimension","policy_version","diagnostic_ref","retryable"]
    (fun value => [schemaVersion,("code",denialCode.encode value.code),
      ("failure_dimension",nonEmpty.encodeOption value.failureDimension),
      ("policy_version",nonEmpty.encodeOption value.policyVersion),
      ("diagnostic_ref",evidenceRef.encodeOption value.diagnosticRef),("retryable",boolean.encode value.retryable)])
    (fun fields => do
      readsSchema fields
      pure ⟨← required fields "code" denialCode,← nullable fields "failure_dimension" nonEmpty,
        ← nullable fields "policy_version" nonEmpty,← nullable fields "diagnostic_ref" evidenceRef,
        ← defaulted fields "retryable" false boolean⟩)
    (fun value => by simp [schemaVersion])
    fun value => by simp [schemaVersion,readsSchema,literalInteger,required,defaulted,nullable,List.lookup_cons]

section
-- How an aware datetime is written and read back, as the instant it stands for.
variable (instant : Codec Time)

def materializationHandle : Codec MaterializationHandle :=
  model ["schema_version","materialization_id","environment_id","execution_id","lease_id","generation","fencing_token",
      "revision","deadline_at"]
    (fun value => [schemaVersion,("materialization_id",nonEmpty.encode value.materializationId),
      ("environment_id",nonEmpty.encode value.environmentId),("execution_id",nonEmpty.encode value.executionId),
      ("lease_id",nonEmpty.encode value.leaseId),("generation",positiveInt.encode value.generation),
      ("fencing_token",secret.encode value.fencingToken),("revision",positiveInt.encode value.revision),
      ("deadline_at",instant.encode value.deadlineAt)])
    (fun fields => do
      readsSchema fields
      pure ⟨← required fields "materialization_id" nonEmpty,← required fields "environment_id" nonEmpty,
        ← required fields "execution_id" nonEmpty,← required fields "lease_id" nonEmpty,
        ← required fields "generation" positiveInt,← required fields "fencing_token" secret,
        ← required fields "revision" positiveInt,← required fields "deadline_at" instant⟩)
    (fun value => by simp [schemaVersion])
    fun value => by simp [schemaVersion,readsSchema,literalInteger,required,defaulted,List.lookup_cons]

def materializationReady : Codec MaterializationReady :=
  model ["kind","handle","binding_digest","runner_protocol_version","lab_only"]
    (fun value => [("kind",(literal "READY").encode ()),("handle",(materializationHandle instant).encode value.handle),
      ("binding_digest",digest.encode value.bindingDigest),
      ("runner_protocol_version",nonEmpty.encode value.runnerProtocolVersion),("lab_only",boolean.encode value.labOnly)])
    (fun fields => do
      defaulted fields "kind" () (literal "READY")
      pure ⟨← required fields "handle" (materializationHandle instant),← required fields "binding_digest" digest,
        ← required fields "runner_protocol_version" nonEmpty,← required fields "lab_only" boolean⟩)
    (fun value => by simp)
    fun value => by simp [required,defaulted,List.lookup_cons]

def materializationDenied (kind : String) : Codec MaterializationDenied :=
  model ["kind","execution","binding_digest","denial"]
    (fun value => [("kind",(literal kind).encode ()),("execution",executionRef.encode value.execution),
      ("binding_digest",digest.encode value.bindingDigest),("denial",canonicalDenial.encode value.denial)])
    (fun fields => do
      defaulted fields "kind" () (literal kind)
      pure ⟨← required fields "execution" executionRef,← required fields "binding_digest" digest,
        ← required fields "denial" canonicalDenial⟩)
    (fun value => by simp)
    fun value => by simp [required,defaulted,List.lookup_cons]

def materializationBlocked : Codec MaterializationDenied := materializationDenied "BLOCKED"
def materializationFailed : Codec MaterializationDenied := materializationDenied "FAILED"

-- The members of the union that accept a body, in the union's order.
def accepting (body : JsonValue) : List ProvisionResult :=
  (((materializationReady instant).decode body).map ProvisionResult.ready).toList ++
    ((materializationBlocked.decode body).map ProvisionResult.blocked).toList ++
    ((materializationFailed.decode body).map ProvisionResult.failed).toList
end
end EngineeringPlatform.Sandbox.Receipts
