import EngineeringPlatform.JsonEquality
import EngineeringPlatform.IdentityPolicyUses
namespace EngineeringPlatform.Configuration
open Checked Identity PythonTime

inductive ConfigurationError where
  | policySnapshotUnavailable (message : String)
  | invalidPolicyValue (message : String)
  | draftNotFound
  | staleDraftRevision (message : String)
  | draftOwnerRequired
  | draftArchived
  | draftAuthorizationDenied
  | typeError
  deriving DecidableEq

structure PolicyKey where
  key : String
  namespace_ : String
  valueType : String
  unit : Option String
  defaultValue : JsonValue
  minValue : JsonValue
  maxValue : JsonValue
  enumValues : JsonValue
  effectSemantics : String
  schemaRevision : Int

def identityKey (key valueType : String) (unit : Option String) (defaultValue minValue maxValue enumValues : JsonValue)
    (effectSemantics : String) : PolicyKey :=
  ⟨key,"identity",valueType,unit,defaultValue,minValue,maxValue,enumValues,effectSemantics,policySchemaRevision⟩

-- `_POLICY_DEFINITIONS`, as the rows of the catalog that agree with it.
def identityKeys : List PolicyKey :=
  [identityKey "identity.temp_credential_ttl" "INTEGER" (some "HOURS") (.integer 24) (.integer 1) .null .null "NEW_OBJECT",
    identityKey "identity.password_max_age" "ENUM_OR_INTEGER" (some "DAYS") (.text "NEVER") (.integer 1) .null
      (.list [.text "NEVER",.integer 90,.integer 180]) "IMMEDIATE",
    identityKey "identity.session_cap" "INTEGER" (some "SESSIONS") (.integer 3) (.integer 1) (.integer 10) .null "IMMEDIATE",
    identityKey "identity.session_idle_timeout" "INTEGER" (some "MINUTES") (.integer 60) (.integer 15) (.integer 240)
      .null "IMMEDIATE",
    identityKey "identity.login_backoff" "OBJECT" none (.object [("failureThreshold",.integer 5),
      ("initialDelaySeconds",.integer 30),("maximumDelaySeconds",.integer 900),("resetAfterHours",.integer 24)])
      .null .null .null "IMMEDIATE",
    identityKey "identity.totp_attempt_cap" "INTEGER" (some "ATTEMPTS") (.integer 5) (.integer 1) .null .null "IMMEDIATE",
    identityKey "identity.draft_archive_after" "INTEGER" (some "DAYS") (.integer 30) (.integer 1) .null .null
      "NEXT_SCHEDULE"]

-- A dict built from the rows keeps the last one of a key.
def byKey (rows : List PolicyKey) (key : String) : Option PolicyKey := rows.reverse.find? (·.key = key)

def registered (decimalEqual : String → String → Bool) (row definition : PolicyKey) : Bool :=
  row.namespace_ = "identity" ∧ row.schemaRevision = policySchemaRevision ∧ row.valueType = definition.valueType ∧
    row.unit = definition.unit ∧ equal decimalEqual row.defaultValue definition.defaultValue = true ∧
    equal decimalEqual row.minValue definition.minValue = true ∧
    equal decimalEqual row.maxValue definition.maxValue = true ∧
    equal decimalEqual row.enumValues definition.enumValues = true ∧ row.effectSemantics = definition.effectSemantics

-- `validate_identity_policy_catalog` finds no issue.
def catalogMatches (decimalEqual : String → String → Bool) (rows : List PolicyKey) : Bool :=
  (rows.all fun row => (identityKeys.map (·.key)).contains row.key) ∧
    identityKeys.all fun definition => (byKey rows definition.key).any (registered decimalEqual · definition)

def acceptanceKey : String := "acceptance.additional_required_capabilities"
def formalKey : String := "formal_review.additional_required_capabilities"
def archiveKey : String := "draft_archive_after_days"
def gateNamespace : String := "requirement.gate"
def gateSchemaRevision : Int := 1
def maxArchiveDays : Int := 3652058

def gateKey (key : String) : PolicyKey where
  key := key
  namespace_ := gateNamespace
  valueType := if key = archiveKey then "INTEGER" else "STRING_SET"
  unit := if key = archiveKey then some "DAYS" else none
  defaultValue := if key = archiveKey then .integer 30 else .list []
  minValue := if key = archiveKey then .integer 1 else .null
  maxValue := if key = archiveKey then .integer maxArchiveDays else .null
  enumValues := if key = archiveKey then .null else .list [.text "code.change"]
  effectSemantics := if key = archiveKey then "NEXT_SCHEDULE" else "NEW_OBJECT"
  schemaRevision := gateSchemaRevision

def gateKeys : List PolicyKey := [acceptanceKey,formalKey,archiveKey].map gateKey

-- What `__post_init__` checks is carried by the policy.
structure GatePolicy where
  acceptanceAdditional : List String
  formalReviewAdditional : List String
  draftArchiveAfterDays : Int
  acceptanceSupported : (∀ value ∈ acceptanceAdditional, value = "code.change") ∧ acceptanceAdditional.Nodup
  formalSupported : (∀ value ∈ formalReviewAdditional, value = "code.change") ∧ formalReviewAdditional.Nodup
  archives : 1 ≤ draftArchiveAfterDays ∧ draftArchiveAfterDays ≤ maxArchiveDays

def supportedText : JsonValue → Option String
  | .text value => if value = "code.change" then some value else none
  | _ => none

-- A set of supported capabilities, sorted.
def capabilitySet (value : JsonValue) :
    Option {values : List String // (∀ value ∈ values, value = "code.change") ∧ values.Nodup} :=
  match value with
  | .list items =>
    match items.mapM supportedText with
    | some texts =>
      let sorted := texts.insertionSort (· ≤ ·)
      if supported : (∀ value ∈ sorted, value = "code.change") ∧ sorted.Nodup then some ⟨sorted,supported⟩ else none
    | none => none
  | _ => none

def archiveDays (value : JsonValue) : Option {days : Int // 1 ≤ days ∧ days ≤ maxArchiveDays} :=
  match value with
  | .integer days => if inside : 1 ≤ days ∧ days ≤ maxArchiveDays then some ⟨days,inside⟩ else none
  | _ => none

def GatePolicy.parse (values : PolicyValues) (namespace_ scope : String) (schemaRevision : Int) :
    Except String GatePolicy := do
  require (namespace_ = gateNamespace ∧ scope = "PLATFORM" ∧ schemaRevision = gateSchemaRevision)
    "Unsupported Gate policy identity"
  require (sameKeys values [acceptanceKey,formalKey,archiveKey] = true) "Incomplete or unknown Gate policy keys"
  let acceptance ← orRaise ((values.lookup acceptanceKey).bind capabilitySet) "Invalid additional capability set"
  let formal ← orRaise ((values.lookup formalKey).bind capabilitySet) "Invalid additional capability set"
  let days ← orRaise ((values.lookup archiveKey).bind archiveDays) "Invalid draft archive interval"
  pure ⟨acceptance.1,formal.1,days.1,acceptance.2,formal.2,days.2⟩

def GatePolicy.values (policy : GatePolicy) : PolicyValues :=
  [(acceptanceKey,.list (policy.acceptanceAdditional.map .text)),
    (formalKey,.list (policy.formalReviewAdditional.map .text)),(archiveKey,.integer policy.draftArchiveAfterDays)]

def GatePolicy.archiveCutoff (policy : GatePolicy) (now : Instant) : Except String Instant :=
  orRaise (subtract now (policy.draftArchiveAfterDays * day)) "Archive cutoff is not representable"

-- The two modules that own a policy. The identity catalog is read from its table.
inductive PolicyOwner where
  | identity (rows : List PolicyKey)
  | gate

def unavailable : ConfigurationError := .policySnapshotUnavailable "Draft base comparison unavailable"

def PolicyOwner.catalog (decimalEqual : String → String → Bool) (owner : PolicyOwner) (namespace_ : String) :
    Except ConfigurationError (List PolicyKey) :=
  match owner with
  | .identity rows => do
    let rows := rows.filter (·.namespace_ = namespace_)
    require (catalogMatches decimalEqual rows = true) (.policySnapshotUnavailable namespace_)
    pure rows
  | .gate => do
    require (namespace_ = gateNamespace) (.policySnapshotUnavailable "Unsupported policy namespace")
    pure gateKeys

def PolicyOwner.normalizeCandidate (decimalEqual : String → String → Bool) (owner : PolicyOwner) (namespace_ : String)
    (schemaRevision : Int) (values : PolicyValues) : Except ConfigurationError PolicyValues :=
  match owner with
  | .identity _ => do
    require (namespace_ = "identity" ∧ schemaRevision = policySchemaRevision) (.policySnapshotUnavailable namespace_)
    let _ ← owner.catalog decimalEqual namespace_
    match validateAndMaterializeIdentityPolicy schemaRevision values with
    | ([],some _) => pure values
    | _ => .error (.invalidPolicyValue "Invalid policy candidate")
  | .gate => do
    let _ ← owner.catalog decimalEqual namespace_
    require (schemaRevision = gateSchemaRevision) (.policySnapshotUnavailable "Unsupported Gate policy schema")
    match GatePolicy.parse values namespace_ "PLATFORM" schemaRevision with
    | .ok policy => pure policy.values
    | .error _ => .error (.invalidPolicyValue "Invalid Gate policy candidate")

-- `_check_archive_cutoff`, before the gate owner writes a draft. The identity owner has
-- no such check.
def PolicyOwner.checkArchiveCutoff (owner : PolicyOwner) (content : PolicyValues) (now : Instant) :
    Except ConfigurationError Unit :=
  match owner with
  | .identity _ => pure ()
  | .gate =>
    match GatePolicy.parse content gateNamespace "PLATFORM" gateSchemaRevision with
    | .ok policy => require (policy.archiveCutoff now).isOk (.invalidPolicyValue "Invalid draft archive interval")
    | .error _ => .error (.invalidPolicyValue "Invalid draft archive interval")

end EngineeringPlatform.Configuration
