import EngineeringPlatform.Checked
import EngineeringPlatform.PythonTime
import Mathlib.Data.List.Sort
namespace EngineeringPlatform.Identity
open Checked PythonTime

structure EffectiveIdentityPolicy where
  tempCredentialTtl : Duration
  passwordMaxAge : Option Duration
  sessionCap : Int
  sessionIdleTimeout : Duration
  backoffThreshold : Int
  backoffInitialDelay : Duration
  backoffMaxDelay : Duration
  backoffResetAfter : Duration
  totpAttemptCap : Int
  draftArchiveAfter : Duration
  deriving DecidableEq

-- The JSON a policy snapshot is stored as. `decimal` is any number that Python
-- does not read as an int.
inductive JsonValue where
  | null
  | boolean (value : Bool)
  | integer (value : Int)
  | decimal (text : String)
  | text (value : String)
  | list (items : List JsonValue)
  | object (fields : List (String × JsonValue))

abbrev PolicyValues := List (String × JsonValue)

inductive ValueType where
  | integer
  | enumOrInteger
  | object
  deriving DecidableEq

structure PolicyDefinition where
  key : String
  valueType : ValueType
  minValue : Option Int
  maxValue : Option Int
  deriving DecidableEq

def policyDefinitions : List PolicyDefinition :=
  [⟨"identity.temp_credential_ttl",.integer,some 1,none⟩,
    ⟨"identity.password_max_age",.enumOrInteger,some 1,none⟩,
    ⟨"identity.session_cap",.integer,some 1,some 10⟩,
    ⟨"identity.session_idle_timeout",.integer,some 15,some 240⟩,
    ⟨"identity.login_backoff",.object,none,none⟩,
    ⟨"identity.totp_attempt_cap",.integer,some 1,none⟩,
    ⟨"identity.draft_archive_after",.integer,some 1,none⟩]

def policySchemaRevision : Int := 1

structure PolicyIssue where
  code : String
  key : String
  message : String
  deriving DecidableEq

-- The order of `(issue.key, issue.code)`.
def PolicyIssue.before (one two : PolicyIssue) : Prop :=
  one.key < two.key ∨ (one.key = two.key ∧ one.code ≤ two.code)

instance : DecidableRel PolicyIssue.before := fun _ _ => inferInstanceAs (Decidable (_ ∨ _))

def integerIssue (key : String) (value : JsonValue) (minimum maximum : Option Int) : Option PolicyIssue :=
  match value with
  | .integer number =>
    if minimum.any (number < ·) then
      some ⟨"BELOW_MINIMUM",key,"Value is below the permitted minimum."⟩
    else if maximum.any (· < number) then
      some ⟨"ABOVE_MAXIMUM",key,"Value exceeds the permitted maximum."⟩
    else none
  | _ => some ⟨"INVALID_TYPE",key,"Value must use the registered integer type."⟩

def definitionIssue (values : PolicyValues) (definition : PolicyDefinition) : Option PolicyIssue :=
  match definition.valueType,values.lookup definition.key with
  | .integer,some value => integerIssue definition.key value definition.minValue definition.maxValue
  | .enumOrInteger,some (.text "NEVER") => none
  | .enumOrInteger,some value => integerIssue definition.key value definition.minValue definition.maxValue
  | _,_ => none

def backoffKeys : List String :=
  ["failureThreshold","initialDelaySeconds","maximumDelaySeconds","resetAfterHours"]

-- Two lists name the same set of keys.
def sameKeys (fields : PolicyValues) (keys : List String) : Bool :=
  (fields.all fun field => keys.contains field.1) ∧ (keys.all fun key => (fields.lookup key).isSome)

def positive : JsonValue → Bool
  | .integer number => 1 ≤ number
  | _ => false

def integerAt (values : PolicyValues) (key : String) : Option Int :=
  match values.lookup key with
  | some (.integer number) => some number
  | _ => none

def invalidObject : PolicyIssue :=
  ⟨"INVALID_OBJECT","identity.login_backoff","Value does not match the registered object schema."⟩

def crossFieldConflict : PolicyIssue :=
  ⟨"CROSS_FIELD_CONFLICT","identity.login_backoff","Backoff maximum must not be below its initial delay."⟩

def backoffIssue (values : PolicyValues) : Option PolicyIssue :=
  match values.lookup "identity.login_backoff" with
  | some (.object fields) =>
    if ¬sameKeys fields backoffKeys then some invalidObject
    else if fields.any fun field => ¬positive field.2 then some invalidObject
    else
      match integerAt fields "maximumDelaySeconds",integerAt fields "initialDelaySeconds" with
      | some maximum,some initial => if maximum < initial then some crossFieldConflict else none
      | _,_ => none
  | _ => some invalidObject

def keyIssues (values : PolicyValues) : List PolicyIssue :=
  ((policyDefinitions.map (·.key)).filter fun key => (values.lookup key).isNone).insertionSort (· ≤ ·) |>.map
      (fun key => ⟨"MISSING_KEY",key,"A registered policy value is missing."⟩)
    |> (· ++ (((values.map (·.1)).filter fun key => ¬(policyDefinitions.map (·.key)).contains key).insertionSort
      (· ≤ ·)).map fun key => ⟨"UNREGISTERED_KEY",key,"Policy key is not registered."⟩)

def validateIdentityPolicyCandidateStructure (schemaRevision : Int) (values : PolicyValues) :
    List PolicyIssue :=
  if schemaRevision ≠ policySchemaRevision then
    [⟨"UNSUPPORTED_SCHEMA_REVISION","$schema","Policy schema revision is not supported."⟩]
  else if keyIssues values ≠ [] then keyIssues values
  else
    (policyDefinitions.filterMap (definitionIssue values) ++ (backoffIssue values).toList).insertionSort
      PolicyIssue.before

-- The integers of a snapshot whose structure is valid.
structure PolicyNumbers where
  tempCredentialHours : Int
  passwordMaxAgeDays : Option Int
  sessionCap : Int
  sessionIdleMinutes : Int
  failureThreshold : Int
  initialDelaySeconds : Int
  maximumDelaySeconds : Int
  resetAfterHours : Int
  totpAttemptCap : Int
  draftArchiveDays : Int
  deriving DecidableEq

def passwordMaxAgeOf (values : PolicyValues) : Option (Option Int) :=
  match values.lookup "identity.password_max_age" with
  | some (.text "NEVER") => some none
  | some (.integer days) => some (some days)
  | _ => none

def backoffFieldsOf (values : PolicyValues) : Option PolicyValues :=
  match values.lookup "identity.login_backoff" with
  | some (.object fields) => some fields
  | _ => none

def policyNumbers (values : PolicyValues) : Option PolicyNumbers := do
  let fields ← backoffFieldsOf values
  pure {
    tempCredentialHours := ← integerAt values "identity.temp_credential_ttl"
    passwordMaxAgeDays := ← passwordMaxAgeOf values
    sessionCap := ← integerAt values "identity.session_cap"
    sessionIdleMinutes := ← integerAt values "identity.session_idle_timeout"
    failureThreshold := ← integerAt fields "failureThreshold"
    initialDelaySeconds := ← integerAt fields "initialDelaySeconds"
    maximumDelaySeconds := ← integerAt fields "maximumDelaySeconds"
    resetAfterHours := ← integerAt fields "resetAfterHours"
    totpAttemptCap := ← integerAt values "identity.totp_attempt_cap"
    draftArchiveDays := ← integerAt values "identity.draft_archive_after" }

-- A failure carries the path of the value that has no timedelta.
def duration (path : String) (value : Duration) : Except String Duration := orRaise (timedelta value) path

def ageOf (path : String) : Option Int → Except String (Option Duration)
  | none => pure none
  | some days => do
    let age ← duration path (days * day)
    pure (some age)

-- The constraints of the runtime type itself. Its validation error is the path
-- of the whole policy.
def EffectiveIdentityPolicy.wellFormed (policy : EffectiveIdentityPolicy) : Bool :=
  0 < policy.tempCredentialTtl ∧ (policy.passwordMaxAge.all (0 < ·)) ∧
    1 ≤ policy.sessionCap ∧ policy.sessionCap ≤ 10 ∧
    15 * minute ≤ policy.sessionIdleTimeout ∧ policy.sessionIdleTimeout ≤ 240 * minute ∧
    1 ≤ policy.backoffThreshold ∧ 0 < policy.backoffInitialDelay ∧ 0 < policy.backoffMaxDelay ∧
    0 < policy.backoffResetAfter ∧ 1 ≤ policy.totpAttemptCap ∧ 0 < policy.draftArchiveAfter ∧
    policy.backoffInitialDelay ≤ policy.backoffMaxDelay

def identityPolicyFromCandidate (numbers : PolicyNumbers) : Except String EffectiveIdentityPolicy := do
  let tempCredentialTtl ← duration "identity.temp_credential_ttl" (numbers.tempCredentialHours * hour)
  let passwordMaxAge ← ageOf "identity.password_max_age" numbers.passwordMaxAgeDays
  let sessionIdleTimeout ← duration "identity.session_idle_timeout" (numbers.sessionIdleMinutes * minute)
  let backoffInitialDelay ← duration "identity.login_backoff.initialDelaySeconds" (numbers.initialDelaySeconds * second)
  let backoffMaxDelay ← duration "identity.login_backoff.maximumDelaySeconds" (numbers.maximumDelaySeconds * second)
  let backoffResetAfter ← duration "identity.login_backoff.resetAfterHours" (numbers.resetAfterHours * hour)
  let draftArchiveAfter ← duration "identity.draft_archive_after" (numbers.draftArchiveDays * day)
  let policy : EffectiveIdentityPolicy := {
    tempCredentialTtl
    passwordMaxAge
    sessionCap := numbers.sessionCap
    sessionIdleTimeout
    backoffThreshold := numbers.failureThreshold
    backoffInitialDelay
    backoffMaxDelay
    backoffResetAfter
    totpAttemptCap := numbers.totpAttemptCap
    draftArchiveAfter }
  require (policy.wellFormed = true) "$policy"
  pure policy

def unrepresentable (path : String) : PolicyIssue :=
  ⟨"UNREPRESENTABLE_VALUE",path,"Value cannot be represented by the runtime policy type."⟩

def validateAndMaterializeIdentityPolicy (schemaRevision : Int) (values : PolicyValues) :
    List PolicyIssue × Option EffectiveIdentityPolicy :=
  match validateIdentityPolicyCandidateStructure schemaRevision values with
  | [] =>
    match (orRaise (policyNumbers values) "$policy").bind identityPolicyFromCandidate with
    | .ok policy => ([],some policy)
    | .error path => ([unrepresentable path],none)
  | issues => (issues,none)

end EngineeringPlatform.Identity
