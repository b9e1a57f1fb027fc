import EngineeringPlatform.PolicyAcceptance
namespace EngineeringPlatform.Configuration
open Checked Identity PythonTime

-- A JSON object names no key twice, at any depth.
mutual
def distinctKeys : JsonValue → Bool
  | .list items => distinctItems items
  | .object fields => (fields.map Prod.fst).Nodup && distinctFields fields
  | _ => true
termination_by structural value => value

def distinctItems : List JsonValue → Bool
  | [] => true
  | item :: rest => distinctKeys item && distinctItems rest
termination_by structural items => items

def distinctFields : List (String × JsonValue) → Bool
  | [] => true
  | field :: rest => distinctField field && distinctFields rest
termination_by structural fields => fields

def distinctField : String × JsonValue → Bool
  | (_,value) => distinctKeys value
termination_by structural field => field
end

structure PolicySnapshot where
  namespace_ : String
  scope : String
  version : Int
  schemaRevision : Int
  snapshotHash : String
  values : PolicyValues
  distinct : distinctKeys (.object values) = true

inductive DraftStatus where
  | draft
  | archived
  deriving DecidableEq

structure Draft where
  id : String
  namespace_ : String
  scope : String
  content : PolicyValues
  baseVersion : Int
  ownerId : String
  revision : Int
  status : DraftStatus
  lastMeaningfulActivityAt : Instant
  archivedAt : Option Instant
  schemaRevision : Int
  contentHash : String

inductive DraftBaseChange where
  | unchanged
  | currentOnly
  | draftOnly
  | sameChange
  | conflict
  deriving DecidableEq

structure DraftBaseComparisonItem where
  key : String
  valueType : String
  unit : Option String
  baseValue : JsonValue
  currentValue : JsonValue
  draftValue : JsonValue
  change : DraftBaseChange

structure DraftBaseComparison where
  draftId : String
  namespace_ : String
  ownerId : String
  draftRevision : Int
  status : DraftStatus
  schemaRevision : Int
  baseVersion : Int
  currentVersion : Int
  baseSnapshotHash : String
  currentSnapshotHash : String
  draftContentHash : String
  items : List DraftBaseComparisonItem

section
variable (decimalEqual : String → String → Bool) (digest : PolicyValues → String) (owner : PolicyOwner)

def checkSnapshot (snapshot : Option PolicySnapshot) (namespace_ : String) (schemaRevision : Int) :
    Except ConfigurationError PolicySnapshot := do
  let snapshot ← orRaise snapshot unavailable
  require (snapshot.namespace_ = namespace_ ∧ snapshot.scope = "PLATFORM" ∧ 1 ≤ snapshot.version ∧
    snapshot.schemaRevision = schemaRevision ∧ snapshot.snapshotHash = digest snapshot.values) unavailable
  pure snapshot

def registeredCatalog (namespace_ : String) (schemaRevision : Int) (catalog : List PolicyKey) : Bool :=
  catalog.map (·.key) ≠ [] ∧ (catalog.map (·.key)).Nodup ∧ ∀ item ∈ catalog, item.key ≠ "" ∧ item.valueType ≠ "" ∧
    item.namespace_ = namespace_ ∧ item.schemaRevision = schemaRevision

def normalizeSnapshot (namespace_ : String) (snapshot : PolicySnapshot) : Except ConfigurationError PolicyValues :=
  match owner.normalizeCandidate decimalEqual namespace_ snapshot.schemaRevision snapshot.values with
  | .error (.invalidPolicyValue _) => .error unavailable
  | normalized => normalized

def classify (before active saved : JsonValue) : DraftBaseChange :=
  let currentChanged := ¬equal decimalEqual before active
  let draftChanged := ¬equal decimalEqual before saved
  if ¬currentChanged ∧ ¬draftChanged then .unchanged
  else if ¬draftChanged then .currentOnly
  else if ¬currentChanged then .draftOnly
  else if equal decimalEqual active saved then .sameChange
  else .conflict

-- The keys are checked before: every key of the catalog has a value.
def valueAt (values : PolicyValues) (key : String) : JsonValue := (values.lookup key).getD .null

def compareItem (base current draft : PolicyValues) (item : PolicyKey) : DraftBaseComparisonItem where
  key := item.key
  valueType := item.valueType
  unit := item.unit
  baseValue := valueAt base item.key
  currentValue := valueAt current item.key
  draftValue := valueAt draft item.key
  change := classify decimalEqual (valueAt base item.key) (valueAt current item.key) (valueAt draft item.key)

def comparePolicyValues (namespace_ : String) (schemaRevision : Int) (base current : PolicySnapshot)
    (content : PolicyValues) : Except ConfigurationError (List DraftBaseComparisonItem) := do
  let catalog ← owner.catalog decimalEqual namespace_
  let keys := catalog.map (·.key)
  require (registeredCatalog namespace_ schemaRevision catalog = true) unavailable
  let baseValues ← normalizeSnapshot decimalEqual owner namespace_ base
  let currentValues ← normalizeSnapshot decimalEqual owner namespace_ current
  let draftValues ← owner.normalizeCandidate decimalEqual namespace_ schemaRevision content
  require (sameKeys baseValues keys ∧ sameKeys currentValues keys ∧ sameKeys draftValues keys) unavailable
  require (base.version = current.version → base.snapshotHash = current.snapshotHash ∧
    equal decimalEqual (.object baseValues) (.object currentValues) = true) unavailable
  pure ((catalog.insertionSort (fun one two => one.key ≤ two.key)).map
    (compareItem decimalEqual baseValues currentValues draftValues))

def compareDraftBase (namespace_ draftId : String) (expectedRevision : Int) (draft : Option Draft)
    (base current : Option PolicySnapshot) : Except ConfigurationError DraftBaseComparison := do
  let draft ← orRaise draft .draftNotFound
  require (draft.namespace_ = namespace_ ∧ draft.id = draftId) .draftNotFound
  require (draft.revision = expectedRevision) (.staleDraftRevision "Draft revision changed")
  require (draft.scope = "PLATFORM" ∧ draft.ownerId ≠ "" ∧ 1 ≤ draft.revision ∧ 1 ≤ draft.baseVersion ∧
    1 ≤ draft.schemaRevision ∧ draft.contentHash = digest draft.content) unavailable
  let base ← checkSnapshot digest base namespace_ draft.schemaRevision
  let current ← checkSnapshot digest current namespace_ draft.schemaRevision
  require (base.version = draft.baseVersion ∧ base.version ≤ current.version) unavailable
  let items ← comparePolicyValues decimalEqual owner namespace_ draft.schemaRevision base current draft.content
  pure ⟨draft.id,namespace_,draft.ownerId,draft.revision,draft.status,draft.schemaRevision,base.version,current.version,
    base.snapshotHash,current.snapshotHash,draft.contentHash,items⟩

inductive RebaseSource where
  | base
  | current
  | draft
  | custom
  deriving DecidableEq

structure RebaseSelection where
  key : String
  change : DraftBaseChange
  source : RebaseSource
  resolution : Option (RebaseSource × Option JsonValue)

def invalidResolution : ConfigurationError := .invalidPolicyValue "Invalid conflict resolution"

-- What a resolution says: a side, or a value of its own. A choice that cannot be in a
-- set is a TypeError.
def resolve (resolution : JsonValue) : Except ConfigurationError (RebaseSource × Option JsonValue) :=
  match resolution with
  | .object fields =>
    match fields.lookup "choice" with
    | some (.text "CURRENT") => do
      require (sameKeys fields ["choice"] = true) invalidResolution
      pure (.current,none)
    | some (.text "DRAFT") => do
      require (sameKeys fields ["choice"] = true) invalidResolution
      pure (.draft,none)
    | some (.text "CUSTOM") => do
      require (sameKeys fields ["choice","value"] = true) invalidResolution
      pure (.custom,fields.lookup "value")
    | some (.list _) | some (.object _) => .error .typeError
    | _ => .error invalidResolution
  | _ => .error invalidResolution

def automatic : DraftBaseChange → RebaseSource
  | .unchanged => .base
  | .currentOnly => .current
  | .draftOnly => .draft
  | .sameChange => .current
  | .conflict => .custom

def DraftBaseComparisonItem.sourceValue (item : DraftBaseComparisonItem) (custom : Option JsonValue) :
    RebaseSource → JsonValue
  | .base => item.baseValue
  | .current => item.currentValue
  | .draft => item.draftValue
  | .custom => custom.getD .null

def select (resolutions : PolicyValues) (item : DraftBaseComparisonItem) :
    Except ConfigurationError (DraftBaseComparisonItem × RebaseSource × JsonValue) :=
  if item.change = .conflict then do
    let (source,custom) ← resolve (valueAt resolutions item.key)
    pure (item,source,item.sourceValue custom source)
  else pure (item,automatic item.change,item.sourceValue none (automatic item.change))

def recordSelection (normalized : PolicyValues) (selected : DraftBaseComparisonItem × RebaseSource × JsonValue) :
    RebaseSelection where
  key := selected.1.key
  change := selected.1.change
  source := selected.2.1
  resolution :=
    if selected.1.change = .conflict then
      some (selected.2.1,if selected.2.1 = .custom then some (valueAt normalized selected.1.key) else none)
    else none

def conflicts (items : List DraftBaseComparisonItem) : List String :=
  (items.filter fun item => item.change = .conflict).map (·.key)

def rebaseCandidate (observation : DraftBaseComparison) (resolutions : JsonValue) :
    Except ConfigurationError (PolicyValues × List RebaseSelection) := do
  match resolutions with
  | .object resolutions =>
    require (sameKeys resolutions (conflicts observation.items) = true)
      (.invalidPolicyValue "Resolve exactly the current conflicts")
    let selected ← observation.items.mapM (select resolutions)
    let normalized ← owner.normalizeCandidate decimalEqual observation.namespace_ observation.schemaRevision
      (selected.map fun selected => (selected.1.key,selected.2.2))
    pure (normalized,selected.map (recordSelection normalized))
  | _ => .error (.invalidPolicyValue "Resolve exactly the current conflicts")

-- The answer of the authorization port: an exception it does not declare counts as
-- unavailable.
inductive DraftAuthorization where
  | allowed
  | denied
  | unavailable (message : String)
  | failed

def checkAuthorization : DraftAuthorization → Except ConfigurationError Unit
  | .allowed => pure ()
  | .denied => .error .draftAuthorizationDenied
  | .unavailable message => .error (.policySnapshotUnavailable message)
  | .failed => .error (.policySnapshotUnavailable "Current rebase authorization unavailable")

def observedFields (observation : DraftBaseComparison) : PolicyValues :=
  [("baseVersion",.integer observation.baseVersion),("currentVersion",.integer observation.currentVersion),
    ("schemaRevision",.integer observation.schemaRevision),("baseSnapshotHash",.text observation.baseSnapshotHash),
    ("currentSnapshotHash",.text observation.currentSnapshotHash),
    ("draftContentHash",.text observation.draftContentHash)]

-- The row as the conditional UPDATE leaves it.
def Draft.rebase (baseVersion : Int) (content : PolicyValues) (now : Instant) (draft : Draft) : Draft :=
  {draft with
    content := content, contentHash := digest content, baseVersion := baseVersion, revision := draft.revision + 1
    lastMeaningfulActivityAt := now}

-- The locked rows of the draft and the active policy, and the version the draft was based on.
structure RebaseReads where
  current : PolicySnapshot
  draft : Option Draft
  base : Option PolicySnapshot

def applyDraftRebase (namespace_ draftId actorId : String) (expectedRevision : Int) (request : PolicyValues)
    (authorization : Option DraftAuthorization) (now : Instant) (reads : RebaseReads) :
    Except ConfigurationError (Draft × List RebaseSelection) := do
  let authorization ← orRaise authorization (.policySnapshotUnavailable "Current rebase authorization unavailable")
  let draft ← orRaise reads.draft .draftNotFound
  require (draft.id = draftId ∧ draft.namespace_ = namespace_) .draftNotFound
  require (draft.revision = expectedRevision) (.staleDraftRevision "Draft revision changed")
  require (draft.ownerId = actorId) .draftOwnerRequired
  require (draft.status = .draft) .draftArchived
  let observation ← compareDraftBase decimalEqual digest owner namespace_ draftId expectedRevision (some draft)
    reads.base (some reads.current)
  require ((observedFields observation).all fun field => equal decimalEqual (valueAt request field.1) field.2)
    (.staleDraftRevision "Rebase observation changed")
  require (observation.baseVersion < observation.currentVersion) (.staleDraftRevision "Draft does not need rebase")
  let (normalized,selections) ← rebaseCandidate decimalEqual owner observation (valueAt request "resolutions")
  checkAuthorization authorization
  owner.checkArchiveCutoff normalized now
  require (draft.archivedAt = none) (.staleDraftRevision "Draft changed before rebase")
  pure (draft.rebase digest reads.current.version normalized now,selections)

end

end EngineeringPlatform.Configuration
