import EngineeringPlatform.PublicReference
import EngineeringPlatform.EventStream
-- What one answer of the search protocol is taken for.
namespace EngineeringPlatform.SearchSources
open Checked PythonText Trimming UrlParse EventStream ModelGateway

structure SearchSourceReference where
  callId : Text
  sanitizedUrl : Text
  deriving DecidableEq

structure SearchQueryObservation where
  callId : Text
  count : Option Nat
  digest : Option Text
  deriving DecidableEq

structure SearchSourceObservation where
  consumedBytes : Nat
  completedSearchCallCount : Nat
  sourceSignalObserved : Bool
  providerSearchCallCount : Option Nat := none
  textObserved : Bool
  normalCompletionObserved : Bool
  localResponseClosed : Bool
  sources : List SearchSourceReference
  queries : List SearchQueryObservation
  deriving DecidableEq

structure ProbeOutcome where
  observation : SearchSourceObservation
  state : CheckState
  reason : Option CheckReason := none
  elapsedMs : Option Nat := none
  providerRequestId : Option Text := none
  reportedModelId : Option Text := none
  usage : Option ProbeUsage := none
  deriving DecidableEq

-- How a parse ends early: by a `SearchProtocolError`, by any other error that is caught,
-- or by the return of a `search_failure`.
inductive Stop where
  | protocol (reason : CheckReason)
  | invalid
  | returned (reason : CheckReason) (consumed : Nat) (state : CheckState)
  deriving DecidableEq

def maxSearchCalls : Nat := 8
def maxSearchSources : Nat := 32
def maxSourcesPerCall : Nat := 16
def maxSearchQueries : Nat := 8
def maxSearchQueryLength : Nat := 512
def maxItems : Nat := 32

def callIdValid (callId : Text) : Bool := 1 ≤ callId.length ∧ callId.length ≤ 128 ∧ ¬callId.any surrogate

def SearchSourceReference.valid (reference : SearchSourceReference) : Bool :=
  callIdValid reference.callId ∧ 8 ≤ reference.sanitizedUrl.length ∧ reference.sanitizedUrl.length ≤ maxSourceUrlLength ∧
    reference.sanitizedUrl.take 8 = text "https://" ∧ ¬reference.sanitizedUrl.any surrogate

def SearchQueryObservation.valid (query : SearchQueryObservation) : Bool :=
  callIdValid query.callId ∧ query.count.all (· ≤ maxSearchQueries) ∧
    query.digest.all fun digest => digest.length = 64 ∧ digest.all hexLower

def SearchSourceObservation.valid (observation : SearchSourceObservation) : Bool :=
  observation.consumedBytes ≤ 65537 ∧ observation.completedSearchCallCount ≤ maxSearchCalls ∧
    observation.providerSearchCallCount.all (· ≤ 2147483647) ∧ observation.sources.length ≤ maxSearchSources ∧
    observation.queries.length ≤ maxSearchCalls

-- A ValidationError
structure Invalid where
  deriving DecidableEq

def searchFailure (reason : CheckReason) (consumed : Nat) (state : CheckState) : Except Invalid ProbeOutcome := do
  let observation : SearchSourceObservation := {
    consumedBytes := consumed
    completedSearchCallCount := 0
    sourceSignalObserved := false
    textObserved := false
    normalCompletionObserved := false
    localResponseClosed := false
    sources := []
    queries := []}
  require (observation.valid = true) {}
  pure {observation, state, reason := some reason}

-- `value.split()`
def words (value : Text) : List Text := (value.splitOnP whiteSpace).filter (· ≠ [])

def normalize : Json → Except Stop Text
  | .text value => do
    require (1 ≤ value.length ∧ value.length ≤ maxSearchQueryLength) (.protocol .invalidSearchResponse)
    let result : Text := [32].intercalate (words value)
    require (result ≠ []) (.protocol .invalidSearchResponse)
    pure result
  | _ => .error (.protocol .invalidSearchResponse)

def searchQueryObservation (query : SearchQueryObservation) : Except Stop SearchQueryObservation := do
  require (query.valid = true) .invalid
  pure query

def normalizeSingle (single : Json) : Except Stop (Option Text) := do
  if single.isNull then pure none
  else
    let one ← normalize single
    pure (some one)

-- `dict.fromkeys` keeps the first of equal texts.
def normalizeMultiple (multiple : Json) : Except Stop (Option (List Text)) := do
  if multiple.isNull then pure none
  else
    let items ← orRaise multiple.asList (.protocol .invalidSearchResponse)
    require (items.length ≤ maxSearchQueries) (.protocol .searchEvidenceLimit)
    let many ← items.mapM normalize
    pure (some many.eraseDups)

def queries (digest : List Text → Text) (action : Fields) (callId : Text) : Except Stop SearchQueryObservation := do
  let single := Json.at action "query"
  let multiple := Json.at action "queries"
  if single.isNull ∧ multiple.isNull then searchQueryObservation ⟨callId,none,none⟩
  else
    let one ← normalizeSingle single
    let many ← normalizeMultiple multiple
    require (one = none ∨ many = none ∨ many = one.map ([·])) (.protocol .invalidSearchResponse)
    let normalized := many.getD one.toList
    searchQueryObservation ⟨callId,some normalized.length,some (digest normalized)⟩

def toolCount : Json → Except Stop (Option Nat)
  | .null => pure none
  | .object fields =>
    match Json.at fields "web_search" with
    | .null => pure none
    | .object search => orRaise (usageCount (Json.at search "count")) .invalid
    | _ => .error .invalid
  | _ => .error .invalid

structure Evidence where
  ids : List Text := []
  sources : List SearchSourceReference := []
  queries : List SearchQueryObservation := []
  sourceCount : Nat := 0
  textObserved : Bool := false

-- The key of a source is all it consists of.
def addSource (web : Web) (callId : Text) (sources : List SearchSourceReference) (source : Json) :
    Except Stop (List SearchSourceReference) := do
  let source ← orRaise source.asObject .invalid
  require ((Json.at source "type").is "url" = true) .invalid
  let url ← orRaise (publicReference web (Json.at source "url")) (.protocol .unsafeSearchSource)
  let reference : SearchSourceReference := ⟨callId,url⟩
  require (reference.valid = true) .invalid
  pure (if reference ∈ sources then sources else sources ++ [reference])

def sourceEntries : Json → Except Stop (List Json)
  | .null => pure []
  | value => orRaise value.asList .invalid

def searchCall (web : Web) (digest : List Text → Text) (consumed : Nat) (itemId : Text) (item : Fields) (evidence : Evidence) :
    Except Stop Evidence := do
  require (¬(Json.at item "status").is "failed") (.returned .providerError consumed .failed)
  require ((Json.at item "status").is "completed" = true) .invalid
  require (evidence.queries.length < maxSearchCalls) (.protocol .searchEvidenceLimit)
  let action ← orRaise (Json.at item "action").asObject .invalid
  require ((Json.at action "type").is "search" = true) .invalid
  let query ← queries digest action itemId
  let entries ← sourceEntries (Json.at action "sources")
  require (entries.length ≤ maxSourcesPerCall ∧ evidence.sourceCount + entries.length ≤ maxSearchSources)
    (.protocol .searchEvidenceLimit)
  let sources ← entries.foldlM (addSource web itemId) evidence.sources
  pure {evidence with
    queries := evidence.queries ++ [query]
    sourceCount := evidence.sourceCount + entries.length
    sources := sources}

def readPart (consumed : Nat) (textObserved : Bool) (part : Json) : Except Stop Bool := do
  let part ← orRaise part.asObject .invalid
  require (¬(Json.at part "type").is "refusal") (.returned .responseRefused consumed .failed)
  require ((Json.at part "type").is "output_text" = true) .invalid
  match Json.at part "text" with
  | .text content => pure (textObserved || !onlySpace content)
  | _ => .error .invalid

def message (consumed : Nat) (item : Fields) (evidence : Evidence) : Except Stop Evidence := do
  require ((Json.at item "role").is "assistant" ∧ (Json.at item "status").is "completed") .invalid
  let content ← orRaise (Json.at item "content").asList .invalid
  require (content.length ≤ maxItems) (.protocol .searchEvidenceLimit)
  let textObserved ← content.foldlM (readPart consumed) evidence.textObserved
  pure {evidence with textObserved}

def searchItem (web : Web) (digest : List Text → Text) (consumed : Nat) (evidence : Evidence) (item : Json) :
    Except Stop Evidence := do
  let item ← orRaise item.asObject .invalid
  let itemId ← orRaise (providerRequestId (Json.at item "id")) .invalid
  require (itemId ∉ evidence.ids) .invalid
  let seen := {evidence with ids := itemId :: evidence.ids}
  let kind := Json.at item "type"
  if kind.is "reasoning" then pure seen
  else if kind.is "web_search_call" then searchCall web digest consumed itemId item seen
  else if kind.is "message" then message consumed item seen
  else .error (.protocol .unexpectedToolOutput)

def searchUsage (rawUsage : Json) (count : Option Nat) : Except Stop (Option ProbeUsage × Option Nat) :=
  match rawUsage with
  | .null => pure (none,count)
  | .object usage => do
    let prompt ← orRaise (usageCount (Json.at usage "input_tokens")) .invalid
    let completion ← orRaise (usageCount (Json.at usage "output_tokens")) .invalid
    let total ← orRaise (usageCount (Json.at usage "total_tokens")) .invalid
    let nested ← toolCount (Json.at usage "x_tools")
    require (count = none ∨ nested = none ∨ count = nested) .invalid
    pure (some ⟨prompt,completion,total⟩,nested.or count)
  | _ => .error .invalid

def searchOutcome (web : Web) (digest : List Text → Text) (loads : Bytes → Option Json) (raw : Bytes) (requestedModel : Text) :
    Except Stop ProbeOutcome := do
  require (raw.length ≤ maxResponseBytes) (.returned .responseTooLarge (maxResponseBytes + 1) .failed)
  let value ← orRaise (loads raw) .invalid
  let value ← orRaise value.asObject .invalid
  require ((Json.at value "object").is "response" = true) .invalid
  let requestId ← orRaise (providerRequestId (Json.at value "id")) .invalid
  let model ← orRaise (providerModelId (Json.at value "model")) .invalid
  let status := Json.at value "status"
  require (model = requestedModel) (.returned .modelIdentityMismatch raw.length .failed)
  require ((Json.at value "error").isNull ∧ ¬status.is "failed") (.returned .providerError raw.length .failed)
  require ((Json.at value "incomplete_details").isNull ∧ ¬status.is "incomplete") (.returned .responseTruncated raw.length .failed)
  require (¬(status.is "queued" ∨ status.is "in_progress")) (.returned .requestOutcomeUnknown raw.length .unknown)
  require (¬status.is "cancelled") (.returned .providerRejected raw.length .failed)
  require (status.is "completed" = true) .invalid
  let output ← orRaise (Json.at value "output").asList .invalid
  require (output.length ≤ maxItems) (.protocol .searchEvidenceLimit)
  let evidence ← output.foldlM (searchItem web digest raw.length) {}
  require (evidence.textObserved = true) .invalid
  let count ← toolCount (Json.at value "x_tools")
  let reported ← searchUsage (Json.at value "usage") count
  let success : Bool := evidence.queries ≠ [] ∧ evidence.sources ≠ []
  let observation : SearchSourceObservation := {
    consumedBytes := raw.length
    completedSearchCallCount := evidence.queries.length
    sourceSignalObserved := success
    providerSearchCallCount := reported.2
    textObserved := evidence.textObserved
    normalCompletionObserved := true
    localResponseClosed := false
    sources := evidence.sources
    queries := evidence.queries}
  require (observation.valid = true) .invalid
  pure {
    observation
    state := if success then .succeeded else .failed
    reason := if success then none else some .searchSourceSignalMissing
    providerRequestId := some requestId
    reportedModelId := some model
    usage := reported.1}

-- What is raised while a failure is described is not caught again.
def parseSearchResponse (web : Web) (digest : List Text → Text) (loads : Bytes → Option Json) (raw : Bytes)
    (requestedModel : Text) : Except Invalid ProbeOutcome :=
  let consumed := min raw.length (maxResponseBytes + 1)
  match searchOutcome web digest loads raw requestedModel with
  | .ok outcome => .ok outcome
  | .error (.protocol reason) => searchFailure reason consumed .failed
  | .error .invalid => searchFailure .invalidSearchResponse consumed .failed
  | .error (.returned reason read state) =>
    match searchFailure reason read state with
    | .ok outcome => .ok outcome
    | .error _ => searchFailure .invalidSearchResponse consumed .failed

variable {web : Web} {digest : List Text → Text} {loads : Bytes → Option Json}

-- What is returned early says how the request ended.
def Stop.Known : Stop → Prop
  | .returned reason _ state => state = .failed ∨ state = .unknown ∧ reason = .requestOutcomeUnknown
  | _ => True

theorem normalize_known (value : Json) : Raises Stop.Known (normalize value) := by
  cases value with
  | text value => exact raises_require ⟨⟩ fun _ => raises_require ⟨⟩ fun _ => raises_pure
  | _ => exact raises_error ⟨⟩

theorem searchQueryObservation_known (query : SearchQueryObservation) : Raises Stop.Known (searchQueryObservation query) :=
  raises_require ⟨⟩ fun _ => raises_pure

theorem normalizeSingle_known (single : Json) : Raises Stop.Known (normalizeSingle single) := by
  unfold normalizeSingle
  split
  · exact raises_pure
  · exact (normalize_known single).bind fun _ => raises_pure

theorem normalizeMultiple_known (multiple : Json) : Raises Stop.Known (normalizeMultiple multiple) := by
  unfold normalizeMultiple
  split
  · exact raises_pure
  · exact (raises_orRaise ⟨⟩).bind fun _ => raises_require ⟨⟩ fun _ => (raises_mapM normalize_known _).bind fun _ => raises_pure

theorem queries_known (digest : List Text → Text) (action : Fields) (callId : Text) :
    Raises Stop.Known (queries digest action callId) := by
  unfold queries
  dsimp only
  split
  · exact searchQueryObservation_known _
  · exact (normalizeSingle_known _).bind fun _ => (normalizeMultiple_known _).bind fun _ =>
      raises_require ⟨⟩ fun _ => searchQueryObservation_known _

theorem toolCount_known (value : Json) : Raises Stop.Known (toolCount value) := by
  unfold toolCount
  split
  · exact raises_pure
  · split
    · exact raises_pure
    · exact raises_orRaise ⟨⟩
    · exact raises_error ⟨⟩
  · exact raises_error ⟨⟩

theorem addSource_known (web : Web) (callId : Text) (sources : List SearchSourceReference) (source : Json) :
    Raises Stop.Known (addSource web callId sources source) :=
  (raises_orRaise ⟨⟩).bind fun _ => raises_require ⟨⟩ fun _ => (raises_orRaise ⟨⟩).bind fun _ =>
    raises_require ⟨⟩ fun _ => raises_pure

theorem sourceEntries_known (value : Json) : Raises Stop.Known (sourceEntries value) := by
  unfold sourceEntries
  split
  · exact raises_pure
  · exact raises_orRaise ⟨⟩

theorem searchCall_known (consumed : Nat) (itemId : Text) (item : Fields) (evidence : Evidence) :
    Raises Stop.Known (searchCall web digest consumed itemId item evidence) :=
  raises_require (.inl rfl) fun _ => raises_require ⟨⟩ fun _ => raises_require ⟨⟩ fun _ => (raises_orRaise ⟨⟩).bind fun _ =>
    raises_require ⟨⟩ fun _ => (queries_known _ _ _).bind fun _ => (sourceEntries_known _).bind fun _ =>
    raises_require ⟨⟩ fun _ => (raises_foldlM (addSource_known web itemId) _ _).bind fun _ => raises_pure

theorem readPart_known (consumed : Nat) (textObserved : Bool) (part : Json) :
    Raises Stop.Known (readPart consumed textObserved part) :=
  (raises_orRaise ⟨⟩).bind fun _ => raises_require (.inl rfl) fun _ => raises_require ⟨⟩ fun _ => by
    split
    · exact raises_pure
    · exact raises_error ⟨⟩

theorem message_known (consumed : Nat) (item : Fields) (evidence : Evidence) : Raises Stop.Known (message consumed item evidence) :=
  raises_require ⟨⟩ fun _ => (raises_orRaise ⟨⟩).bind fun _ => raises_require ⟨⟩ fun _ =>
    (raises_foldlM (readPart_known consumed) _ _).bind fun _ => raises_pure

theorem searchItem_known (consumed : Nat) (evidence : Evidence) (item : Json) :
    Raises Stop.Known (searchItem web digest consumed evidence item) :=
  (raises_orRaise ⟨⟩).bind fun _ => (raises_orRaise ⟨⟩).bind fun _ => raises_require ⟨⟩ fun _ => by
    dsimp only
    split
    · exact raises_pure
    · split
      · exact searchCall_known _ _ _ _
      · split
        · exact message_known _ _ _
        · exact raises_error ⟨⟩

theorem searchUsage_known (rawUsage : Json) (count : Option Nat) : Raises Stop.Known (searchUsage rawUsage count) := by
  unfold searchUsage
  split
  · exact raises_pure
  · exact (raises_orRaise ⟨⟩).bind fun _ => (raises_orRaise ⟨⟩).bind fun _ => (raises_orRaise ⟨⟩).bind fun _ =>
      (toolCount_known _).bind fun _ => raises_require ⟨⟩ fun _ => raises_pure
  · exact raises_error ⟨⟩

theorem searchOutcome_known (raw : Bytes) (requestedModel : Text) :
    Raises Stop.Known (searchOutcome web digest loads raw requestedModel) :=
  raises_require (.inl rfl) fun _ => (raises_orRaise ⟨⟩).bind fun _ => (raises_orRaise ⟨⟩).bind fun _ =>
    raises_require ⟨⟩ fun _ => (raises_orRaise ⟨⟩).bind fun _ => (raises_orRaise ⟨⟩).bind fun _ =>
    raises_require (.inl rfl) fun _ => raises_require (.inl rfl) fun _ => raises_require (.inl rfl) fun _ =>
    raises_require (.inr ⟨rfl,rfl⟩) fun _ => raises_require (.inl rfl) fun _ => raises_require ⟨⟩ fun _ =>
    (raises_orRaise ⟨⟩).bind fun _ => raises_require ⟨⟩ fun _ => (raises_foldlM (searchItem_known raw.length) _ _).bind fun _ =>
    raises_require ⟨⟩ fun _ => (toolCount_known _).bind fun _ => (searchUsage_known _ _).bind fun _ =>
    raises_require ⟨⟩ fun _ => raises_pure

-- An outcome that says what became of the request.
def Classified (outcome : ProbeOutcome) : Prop :=
  outcome.state = .succeeded ∧ outcome.reason = none ∨ outcome.state = .failed ∧ outcome.reason.isSome = true ∨
    outcome.state = .unknown ∧ outcome.reason = some .requestOutcomeUnknown

variable {consumed : Nat} {callId : Text}

theorem searchFailure_ok (short : consumed ≤ 65537) (reason : CheckReason) (state : CheckState) : ∃ outcome,
    searchFailure reason consumed state = .ok outcome ∧ outcome.state = state ∧ outcome.reason = some reason :=
  ⟨_,require_bind_ok.mpr ⟨by simp [SearchSourceObservation.valid,short],rfl⟩,rfl,rfl⟩

-- A source as it is kept: what it refers to is public, and nothing beside it is left.
def Public (web : Web) (source : SearchSourceReference) : Prop :=
  ∃ parts host, PublicUrl web source.sanitizedUrl parts host ∧ question ∉ source.sanitizedUrl ∧
    UrlParse.hash ∉ source.sanitizedUrl

-- What the entries of one call add.
structure Adds (web : Web) (callId : Text) (count : Nat) (before after : List SearchSourceReference) : Prop where
  distinct : before.Nodup → after.Nodup
  added : ∃ added, after = before ++ added ∧ added.length ≤ count ∧
    ∀ source ∈ added, source.callId = callId ∧ source.valid = true ∧ Public web source

theorem addSource_adds (addresses : Addresses web) (ran : addSource web callId before source = .ok after) :
    Adds web callId 1 before after := by
  simp only [addSource,bind_ok,require_ok,orRaise_ok,pure_ok] at ran
  obtain ⟨_,_,_,_,url,accepted,_,valid,rfl⟩ := ran
  split
  · exact ⟨id,[],by rw [List.append_nil],by decide,fun _ member => absurd member List.not_mem_nil⟩
  · rename_i fresh
    refine ⟨fun distinct => ?_,_,rfl,Nat.le_refl _,fun source member => ?_⟩
    · refine List.nodup_append.mpr ⟨distinct,List.nodup_singleton _,fun one held two single same => fresh ?_⟩
      rw [←List.mem_singleton.mp single,←same]
      exact held
    · cases List.mem_singleton.mp member
      exact ⟨rfl,valid,publicReference_public addresses accepted⟩

theorem addSources_adds (addresses : Addresses web) {entries : List Json}
    (ran : entries.foldlM (addSource web callId) before = .ok after) : Adds web callId entries.length before after := by
  induction entries generalizing before with
  | nil =>
    cases pure_ok.mp ran
    exact ⟨id,[],by rw [List.append_nil],Nat.le_refl _,nofun⟩
  | cons source rest ih =>
    rw [List.foldlM_cons] at ran
    obtain ⟨middle,first,ran⟩ := bind_ok.mp ran
    obtain ⟨distinct,added,rfl,one,held⟩ := addSource_adds addresses first
    obtain ⟨distinct',added',rfl,others,held'⟩ := ih ran
    refine ⟨fun start => distinct' (distinct start),added ++ added',by rw [List.append_assoc],?_,fun source member => ?_⟩
    · rw [List.length_append,List.length_cons]
      omega
    · exact (List.mem_append.mp member).elim (held source) (held' source)

-- What holds of the evidence of every call read so far.
structure Collected (web : Web) (evidence : Evidence) : Prop where
  sources : ∀ source ∈ evidence.sources, source.valid = true ∧ Public web source
  distinct : evidence.sources.Nodup
  recorded : ∀ source ∈ evidence.sources, source.callId ∈ evidence.queries.map SearchQueryObservation.callId
  queried : ∀ query ∈ evidence.queries, query.valid = true ∧ query.callId ∈ evidence.ids
  counted : evidence.sources.length ≤ evidence.sourceCount
  perCall : ∀ callId, (evidence.sources.filter (·.callId = callId)).length ≤ maxSourcesPerCall

theorem searchQueryObservation_ok (made : searchQueryObservation given = .ok query) : query = given ∧ query.valid = true := by
  obtain ⟨valid,same⟩ := require_bind_ok.mp made
  cases pure_ok.mp same
  exact ⟨rfl,valid⟩

theorem queries_ok (ran : queries digest action callId = .ok query) : query.callId = callId ∧ query.valid = true := by
  unfold queries at ran
  dsimp only at ran
  split at ran
  · obtain ⟨rfl,valid⟩ := searchQueryObservation_ok ran
    exact ⟨rfl,valid⟩
  · obtain ⟨_,_,ran⟩ := bind_ok.mp ran
    obtain ⟨_,_,ran⟩ := bind_ok.mp ran
    obtain ⟨rfl,valid⟩ := searchQueryObservation_ok (require_bind_ok.mp ran).2
    exact ⟨rfl,valid⟩

theorem Collected.seen (collected : Collected web evidence) (itemId : Text) :
    Collected web {evidence with ids := itemId :: evidence.ids} :=
  {collected with queried := fun query member =>
    ⟨(collected.queried query member).1,List.mem_cons_of_mem _ (collected.queried query member).2⟩}

-- A call with an id of its own adds to no other call's sources.
theorem searchCall_collected (addresses : Addresses web) {itemId : Text} (collected : Collected web evidence)
    (fresh : itemId ∉ evidence.ids)
    (ran : searchCall web digest consumed itemId item {evidence with ids := itemId :: evidence.ids} = .ok next) :
    Collected web next := by
  simp only [searchCall,bind_ok,require_ok,orRaise_ok,pure_ok] at ran
  obtain ⟨_,_,_,_,_,_,action,_,_,_,query,queried,entries,_,_,⟨few,_⟩,sources,adding,rfl⟩ := ran
  obtain ⟨distinct,added,rfl,count,held⟩ := addSources_adds addresses adding
  obtain ⟨rfl,valid⟩ := queries_ok queried
  have other (source : SearchSourceReference) (member : source ∈ evidence.sources) : source.callId ≠ query.callId := by
    obtain ⟨asked,member',same⟩ := List.mem_map.mp (collected.recorded source member)
    exact fun equal => fresh (equal ▸ same ▸ (collected.queried asked member').2)
  refine {
    sources := fun source member => (List.mem_append.mp member).elim (collected.sources source) fun new => (held source new).2
    distinct := distinct collected.distinct
    recorded := fun source member => ?_
    queried := fun asked member => ?_
    counted := ?_
    perCall := fun callId => ?_}
  · rw [List.map_append]
    rcases List.mem_append.mp member with old | new
    · exact List.mem_append_left _ (collected.recorded source old)
    · refine List.mem_append_right _ ?_
      rw [(held source new).1]
      exact List.mem_singleton_self _
  · rcases List.mem_append.mp member with old | new
    · exact ⟨(collected.queried asked old).1,List.mem_cons_of_mem _ (collected.queried asked old).2⟩
    · cases List.mem_singleton.mp new
      exact ⟨valid,List.mem_cons_self⟩
  · have before := collected.counted
    rw [List.length_append]
    exact Nat.add_le_add before count
  · rw [List.filter_append,List.length_append]
    by_cases own : query.callId = callId
    · have none : evidence.sources.filter (·.callId = callId) = [] :=
        List.filter_eq_nil_iff.mpr fun source member => by
          rw [decide_eq_true_eq,←own]
          exact other source member
      rw [none]
      exact (Nat.zero_add _).trans_le ((List.length_filter_le _ _).trans (count.trans few))
    · have none : added.filter (·.callId = callId) = [] :=
        List.filter_eq_nil_iff.mpr fun source member => by
          rw [decide_eq_true_eq,(held source member).1]
          exact own
      rw [none]
      exact collected.perCall callId

theorem message_collected (collected : Collected web evidence) (ran : message consumed item evidence = .ok next) :
    Collected web next := by
  simp only [message,bind_ok,require_ok,orRaise_ok,pure_ok] at ran
  obtain ⟨_,_,_,_,_,_,_,_,rfl⟩ := ran
  exact {collected with}

theorem searchItem_collected (addresses : Addresses web) (collected : Collected web evidence)
    (ran : searchItem web digest consumed evidence item = .ok next) : Collected web next := by
  simp only [searchItem,bind_ok,require_ok,orRaise_ok] at ran
  obtain ⟨_,_,itemId,_,_,fresh,ran⟩ := ran
  split at ran
  · cases pure_ok.mp ran
    exact collected.seen itemId
  · split at ran
    · exact searchCall_collected addresses collected fresh ran
    · split at ran
      · exact message_collected (collected.seen itemId) ran
      · cases ran

def QueryText (value : Json) : Prop := ∃ query, value = .text query ∧ 1 ≤ query.length ∧ query.length ≤ maxSearchQueryLength

structure CallLimits (action : Fields) : Prop where
  entries : ∀ entries, Json.at action "sources" = .list entries → entries.length ≤ maxSourcesPerCall
  single : Json.at action "query" ≠ .null → QueryText (Json.at action "query")
  multiple : ∀ items, Json.at action "queries" = .list items →
    items.length ≤ maxSearchQueries ∧ ∀ item ∈ items, QueryText item

-- The limits of an item of an answer.
structure ItemLimits (item : Fields) : Prop where
  content : (Json.at item "type").is "message" = true → ∀ content, Json.at item "content" = .list content →
    content.length ≤ maxItems
  call : (Json.at item "type").is "web_search_call" = true → ∀ action, Json.at item "action" = .object action →
    CallLimits action

theorem normalize_ok {value : Json} (ran : normalize value = .ok result) : QueryText value := by
  cases value with
  | text query => exact ⟨query,rfl,(require_bind_ok.mp ran).1⟩
  | _ => cases ran

theorem is_unique {value : Json} {one two : String} (first : value.is one = true) (second : value.is two = true) :
    text one = text two := by
  cases value with
  | text held => exact (of_decide_eq_true first).symm.trans (of_decide_eq_true second)
  | _ => cases first

theorem queries_limits (ran : queries digest action callId = .ok query) :
    (Json.at action "query" ≠ .null → QueryText (Json.at action "query")) ∧
      ∀ items, Json.at action "queries" = .list items → items.length ≤ maxSearchQueries ∧ ∀ item ∈ items, QueryText item := by
  unfold queries at ran
  dsimp only at ran
  split at ran
  · rename_i absent
    refine ⟨fun present => absurd (isNull_true.mp absent.1) present,fun items listed => ?_⟩
    rw [listed] at absent
    cases absent.2
  · obtain ⟨_,single,ran⟩ := bind_ok.mp ran
    obtain ⟨_,multiple,_⟩ := bind_ok.mp ran
    refine ⟨fun present => ?_,fun items listed => ?_⟩
    · unfold normalizeSingle at single
      rw [if_neg fun null => present (isNull_true.mp null)] at single
      obtain ⟨_,normalized,_⟩ := bind_ok.mp single
      exact normalize_ok normalized
    · rw [listed] at multiple
      simp only [normalizeMultiple,Json.isNull,Bool.false_eq_true,if_false,Json.asList,bind_ok,orRaise_ok,Option.some.injEq,
        require_ok] at multiple
      obtain ⟨_,rfl,_,few,_,normalized,_⟩ := multiple
      refine ⟨few,fun item member => ?_⟩
      obtain ⟨_,ran⟩ := mapM_total.mp ⟨_,normalized⟩ item member
      exact normalize_ok ran

theorem searchItem_limits {item : Json} (ran : searchItem web digest consumed evidence item = .ok next) :
    ∃ fields, item = .object fields ∧ ItemLimits fields := by
  simp only [searchItem,bind_ok,require_ok,orRaise_ok,asObject_some] at ran
  obtain ⟨fields,rfl,itemId,_,_,_,ran⟩ := ran
  refine ⟨fields,rfl,fun kind content listed => ?_,fun kind action held => ?_⟩
  · have other (name : String) (apart : text "message" ≠ text name) : ¬(Json.at fields "type").is name = true := fun same =>
      apart (is_unique kind same)
    rw [if_neg (other "reasoning" (by decide)),if_neg (other "web_search_call" (by decide)),if_pos kind] at ran
    simp only [message,bind_ok,require_ok,orRaise_ok,listed,Json.asList,Option.some.injEq] at ran
    obtain ⟨_,_,_,rfl,_,few,_⟩ := ran
    exact few
  · have other : ¬(Json.at fields "type").is "reasoning" = true := fun same =>
      absurd (is_unique kind same) (by decide)
    rw [if_neg other,if_pos kind] at ran
    simp only [searchCall,bind_ok,require_ok,orRaise_ok,asObject_some,held,Json.object.injEq] at ran
    obtain ⟨_,_,_,_,_,_,_,rfl,_,_,_,queried,entries,listed,_,⟨few,_⟩,_⟩ := ran
    refine ⟨fun items same => ?_,(queries_limits queried).1,(queries_limits queried).2⟩
    rw [same] at listed
    simp only [sourceEntries,orRaise_ok,Json.asList,Option.some.injEq] at listed
    exact listed ▸ few

-- What a successful outcome and the answer behind it keep within.
structure Within (observation : SearchSourceObservation) : Prop where
  consumed : observation.consumedBytes ≤ maxResponseBytes
  calls : observation.completedSearchCallCount ≤ maxSearchCalls
  sources : observation.sources.length ≤ maxSearchSources
  perCall : ∀ callId, (observation.sources.filter (·.callId = callId)).length ≤ maxSourcesPerCall
  references : ∀ source ∈ observation.sources, source.callId.length ≤ 128 ∧ 8 ≤ source.sanitizedUrl.length ∧
    source.sanitizedUrl.length ≤ maxSourceUrlLength
  queries : ∀ query ∈ observation.queries, query.callId.length ≤ 128 ∧ ∀ count, query.count = some count → count ≤ maxSearchQueries
  reported : ∀ count, observation.providerSearchCallCount = some count → count ≤ 2147483647

structure Succeeded (web : Web) (loads : Bytes → Option Json) (raw : Bytes) (outcome : ProbeOutcome) : Prop where
  called : 1 ≤ outcome.observation.completedSearchCallCount ∧
    outcome.observation.completedSearchCallCount = outcome.observation.queries.length
  sourced : outcome.observation.sources ≠ []
  shown : ∀ source ∈ outcome.observation.sources, Public web source
  distinct : (outcome.observation.sources.map fun source => (source.callId,source.sanitizedUrl)).Nodup
  recorded : ∀ source ∈ outcome.observation.sources,
    source.callId ∈ outcome.observation.queries.map SearchQueryObservation.callId
  within : Within outcome.observation
  answer : ∃ fields output, loads raw = some (.object fields) ∧ Json.at fields "output" = .list output ∧
    output.length ≤ maxItems ∧ ∀ item ∈ output, ∃ fields, item = .object fields ∧ ItemLimits fields

theorem collected_start (web : Web) : Collected web {} :=
  ⟨nofun,List.nodup_nil,nofun,nofun,Nat.le_refl _,fun _ => Nat.zero_le _⟩

theorem searchOutcome_ok (addresses : Addresses web) (ran : searchOutcome web digest loads raw requestedModel = .ok outcome) :
    Classified outcome ∧ (outcome.state = .succeeded → Succeeded web loads raw outcome) := by
  simp only [searchOutcome,bind_ok,require_ok,orRaise_ok,asObject_some,asList_some,pure_ok] at ran
  obtain ⟨_,short,_,read,fields,rfl,_,_,_,_,_,_,_,_,_,_,_,_,_,_,_,_,_,_,output,listed,_,few,evidence,collecting,_,spoken,_,_,
    reported,_,_,valid,rfl⟩ := ran
  have collected : Collected web evidence :=
    foldlM_keeps (fun _ _ _ held ran => searchItem_collected addresses held ran) (collected_start web) collecting
  simp only [SearchSourceObservation.valid,decide_eq_true_eq] at valid
  obtain ⟨_,calls,counts,sources,_⟩ := valid
  by_cases success : evidence.queries ≠ [] ∧ evidence.sources ≠ []
  · simp only [Classified,success,ne_eq,not_false_eq_true,and_self,decide_true,if_true,true_or,forall_const,true_and]
    exact {
      called := ⟨List.length_pos_iff.mpr success.1,rfl⟩
      sourced := success.2
      shown := fun source member => (collected.sources source member).2
      distinct := collected.distinct.map fun one two same => by
        cases one
        cases two
        cases same
        rfl
      recorded := collected.recorded
      within := {
        consumed := short
        calls := calls
        sources := sources
        perCall := collected.perCall
        references := fun source member => by
          have valid := (collected.sources source member).1
          simp only [SearchSourceReference.valid,callIdValid,decide_eq_true_eq] at valid
          exact ⟨valid.1.2.1,valid.2.1,valid.2.2.1⟩
        queries := fun query member => by
          have valid := (collected.queried query member).1
          simp only [SearchQueryObservation.valid,callIdValid,decide_eq_true_eq] at valid
          refine ⟨valid.1.2.1,fun count counted => ?_⟩
          rw [counted] at valid
          exact of_decide_eq_true valid.2.1
        reported := fun count counted => by
          dsimp only at counted
          rw [counted] at counts
          exact of_decide_eq_true counts}
      answer := ⟨fields,output,read,listed,few,fun item member => by
        obtain ⟨_,_,stepped⟩ := foldlM_each collecting item member
        exact searchItem_limits stepped⟩}
  · simp only [Classified,success,decide_false,Bool.false_eq_true,if_false,reduceCtorEq,false_and,Option.isSome_some,and_self,
      true_or,or_true,false_implies]

theorem parseSearchResponse_safe (addresses : Addresses web) (raw : Bytes) (requestedModel : Text) : ∃ outcome,
    parseSearchResponse web digest loads raw requestedModel = .ok outcome ∧ Classified outcome ∧
      (outcome.state = .succeeded → Succeeded web loads raw outcome) := by
  have short : min raw.length (maxResponseBytes + 1) ≤ 65537 := Nat.min_le_right _ _
  have failed (reason : CheckReason) : ∃ outcome, searchFailure reason (min raw.length (maxResponseBytes + 1)) .failed = .ok outcome ∧
      Classified outcome ∧ (outcome.state = .succeeded → Succeeded web loads raw outcome) := by
    obtain ⟨outcome,made,state,why⟩ := searchFailure_ok short reason .failed
    refine ⟨outcome,made,.inr (.inl ⟨state,why ▸ rfl⟩),fun success => ?_⟩
    rw [state] at success
    cases success
  unfold parseSearchResponse
  dsimp only
  cases ran : searchOutcome web digest loads raw requestedModel with
  | ok outcome => exact ⟨outcome,rfl,searchOutcome_ok addresses ran⟩
  | error stop =>
    cases stop with
    | protocol reason => exact failed reason
    | invalid => exact failed .invalidSearchResponse
    | returned reason read state =>
      have known := searchOutcome_known raw requestedModel _ ran
      dsimp only
      cases made : searchFailure reason read state with
      | error invalid => exact failed .invalidSearchResponse
      | ok outcome =>
        cases pure_ok.mp (require_bind_ok.mp made).2
        refine ⟨_,rfl,?_,fun success => ?_⟩
        · rcases known with rfl | ⟨rfl,rfl⟩
          · exact .inr (.inl ⟨rfl,rfl⟩)
          · exact .inr (.inr ⟨rfl,rfl⟩)
        · rcases known with rfl | ⟨rfl,_⟩ <;> cases success

-- No text of the sample is an address, and all of it is in ASCII.
def sampleWeb : Web where
  nfkc value := value
  lower := List.map lowered
  word point := asciiAlphanumeric point || point = 95
  idna := some
  unquote value := value
  ipAddress _ := none

def bytes (document : String) : Bytes := document.toList.map fun point => UInt8.ofNat point.toNat

def sampleRaw : Bytes :=
  ["\x7b\"object\":\"response\",","\"id\":\"r\",\"model\":\"m\",","\"status\":\"completed\",",
    "\"output\":[\x7b\"id\":\"s\",","\"type\":\"web_search_call\",","\"status\":\"completed\",",
    "\"action\":\x7b\"type\":\"search\",","\"sources\":[\x7b\"type\":\"url\",","\"url\":\"https://docs.example.com\"",
    "\x7d]\x7d\x7d,\x7b\"id\":\"t\",","\"type\":\"message\",","\"role\":\"assistant\",","\"status\":\"completed\",",
    "\"content\":[\x7b","\"type\":\"output_text\",","\"text\":\"OK\"\x7d]\x7d]\x7d"].flatMap bytes

def sampleFields (pairs : List (String × String)) : Fields := pairs.map fun (key,value) => (text key,.text (text value))

def sampleCall : Json :=
  .object (sampleFields [("id","s"),("type","web_search_call"),("status","completed")] ++
    [(text "action",.object (sampleFields [("type","search")] ++
      [(text "sources",.list [.object (sampleFields [("type","url"),("url","https://docs.example.com")])])]))])

def sampleMessage : Json :=
  .object (sampleFields [("id","t"),("type","message"),("role","assistant"),("status","completed")] ++
    [(text "content",.list [.object (sampleFields [("type","output_text"),("text","OK")])])])

def sampleAnswer : Json :=
  .object (sampleFields [("object","response"),("id","r"),("model","m"),("status","completed")] ++
    [(text "output",.list [sampleCall,sampleMessage])])

def sampleLoads (raw : Bytes) : Option Json := if raw = sampleRaw then some sampleAnswer else none

theorem sample_addresses : Addresses sampleWeb where
  lower _ _ := rfl
  reread _ _ := nofun
  four _ _ := nofun
  six _ _ := nofun
  zones _ _ _ _ _ _ _ _ := nofun

theorem parseSearchResponse_safe_sample : ∃ outcome,
    parseSearchResponse sampleWeb (fun _ => []) sampleLoads sampleRaw (text "m") = .ok outcome ∧
      Succeeded sampleWeb sampleLoads sampleRaw outcome := by
  obtain ⟨outcome,parsed,_,guaranteed⟩ :=
    @parseSearchResponse_safe _ (fun _ => []) sampleLoads sample_addresses sampleRaw (text "m")
  have state : (parseSearchResponse sampleWeb (fun _ => []) sampleLoads sampleRaw (text "m")).toOption.map ProbeOutcome.state =
      some .succeeded := by decide +kernel
  rw [parsed] at state
  exact ⟨outcome,parsed,guaranteed (Option.some.inj state)⟩

end EngineeringPlatform.SearchSources
