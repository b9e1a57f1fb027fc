import EngineeringPlatform.ProviderReplies
import EngineeringPlatform.EventStream
-- What one answer of the metadata endpoint is taken for.
namespace EngineeringPlatform.ModelMetadata
open Checked PythonText EventStream ModelGateway

structure MetadataReport where
  model : Text
  provider : Text
  inferenceProvider : Text
  contextWindow : ReportedLimit
  maxInputTokens : ReportedLimit
  maxOutputTokens : ReportedLimit
  deriving DecidableEq

structure MetadataOutcome where
  state : MetadataState
  reason : Option MetadataReason := none
  elapsedMs : Option Nat := none
  responseSha256 : Option Text := none
  responseBytes : Option Nat := none
  providerRequestId : Option Text := none
  report : Option MetadataReport := none
  deriving DecidableEq

structure ValidationError where
  deriving DecidableEq

def sha256Pattern (value : Text) : Bool :=
  value.length = 64 ∧ value.all fun point => asciiDigit point ∨ (97 ≤ point ∧ point ≤ 102)

def reasonRequired (state : MetadataState) : Bool :=
  [MetadataState.indeterminate,.failed,.blocked,.unknown].contains state

def consistentOutcome (outcome : MetadataOutcome) : Bool :=
  (outcome.state = .reported ↔ outcome.report.isSome) ∧
    (reasonRequired outcome.state = outcome.reason.isSome) ∧
    (outcome.responseSha256 = none ↔ outcome.responseBytes = none) ∧
    (outcome.state = .reported ∨ outcome.state = .notFound →
      outcome.responseSha256.isSome ∧ outcome.responseBytes.any (· ≠ 0))

-- The constraints of the fields come before the validator of the whole.
def MetadataOutcome.valid (outcome : MetadataOutcome) : Bool :=
  outcome.responseSha256.all sha256Pattern ∧ outcome.responseBytes.all (· ≤ metadataMaxBytes) ∧
    outcome.providerRequestId.all (·.length ≤ 128) ∧ consistentOutcome outcome

def modelValidate (outcome : MetadataOutcome) : Except ValidationError MetadataOutcome := do
  require (outcome.valid = true) {}
  pure outcome

mutual
def Json.unique : Json → Bool
  | .list items => uniqueItems items
  | .object fields => (fields.map Prod.fst).Nodup ∧ uniqueFields fields
  | _ => true
termination_by structural value => value

def uniqueItems : List Json → Bool
  | [] => true
  | item :: rest => Json.unique item ∧ uniqueItems rest
termination_by structural items => items

def uniqueFields : Fields → Bool
  | [] => true
  | field :: rest => uniqueField field ∧ uniqueFields rest
termination_by structural fields => fields

def uniqueField : Text × Json → Bool
  | (_,value) => Json.unique value
termination_by structural field => field
end

-- `unique_object` is called for every object of a document.
def loadsUnique (loads : Bytes → Option Json) (raw : Bytes) : Option Json := do
  let value ← loads raw
  accept (Json.unique value)
  pure value

def Json.isText (expected : Text) : Json → Bool
  | .text value => value = expected
  | _ => false

def succeeded (payload : Fields) : Bool :=
  ((payload.lookup (text "success")).all fun
    | .boolean value => value
    | _ => false) ∧ ((Json.at payload "code").isNull ∨ (Json.at payload "code").is "")

def pageNumber : Json → Option Int
  | .integer value => if 0 ≤ value ∧ value ≤ 2147483647 then some value else none
  | _ => none

def tokenLimit : Json → Option Nat
  | .integer value => if 0 < value ∧ value ≤ 2147483647 then some value.toNat else none
  | _ => none

def providerLabel : Json → Option Text
  | .text value =>
    if identifier (fun point => asciiLower point ∨ asciiDigit point)
      (fun point => asciiLower point ∨ asciiDigit point ∨ [46,95,45].contains point) 64 value then some value
    else none
  | _ => none

def limit (info : Fields) (key : String) : Option ReportedLimit :=
  match info.lookup (text key) with
  | none => some .missing
  | some .null => some .null
  | some value => (tokenLimit value).map .value

def requestIdentifier (payload : Fields) : Option (Option Text) :=
  match Json.at payload "request_id" with
  | .null => some none
  | value => (providerRequestId value).map some

-- An early return: its state and its reason.
abbrev Exit := MetadataState × Option MetadataReason

def indeterminate (reason : MetadataReason) : Exit := (.indeterminate,some reason)

structure Page where
  payload : Fields
  total : Int
  models : List Json

def readPage (loads : Bytes → Option Json) (raw : Bytes) : Except Exit Page := do
  let value ← orRaise (loadsUnique loads raw) (indeterminate .invalidResponse)
  let payload ← orRaise value.asObject (indeterminate .invalidResponse)
  require (succeeded payload = true) (.failed,some .providerError)
  let output ← orRaise (Json.at payload "output").asObject (indeterminate .invalidResponse)
  let total ← orRaise (pageNumber (Json.at output "total")) (indeterminate .invalidPage)
  let pageNo ← orRaise (pageNumber (Json.at output "page_no")) (indeterminate .invalidPage)
  let pageSize ← orRaise (pageNumber (Json.at output "page_size")) (indeterminate .invalidPage)
  require (pageNo = 1 ∧ pageSize = 2) (indeterminate .invalidPage)
  let models ← orRaise (Json.at output "models").asList (indeterminate .invalidResponse)
  pure ⟨payload,total,models⟩

def onlyModel (page : Page) : Except Exit Json := do
  require (¬(page.total = 0 ∧ page.models.isEmpty)) (.notFound,none)
  require (page.total ≤ 1 ∧ page.models.length ≤ 1) (indeterminate .resultNotUnique)
  require (page.total = 1) (indeterminate .incompleteResult)
  orRaise page.models.head? (indeterminate .incompleteResult)

def readReport (model : Json) (modelId inferenceProvider : Text) : Except Exit MetadataReport := do
  let model ← orRaise model.asObject (indeterminate .modelIdentityMismatch)
  require (Json.isText modelId (Json.at model "model") ∧ Json.isText inferenceProvider (Json.at model "inference_provider"))
    (indeterminate .modelIdentityMismatch)
  let info ← orRaise ((model.lookup (text "model_info")).getD (.object [])).asObject (indeterminate .invalidResponse)
  let contextWindow ← orRaise (limit info "context_window") (indeterminate .invalidTokenValue)
  let maxInputTokens ← orRaise (limit info "max_input_tokens") (indeterminate .invalidTokenValue)
  let maxOutputTokens ← orRaise (limit info "max_output_tokens") (indeterminate .invalidTokenValue)
  let model' ← orRaise (providerModelId (Json.at model "model")) (indeterminate .modelIdentityMismatch)
  let provider ← orRaise (providerLabel (Json.at model "provider")) (indeterminate .modelIdentityMismatch)
  let inferenceProvider' ← orRaise (providerLabel (Json.at model "inference_provider")) (indeterminate .modelIdentityMismatch)
  pure ⟨model',provider,inferenceProvider',contextWindow,maxInputTokens,maxOutputTokens⟩

def readMetadata (loads : Bytes → Option Json) (raw : Bytes) (modelId inferenceProvider : Text) :
    Except Exit (MetadataReport × Option Text) := do
  let page ← readPage loads raw
  let model ← onlyModel page
  let report ← readReport model modelId inferenceProvider
  let identifier ← orRaise (requestIdentifier page.payload) (indeterminate .invalidResponse)
  pure (report,identifier)

def parseMetadata (sha256 : Bytes → Text) (loads : Bytes → Option Json) (raw : Bytes) (modelId inferenceProvider : Text) :
    Except ValidationError MetadataOutcome :=
  if metadataMaxBytes < raw.length then modelValidate {state := .failed, reason := some .responseTooLarge}
  else match readMetadata loads raw modelId inferenceProvider with
  | .error (state,reason) =>
    modelValidate {state, reason, responseSha256 := some (sha256 raw), responseBytes := some raw.length}
  | .ok (report,identifier) =>
    modelValidate {
      state := .reported
      responseSha256 := some (sha256 raw)
      responseBytes := some raw.length
      report := some report
      providerRequestId := identifier}

variable {sha256 : Bytes → Text} {loads : Bytes → Option Json} {raw : Bytes} {modelId inferenceProvider : Text}
variable {value : Json} {exit : Exit}

theorem isText_true : Json.isText expected value = true ↔ value = .text expected := by
  cases value <;> simp [Json.isText]

theorem pageNumber_some :
    pageNumber value = some number ↔ value = .integer number ∧ 0 ≤ number ∧ number ≤ 2147483647 := by
  cases value with
  | integer held =>
    simp only [pageNumber,Option.ite_none_right_eq_some,Option.some.injEq,Json.integer.injEq]
    constructor
    · rintro ⟨bounds,rfl⟩
      exact ⟨rfl,bounds⟩
    · rintro ⟨rfl,bounds⟩
      exact ⟨bounds,rfl⟩
  | _ => simp [pageNumber]

theorem loadsUnique_some : loadsUnique loads raw = some value ↔ loads raw = some value ∧ Json.unique value = true := by
  unfold loadsUnique
  cases loads raw with
  | none => simp
  | some held =>
    simp only [accept,bind,Option.bind_some,pure]
    split
    · rename_i unique
      simp only [Option.bind_some,Option.some.injEq,iff_self_and]
      exact fun same => same ▸ unique
    · rename_i repeated
      simp only [Option.bind_none,Option.some.injEq,reduceCtorEq,false_iff,not_and]
      exact fun same => same ▸ repeated

theorem succeeded_true (payload : Fields) : succeeded payload = true ↔
    (payload.lookup (text "success") = none ∨ payload.lookup (text "success") = some (.boolean true)) ∧
      (Json.at payload "code" = .null ∨ Json.at payload "code" = .text []) := by
  simp only [succeeded,Bool.decide_and,Bool.decide_or,Bool.decide_eq_true,Bool.and_eq_true,Bool.or_eq_true,isNull_true,is_blank]
  refine and_congr_left' ?_
  cases payload.lookup (text "success") with
  | none => simp
  | some value => cases value <;> simp

-- An answer of the right size that lists a page.
structure Answers (loads : Bytes → Option Json) (raw : Bytes) (page : Page) : Prop where
  read : loads raw = some (.object page.payload)
  unique : Json.unique (.object page.payload) = true
  success : page.payload.lookup (text "success") = none ∨ page.payload.lookup (text "success") = some (.boolean true)
  code : Json.at page.payload "code" = .null ∨ Json.at page.payload "code" = .text []
  listed : ∃ output, Json.at page.payload "output" = .object output ∧
    Json.at output "total" = .integer page.total ∧ 0 ≤ page.total ∧ page.total ≤ 2147483647 ∧
    Json.at output "page_no" = .integer 1 ∧ Json.at output "page_size" = .integer 2 ∧
    Json.at output "models" = .list page.models

theorem readPage_ok : readPage loads raw = .ok page ↔ Answers loads raw page := by
  simp only [readPage,bind_ok,require_ok,orRaise_ok,pure_ok,loadsUnique_some,asObject_some,asList_some,pageNumber_some,
    succeeded_true]
  constructor
  · rintro ⟨_,⟨read,unique⟩,payload,rfl,_,⟨success,code⟩,output,found,total,⟨listed,low,high⟩,no,⟨first,_⟩,size,⟨second,_⟩,_,
      ⟨rfl,rfl⟩,models,entries,rfl⟩
    exact ⟨read,unique,success,code,output,found,listed,low,high,first,second,entries⟩
  · rintro ⟨read,unique,success,code,output,found,listed,low,high,first,second,entries⟩
    exact ⟨_,⟨read,unique⟩,_,rfl,⟨⟩,⟨success,code⟩,output,found,_,⟨listed,low,high⟩,1,⟨first,by decide⟩,2,⟨second,by decide⟩,
      ⟨⟩,⟨rfl,rfl⟩,_,entries,rfl⟩

def malformed (reason : MetadataReason) : Bool :=
  [MetadataReason.providerError,.responseTooLarge,.invalidResponse,.invalidPage,.modelIdentityMismatch,.invalidTokenValue].contains
    reason

-- A return that says the answer cannot be read.
def Exit.malformed : Exit → Bool
  | (state,reason) => (state = .indeterminate ∨ state = .failed) ∧ reason.any ModelMetadata.malformed

theorem readPage_error : Raises (Exit.malformed · = true) (readPage loads raw) := by
  unfold readPage
  exact (raises_orRaise (by rfl)).bind fun _ => (raises_orRaise (by rfl)).bind fun _ => raises_require (by rfl) fun _ =>
    (raises_orRaise (by rfl)).bind fun _ => (raises_orRaise (by rfl)).bind fun _ => (raises_orRaise (by rfl)).bind fun _ =>
    (raises_orRaise (by rfl)).bind fun _ => raises_require (by rfl) fun _ => (raises_orRaise (by rfl)).bind fun _ => raises_pure

theorem readReport_error : Raises (Exit.malformed · = true) (readReport model modelId inferenceProvider) := by
  unfold readReport
  exact (raises_orRaise (by rfl)).bind fun _ => raises_require (by rfl) fun _ => (raises_orRaise (by rfl)).bind fun _ =>
    (raises_orRaise (by rfl)).bind fun _ => (raises_orRaise (by rfl)).bind fun _ => (raises_orRaise (by rfl)).bind fun _ =>
    (raises_orRaise (by rfl)).bind fun _ => (raises_orRaise (by rfl)).bind fun _ => (raises_orRaise (by rfl)).bind fun _ => raises_pure

theorem onlyModel_ok : onlyModel page = .ok model ↔ page.total = 1 ∧ page.models = [model] := by
  simp only [onlyModel,require_bind_ok,orRaise_ok]
  rcases models : page.models with _ | ⟨first,_ | ⟨second,rest⟩⟩
  · simp
  · simp only [List.isEmpty_cons,List.length_cons,List.length_nil,List.head?_cons,Option.some.injEq,List.cons.injEq,and_true]
    constructor
    · rintro ⟨_,_,one,rfl⟩
      exact ⟨one,rfl⟩
    · rintro ⟨one,rfl⟩
      exact ⟨by simp,⟨one.le,by decide⟩,one,rfl⟩
  · simp

theorem onlyModel_error : onlyModel page = .error exit ↔
    (page.total = 0 ∧ page.models = []) ∧ (.notFound,none) = exit ∨
    (1 < page.total ∨ 1 < page.models.length) ∧ indeterminate .resultNotUnique = exit ∨
    ((page.total < 1 ∧ page.models.length = 1) ∨ (page.total ≤ 1 ∧ page.total ≠ 0 ∧ page.models = [])) ∧
      indeterminate .incompleteResult = exit := by
  simp only [onlyModel,bind_error,require_error,require_ok,orRaise_error]
  rcases models : page.models with _ | ⟨first,_ | ⟨second,rest⟩⟩
  · simp
    by_cases none : page.total = 0 <;> by_cases many : 1 < page.total <;> grind
  · simp
    grind
  · simp

structure Describes (model : Fields) (modelId inferenceProvider : Text) (report : MetadataReport) : Prop where
  named : Json.at model "model" = .text modelId
  provided : Json.at model "inference_provider" = .text inferenceProvider
  limits : ∃ info, (model.lookup (text "model_info")).getD (.object []) = .object info ∧
    limit info "context_window" = some report.contextWindow ∧ limit info "max_input_tokens" = some report.maxInputTokens ∧
    limit info "max_output_tokens" = some report.maxOutputTokens
  identified : providerModelId (.text modelId) = some report.model
  offered : providerLabel (Json.at model "provider") = some report.provider
  inferred : providerLabel (.text inferenceProvider) = some report.inferenceProvider

theorem readReport_ok : readReport value modelId inferenceProvider = .ok report ↔
    ∃ model, value = .object model ∧ Describes model modelId inferenceProvider report := by
  simp only [readReport,bind_ok,require_ok,orRaise_ok,pure_ok,asObject_some,isText_true]
  constructor
  · rintro ⟨model,rfl,_,⟨named,provided⟩,info,found,_,context,_,input,_,output,_,id,_,provider,_,inference,rfl⟩
    exact ⟨model,rfl,named,provided,⟨info,found,context,input,output⟩,named ▸ id,provider,provided ▸ inference⟩
  · rintro ⟨model,rfl,named,provided,⟨info,found,context,input,output⟩,id,provider,inference⟩
    exact ⟨model,rfl,⟨⟩,⟨named,provided⟩,info,found,_,context,_,input,_,output,_,named ▸ id,_,provider,_,provided ▸ inference,rfl⟩

-- The page lists the requested model alone, and all that is read of it can be read.
structure Reports (page : Page) (modelId inferenceProvider : Text) (report : MetadataReport) (requestId : Option Text) : Prop where
  single : page.total = 1 ∧ ∃ model, page.models = [.object model] ∧ Describes model modelId inferenceProvider report
  requested : requestIdentifier page.payload = some requestId

theorem readMetadata_ok : readMetadata loads raw modelId inferenceProvider = .ok (report,requestId) ↔
    ∃ page, Answers loads raw page ∧ Reports page modelId inferenceProvider report requestId := by
  simp only [readMetadata,bind_ok,readPage_ok,onlyModel_ok,readReport_ok,orRaise_ok,pure_ok,Prod.mk.injEq]
  constructor
  · rintro ⟨page,answers,_,⟨one,listed⟩,_,⟨model,rfl,describes⟩,_,requested,rfl,rfl⟩
    exact ⟨page,answers,⟨one,model,listed,describes⟩,requested⟩
  · rintro ⟨page,answers,⟨one,model,listed,describes⟩,requested⟩
    exact ⟨page,answers,_,⟨one,listed⟩,_,⟨model,rfl,describes⟩,_,requested,rfl,rfl⟩

theorem answers_unique (answers : Answers loads raw one) (answers' : Answers loads raw two) : one = two := by
  have same := (readPage_ok.mpr answers).symm.trans (readPage_ok.mpr answers')
  exact Except.ok.inj same

-- What a page that lists no single model is taken for.
theorem readMetadata_listed (answers : Answers loads raw page) (raised : onlyModel page = .error exit) :
    readMetadata loads raw modelId inferenceProvider = .error exit := by
  simp only [readMetadata,bind_error]
  exact .inr ⟨page,readPage_ok.mpr answers,.inl raised⟩

theorem readMetadata_error (raised : readMetadata loads raw modelId inferenceProvider = .error exit) :
    (∃ page, Answers loads raw page ∧ onlyModel page = .error exit) ∨
      Exit.malformed exit = true ∧ ((∀ page, ¬Answers loads raw page) ∨
        ∃ page model, Answers loads raw page ∧ page.total = 1 ∧ page.models = [model] ∧
          ∀ report requestId, ¬Reports page modelId inferenceProvider report requestId) := by
  have unread page (answers : Answers loads raw page) report requestId :
      ¬Reports page modelId inferenceProvider report requestId := by
    intro reports
    rw [readMetadata_ok.mpr ⟨page,answers,reports⟩] at raised
    cases raised
  simp only [readMetadata,bind_error,readPage_ok,pure_error,and_false,exists_false,or_false] at raised
  rcases raised with failed | ⟨page,answers,failed | ⟨model,only,failed⟩⟩
  · refine .inr ⟨readPage_error _ failed,.inl fun page answers => ?_⟩
    rw [readPage_ok.mpr answers] at failed
    cases failed
  · exact .inl ⟨page,answers,failed⟩
  · have listed := onlyModel_ok.mp only
    refine .inr ⟨?_,.inr ⟨page,model,answers,listed.1,listed.2,unread page answers⟩⟩
    rcases failed with failed | ⟨report,_,failed⟩
    · exact readReport_error _ failed
    · rw [orRaise_error] at failed
      exact failed.2 ▸ rfl

-- With a digest written as it must be and a document that is not empty, no validator raises.
structure Measures (sha256 : Bytes → Text) (loads : Bytes → Option Json) : Prop where
  digests : ∀ raw, sha256Pattern (sha256 raw) = true
  blank : loads [] = none

theorem answers_filled (blank : loads [] = none) (answers : Answers loads raw page) : raw ≠ [] := by
  rintro rfl
  exact absurd answers.read (by simp only [blank,reduceCtorEq,not_false_eq_true])

theorem modelValidate_ok (valid : outcome.valid = true) : modelValidate outcome = .ok outcome := by
  simp only [modelValidate,require,valid,if_true]
  rfl

theorem refused_valid (digests : ∀ raw, sha256Pattern (sha256 raw) = true) (fits : raw.length ≤ metadataMaxBytes)
    (refused : exit.1 = .indeterminate ∨ exit.1 = .failed) (reasoned : exit.2.isSome) :
    MetadataOutcome.valid {state := exit.1, reason := exit.2, responseSha256 := some (sha256 raw), responseBytes := some raw.length} =
      true := by
  rcases refused with state | state <;>
    simp [MetadataOutcome.valid,consistentOutcome,reasonRequired,state,reasoned,digests,fits]

theorem notFound_valid (digests : ∀ raw, sha256Pattern (sha256 raw) = true) (fits : raw.length ≤ metadataMaxBytes)
    (filled : raw ≠ []) :
    MetadataOutcome.valid {state := .notFound, responseSha256 := some (sha256 raw), responseBytes := some raw.length} = true := by
  simp [MetadataOutcome.valid,consistentOutcome,reasonRequired,digests,fits,filled]

theorem reported_valid (digests : ∀ raw, sha256Pattern (sha256 raw) = true) (fits : raw.length ≤ metadataMaxBytes)
    (filled : raw ≠ []) (short : requestId.all (·.length ≤ 128) = true) :
    MetadataOutcome.valid {
      state := .reported
      responseSha256 := some (sha256 raw)
      responseBytes := some raw.length
      report := some report
      providerRequestId := requestId} = true := by
  simp [MetadataOutcome.valid,consistentOutcome,reasonRequired,digests,fits,filled,short]

theorem providerRequestId_short (accepted : providerRequestId value = some written) : written.length ≤ 128 := by
  cases value with
  | text held =>
    simp only [providerRequestId,Option.ite_none_right_eq_some,Option.some.injEq] at accepted
    obtain ⟨⟨shaped,_⟩,rfl⟩ := accepted
    cases held with
    | nil => exact Nat.zero_le _
    | cons point rest =>
      simp only [identifier,decide_eq_true_eq] at shaped
      exact shaped.2.2
  | _ => cases accepted

theorem requestIdentifier_short (requested : requestIdentifier payload = some requestId) :
    requestId.all (·.length ≤ 128) = true := by
  unfold requestIdentifier at requested
  split at requested
  · cases requested
    rfl
  · obtain ⟨value,accepted,rfl⟩ := Option.map_eq_some_iff.mp requested
    exact decide_eq_true (providerRequestId_short accepted)

structure Lists (loads : Bytes → Option Json) (raw : Bytes) (page : Page) : Prop extends Answers loads raw page where
  fits : raw.length ≤ metadataMaxBytes

def verdict (loads : Bytes → Option Json) (raw : Bytes) (modelId inferenceProvider : Text) : Exit :=
  if metadataMaxBytes < raw.length then (.failed,some .responseTooLarge)
  else match readMetadata loads raw modelId inferenceProvider with
  | .error exit => exit
  | .ok _ => (.reported,none)

theorem parseMetadata_verdict (measures : Measures sha256 loads) : ∃ outcome,
    parseMetadata sha256 loads raw modelId inferenceProvider = .ok outcome ∧ outcome.valid = true ∧
      (outcome.state,outcome.reason) = verdict loads raw modelId inferenceProvider ∧
      ∀ report requestId, readMetadata loads raw modelId inferenceProvider = .ok (report,requestId) →
        raw.length ≤ metadataMaxBytes → outcome.report = some report ∧ outcome.providerRequestId = requestId := by
  by_cases large : metadataMaxBytes < raw.length
  · refine ⟨_,by rw [parseMetadata,if_pos large]; exact modelValidate_ok rfl,rfl,by rw [verdict,if_pos large],?_⟩
    exact fun _ _ _ fits => absurd large (Nat.not_lt.mpr fits)
  have fits : raw.length ≤ metadataMaxBytes := Nat.not_lt.mp large
  rw [parseMetadata,if_neg large,verdict,if_neg large]
  cases ran : readMetadata loads raw modelId inferenceProvider with
  | ok found =>
    obtain ⟨report,requestId⟩ := found
    obtain ⟨page,answers,reports⟩ := readMetadata_ok.mp ran
    have valid := @reported_valid _ _ _ report measures.digests fits (answers_filled measures.blank answers)
      (requestIdentifier_short reports.requested)
    refine ⟨_,modelValidate_ok valid,valid,rfl,?_⟩
    rintro _ _ ⟨⟩ _
    exact ⟨rfl,rfl⟩
  | error exit =>
    obtain ⟨state,reason⟩ := exit
    have valid : MetadataOutcome.valid {state, reason, responseSha256 := some (sha256 raw), responseBytes := some raw.length} = true := by
      rcases readMetadata_error ran with ⟨page,answers,raised⟩ | ⟨unread,_⟩
      · rcases onlyModel_error.mp raised with ⟨_,exited⟩ | ⟨_,exited⟩ | ⟨_,exited⟩
        · cases exited
          exact notFound_valid measures.digests fits (answers_filled measures.blank answers)
        · cases exited
          exact @refused_valid _ _ (indeterminate .resultNotUnique) measures.digests fits (.inl rfl) rfl
        · cases exited
          exact @refused_valid _ _ (indeterminate .incompleteResult) measures.digests fits (.inl rfl) rfl
      · simp only [Exit.malformed,decide_eq_true_eq] at unread
        refine @refused_valid _ _ (state,reason) measures.digests fits unread.1 ?_
        cases reason with
        | none => cases unread.2
        | some why => rfl
    exact ⟨_,modelValidate_ok valid,valid,rfl,fun _ _ other => by cases other⟩

theorem verdict_reported (lists : Lists loads raw page) (reports : Reports page modelId inferenceProvider report requestId) :
    verdict loads raw modelId inferenceProvider = (.reported,none) := by
  rw [verdict,if_neg (Nat.not_lt.mpr lists.fits),readMetadata_ok.mpr ⟨page,lists.toAnswers,reports⟩]

theorem verdict_listed (lists : Lists loads raw page) (raised : onlyModel page = .error exit) :
    verdict loads raw modelId inferenceProvider = exit := by
  rw [verdict,if_neg (Nat.not_lt.mpr lists.fits),readMetadata_listed lists.toAnswers raised]

-- No page, or a page whose only entry cannot be read.
def Unread (loads : Bytes → Option Json) (raw : Bytes) (modelId inferenceProvider : Text) : Prop :=
  (∀ page, ¬Lists loads raw page) ∨ ∃ page model, Lists loads raw page ∧ page.total = 1 ∧ page.models = [model] ∧
    ∀ report requestId, ¬Reports page modelId inferenceProvider report requestId

theorem verdict_cases (loads : Bytes → Option Json) (raw : Bytes) (modelId inferenceProvider : Text) :
    (verdict loads raw modelId inferenceProvider = (.reported,none) ∧
      ∃ page report requestId, Lists loads raw page ∧ Reports page modelId inferenceProvider report requestId) ∨
    (∃ page, Lists loads raw page ∧ onlyModel page = .error (verdict loads raw modelId inferenceProvider)) ∨
    Exit.malformed (verdict loads raw modelId inferenceProvider) = true ∧ Unread loads raw modelId inferenceProvider := by
  by_cases large : metadataMaxBytes < raw.length
  · refine .inr (.inr ⟨by rw [verdict,if_pos large]; rfl,.inl fun page lists => ?_⟩)
    exact absurd large (Nat.not_lt.mpr lists.fits)
  have fits : raw.length ≤ metadataMaxBytes := Nat.not_lt.mp large
  rw [verdict,if_neg large]
  cases ran : readMetadata loads raw modelId inferenceProvider with
  | ok found =>
    obtain ⟨report,requestId⟩ := found
    obtain ⟨page,answers,reports⟩ := readMetadata_ok.mp ran
    exact .inl ⟨rfl,page,report,requestId,⟨answers,fits⟩,reports⟩
  | error exit =>
    rcases readMetadata_error ran with ⟨page,answers,raised⟩ | ⟨malformed,unlisted | ⟨page,model,answers,one,only,unread⟩⟩
    · exact .inr (.inl ⟨page,⟨answers,fits⟩,raised⟩)
    · exact .inr (.inr ⟨malformed,.inl fun page lists => unlisted page lists.toAnswers⟩)
    · exact .inr (.inr ⟨malformed,.inr ⟨page,model,⟨answers,fits⟩,one,only,unread⟩⟩)

theorem onlyModel_exit (raised : onlyModel page = .error exit) :
    exit = (.notFound,none) ∨ exit = indeterminate .resultNotUnique ∨ exit = indeterminate .incompleteResult := by
  rcases onlyModel_error.mp raised with ⟨_,rfl⟩ | ⟨_,rfl⟩ | ⟨_,rfl⟩
  · exact .inl rfl
  · exact .inr (.inl rfl)
  · exact .inr (.inr rfl)

-- An exit that a count of the page explains.
theorem verdict_counted (counted : Exit.malformed exit = false) (unreported : exit ≠ (.reported,none)) :
    verdict loads raw modelId inferenceProvider = exit ↔ ∃ page, Lists loads raw page ∧ onlyModel page = .error exit := by
  constructor
  · rintro rfl
    rcases verdict_cases loads raw modelId inferenceProvider with ⟨reported,_⟩ | listed | ⟨malformed,_⟩
    · exact absurd reported unreported
    · exact listed
    · exact absurd malformed (by simp only [counted,Bool.false_eq_true,not_false_eq_true])
  · rintro ⟨page,lists,raised⟩
    exact verdict_listed lists raised

theorem verdict_malformed : Exit.malformed (verdict loads raw modelId inferenceProvider) = true ↔
    Unread loads raw modelId inferenceProvider := by
  constructor
  · intro malformed
    rcases verdict_cases loads raw modelId inferenceProvider with ⟨reported,_⟩ | ⟨page,_,raised⟩ | ⟨_,unread⟩
    · rw [reported] at malformed
      cases malformed
    · rcases onlyModel_exit raised with exited | exited | exited <;> rw [exited] at malformed <;> cases malformed
    · exact unread
  · intro unread
    rcases verdict_cases loads raw modelId inferenceProvider with ⟨_,page,report,requestId,lists,reports⟩ | ⟨page,lists,raised⟩ | ⟨malformed,_⟩
    · rcases unread with unlisted | ⟨other,_,lists',_,_,unread⟩
      · exact absurd lists (unlisted page)
      · cases answers_unique lists.toAnswers lists'.toAnswers
        exact absurd reports (unread report requestId)
    · rcases unread with unlisted | ⟨other,model,lists',one,only,_⟩
      · exact absurd lists (unlisted page)
      · cases answers_unique lists.toAnswers lists'.toAnswers
        rw [onlyModel_ok.mpr ⟨one,only⟩] at raised
        cases raised
    · exact malformed

-- What can be returned.
def Exit.Shaped (exit : Exit) : Prop :=
  exit = (.reported,none) ∨ exit = (.notFound,none) ∨ exit = indeterminate .resultNotUnique ∨
    exit = indeterminate .incompleteResult ∨ Exit.malformed exit = true

theorem verdict_shaped (loads : Bytes → Option Json) (raw : Bytes) (modelId inferenceProvider : Text) :
    Exit.Shaped (verdict loads raw modelId inferenceProvider) := by
  rcases verdict_cases loads raw modelId inferenceProvider with ⟨reported,_⟩ | ⟨page,_,raised⟩ | ⟨malformed,_⟩
  · exact .inl reported
  · rcases onlyModel_exit raised with exited | exited | exited
    · exact .inr (.inl exited)
    · exact .inr (.inr (.inl exited))
    · exact .inr (.inr (.inr (.inl exited)))
  · exact .inr (.inr (.inr (.inr malformed)))

theorem malformed_exit (unread : Exit.malformed exit = true) :
    (exit.1 = .indeterminate ∨ exit.1 = .failed) ∧ exit.2.any malformed = true := by
  simpa only [Exit.malformed,decide_eq_true_eq] using unread

theorem shaped_state (shaped : Exit.Shaped exit) :
    (exit.1 = .reported ↔ exit = (.reported,none)) ∧ (exit.1 = .notFound ↔ exit = (.notFound,none)) := by
  rcases shaped with rfl | rfl | rfl | rfl | unread
  · decide
  · decide
  · decide
  · decide
  · obtain ⟨state,reason⟩ := exit
    obtain ⟨refused,reasoned⟩ := malformed_exit unread
    cases reason with
    | none => cases reasoned
    | some why =>
      dsimp only at refused
      rcases refused with rfl | rfl <;> simp

theorem shaped_reason (shaped : Exit.Shaped exit) (reason : MetadataReason) (readable : malformed reason = false) :
    exit.2 = some reason ↔ exit = indeterminate reason := by
  rcases shaped with rfl | rfl | rfl | rfl | unread
  · simp [indeterminate]
  · simp [indeterminate]
  · simp [indeterminate]
  · simp [indeterminate]
  · obtain ⟨state,why⟩ := exit
    obtain ⟨_,reasoned⟩ := malformed_exit unread
    constructor
    · rintro rfl
      exact absurd reasoned (by simp only [Option.any_some,readable,Bool.false_eq_true,not_false_eq_true])
    · intro exited
      cases exited
      rfl

theorem shaped_malformed (shaped : Exit.Shaped exit) : exit.2.any malformed = true ↔ Exit.malformed exit = true := by
  rcases shaped with rfl | rfl | rfl | rfl | unread
  · decide
  · decide
  · decide
  · decide
  · exact ⟨fun _ => unread,fun unread => (malformed_exit unread).2⟩

theorem parseMetadata_classifies (measures : Measures sha256 loads) (raw : Bytes) (modelId inferenceProvider : Text) : ∃ outcome,
    parseMetadata sha256 loads raw modelId inferenceProvider = .ok outcome ∧ outcome.valid = true ∧
    (outcome.state = .reported ↔
      ∃ page report requestId, Lists loads raw page ∧ Reports page modelId inferenceProvider report requestId) ∧
    (∀ page report requestId, Lists loads raw page → Reports page modelId inferenceProvider report requestId →
      outcome.report = some report ∧ outcome.providerRequestId = requestId) ∧
    (outcome.state = .notFound ↔ ∃ page, Lists loads raw page ∧ page.total = 0 ∧ page.models = []) ∧
    (outcome.reason = some .resultNotUnique ↔ ∃ page, Lists loads raw page ∧ (1 < page.total ∨ 1 < page.models.length)) ∧
    (outcome.reason = some .incompleteResult ↔ ∃ page, Lists loads raw page ∧
      (page.total = 0 ∧ page.models.length = 1 ∨ page.total = 1 ∧ page.models = [])) ∧
    (outcome.reason.any malformed = true ↔ Unread loads raw modelId inferenceProvider) := by
  obtain ⟨outcome,parsed,valid,exited,described⟩ :=
    @parseMetadata_verdict _ _ raw modelId inferenceProvider measures
  have shaped := verdict_shaped loads raw modelId inferenceProvider
  rw [←exited] at shaped
  refine ⟨outcome,parsed,valid,?_,?_,?_,?_,?_,?_⟩
  · rw [(shaped_state shaped).1,exited]
    constructor
    · intro reported
      rcases verdict_cases loads raw modelId inferenceProvider with ⟨_,found⟩ | ⟨page,_,raised⟩ | ⟨unread,_⟩
      · exact found
      · rcases onlyModel_exit raised with other | other | other <;> rw [reported] at other <;> cases other
      · rw [reported] at unread
        cases unread
    · rintro ⟨page,report,requestId,lists,reports⟩
      exact verdict_reported lists reports
  · intro page report requestId lists reports
    exact described report requestId (readMetadata_ok.mpr ⟨page,lists.toAnswers,reports⟩) lists.fits
  · rw [(shaped_state shaped).2,exited,verdict_counted rfl (by decide)]
    refine exists_congr fun page => and_congr_right fun _ => ?_
    simp [onlyModel_error,indeterminate]
  · rw [shaped_reason shaped _ rfl,exited,verdict_counted rfl (by decide)]
    refine exists_congr fun page => and_congr_right fun _ => ?_
    simp [onlyModel_error,indeterminate]
  · rw [shaped_reason shaped _ rfl,exited,verdict_counted rfl (by decide)]
    refine exists_congr fun page => and_congr_right fun lists => ?_
    obtain ⟨_,_,_,low,_⟩ := lists.listed
    simp only [onlyModel_error,indeterminate,Prod.mk.injEq,reduceCtorEq,and_false,Option.some.injEq,and_true,false_or]
    refine or_congr (and_congr_left fun _ => ?_) ?_
    · omega
    · rw [←and_assoc]
      exact and_congr_left fun _ => by omega
  · rw [shaped_malformed shaped,exited,verdict_malformed]

-- The requested model alone on the page, without a provider.
def sampleRaw : Bytes :=
  "\x7b\"output\":\x7b\"total\":1,\"page_no\":1,\"page_size\":2,\"models\":[\x7b\"model\":\"m\"\x7d]\x7d\x7d".toList.map
    fun point => UInt8.ofNat point.toNat

def sampleModel : Fields := [(text "model",.text (text "m"))]

def sampleOutput : Fields :=
  [(text "total",.integer 1),(text "page_no",.integer 1),(text "page_size",.integer 2),(text "models",.list [.object sampleModel])]

def samplePage : Page := ⟨[(text "output",.object sampleOutput)],1,[.object sampleModel]⟩

def sampleLoads (raw : Bytes) : Option Json := if raw = sampleRaw then some (.object samplePage.payload) else none

def sampleSha256 (_ : Bytes) : Text := text "65ecc39b558ee9f994361299ae45e18d37ac5bfbca64515997b848500bd40605"

theorem sample_measures : Measures sampleSha256 sampleLoads where
  digests _ := by unfold sampleSha256; decide
  blank := by decide

theorem sample_lists : Lists sampleLoads sampleRaw samplePage where
  read := if_pos rfl
  unique := by decide
  success := .inl (by decide)
  code := .inl (by rfl)
  listed := ⟨sampleOutput,by rfl,by rfl,by decide,by decide,by rfl,by rfl,by rfl⟩
  fits := by decide

-- The same page with the provider, one limit and a request id.
def reportedRaw : Bytes :=
  ("\x7b\"request_id\":\"r\",\"output\":\x7b\"total\":1,\"page_no\":1,\"page_size\":2,\"models\":[\x7b\"model\":\"m\"," ++
    "\"inference_provider\":\"p\",\"provider\":\"q\",\"model_info\":\x7b\"context_window\":8192\x7d\x7d]\x7d\x7d").toList.map
    fun point => UInt8.ofNat point.toNat

def reportedModel : Fields :=
  [(text "model",.text (text "m")),(text "inference_provider",.text (text "p")),(text "provider",.text (text "q")),
    (text "model_info",.object [(text "context_window",.integer 8192)])]

def reportedOutput : Fields :=
  [(text "total",.integer 1),(text "page_no",.integer 1),(text "page_size",.integer 2),(text "models",.list [.object reportedModel])]

def reportedPage : Page :=
  ⟨[(text "request_id",.text (text "r")),(text "output",.object reportedOutput)],1,[.object reportedModel]⟩

def reportedLoads (raw : Bytes) : Option Json := if raw = reportedRaw then some (.object reportedPage.payload) else none

def sampleReport : MetadataReport := ⟨text "m",text "q",text "p",.value 8192,.missing,.missing⟩

theorem reported_measures : Measures sampleSha256 reportedLoads := by
  refine ⟨sample_measures.digests,?_⟩
  unfold reportedLoads
  rw [if_neg (by decide +kernel)]

theorem reported_lists : Lists reportedLoads reportedRaw reportedPage where
  read := if_pos rfl
  unique := by decide
  success := .inl (by decide)
  code := .inl (by rfl)
  listed := ⟨reportedOutput,by rfl,by rfl,by decide,by decide,by rfl,by rfl,by rfl⟩
  fits := by decide +kernel

theorem reported_reports : Reports reportedPage (text "m") (text "p") sampleReport (some (text "r")) where
  single := ⟨rfl,_,rfl,by rfl,by rfl,⟨[(text "context_window",.integer 8192)],by rfl,by rfl,by rfl,by rfl⟩,by rfl,by rfl,by rfl⟩
  requested := by rfl

-- The full entry is reported as it is written; the bare one is not, and not for want of an entry.
theorem parseMetadata_classifies_sample :
    (∃ outcome, parseMetadata sampleSha256 reportedLoads reportedRaw (text "m") (text "p") = .ok outcome ∧
      outcome.valid = true ∧ outcome.state = .reported ∧ outcome.report = some sampleReport ∧
      outcome.providerRequestId = some (text "r")) ∧
    ∃ outcome, parseMetadata sampleSha256 sampleLoads sampleRaw (text "m") (text "p") = .ok outcome ∧
      outcome.valid = true ∧ outcome.state ≠ .notFound := by
  constructor
  · obtain ⟨outcome,parsed,valid,reported,described,_⟩ :=
      parseMetadata_classifies reported_measures reportedRaw (text "m") (text "p")
    exact ⟨outcome,parsed,valid,reported.mpr ⟨_,_,_,reported_lists,reported_reports⟩,
      described _ _ _ reported_lists reported_reports⟩
  · obtain ⟨outcome,parsed,valid,_,_,missing,_⟩ := parseMetadata_classifies sample_measures sampleRaw (text "m") (text "p")
    refine ⟨outcome,parsed,valid,fun unlisted => ?_⟩
    obtain ⟨page,lists,none,_⟩ := missing.mp unlisted
    cases answers_unique lists.toAnswers sample_lists.toAnswers
    cases none

-- The only entry has the requested id and is not reported.
theorem requested_unreported : Lists sampleLoads sampleRaw samplePage ∧ samplePage.models = [.object sampleModel] ∧
    Json.at sampleModel "model" = .text (text "m") ∧
    ∃ outcome, parseMetadata sampleSha256 sampleLoads sampleRaw (text "m") (text "p") = .ok outcome ∧
      outcome.state ≠ .reported := by
  refine ⟨sample_lists,rfl,by rfl,_,rfl,by decide⟩

end EngineeringPlatform.ModelMetadata
