import EngineeringPlatform.StreamFrames
import EngineeringPlatform.ProviderReplies
namespace EngineeringPlatform.ModelGateway
open EventStream PythonText

-- All that a probe has observed besides its frames.
structure StreamTally where
  kind : CheckKind
  modelId : Text
  events : Nat
  textDeltas : Nat
  textBytes : Nat
  answerObserved : Bool
  reasoningObserved : Bool
  reasoningDeltas : Nat
  reasoningBytes : Nat
  normalCompletion : Bool
  done : Bool
  requestId : Option Text
  reportedModel : Option Text
  usage : Option ProbeUsage
  deriving DecidableEq

def StreamTally.start (kind : CheckKind) (modelId : Text) : StreamTally :=
  ⟨kind,modelId,0,0,0,false,false,0,0,false,false,none,none,none⟩

-- What an event has observed before it raises stays observed.
abbrev Observing := ExceptT CheckReason (StateM StreamTally)

def expect (holds : Bool) (reason : CheckReason) : Observing Unit := if holds then pure () else throw reason

def whenever (holds : Bool) (observing : Observing Unit) : Observing Unit := if holds then observing else pure ()

def valid (value : Option α) : Observing α :=
  match value with
  | some value => pure value
  | none => throw .invalidStreamResponse

def asciiSpace (byte : UInt8) : Bool := byte = 32 ∨ (9 ≤ byte ∧ byte ≤ 13)

def stripped (data : Bytes) : Bytes := ((data.dropWhile asciiSpace).reverse.dropWhile asciiSpace).reverse

-- [DONE]
def doneMarker : Bytes := [91,68,79,78,69,93]

def observeDone : Observing Bool := do
  modify fun tally => {tally with done := true}
  let tally ← get
  expect (tally.normalCompletion ∧ tally.textDeltas ≠ 0) .invalidStreamResponse
  expect (tally.kind = .thinking → tally.answerObserved) .invalidStreamResponse
  pure true

def identify (value : Fields) : Observing Unit := do
  let reported ← valid (providerModelId (Json.at value "model"))
  let requestId ← valid (providerRequestId (Json.at value "id"))
  let tally ← get
  expect (reported = tally.modelId) .modelIdentityMismatch
  expect (tally.requestId.all (requestId = ·)) .streamIdentityChanged
  modify fun tally => {tally with requestId := some requestId, reportedModel := some reported}

-- Each usage object is a cumulative observation, never an additive delta.
def reportUsage (value : Json) : Observing Unit :=
  if value.isNull then pure ()
  else do
    let usage ← valid (probeUsage value)
    modify fun tally => {tally with usage := some usage}

def optionalText : Json → Option Text
  | .null => some []
  | .text value => some value
  | _ => none

def observeReasoning (delta : Fields) : Observing Unit := do
  let reasoning ← valid (optionalText (Json.at delta "reasoning_content"))
  if reasoning = [] then pure ()
  else
    let encoded ← valid (utf8Length reasoning)
    modify fun tally => {tally with
      reasoningDeltas := tally.reasoningDeltas + 1
      reasoningBytes := tally.reasoningBytes + encoded
      reasoningObserved := tally.reasoningObserved || ¬onlySpace reasoning}

def observeContent (content : Text) : Observing Unit :=
  if content = [] then pure ()
  else do
    let encoded ← valid (utf8Length content)
    modify fun tally => {tally with
      textDeltas := tally.textDeltas + 1
      textBytes := tally.textBytes + encoded
      answerObserved := tally.answerObserved || ¬onlySpace content}

def isZero : Json → Bool
  | .integer value => value = 0
  | _ => false

def observeChoice (choice : Fields) : Observing Bool := do
  let finishReason := Json.at choice "finish_reason"
  expect (isZero (Json.at choice "index")) .invalidStreamResponse
  let delta ← valid (Json.at choice "delta").asObject
  let role := Json.at delta "role"
  expect (role.isNull ∨ role.is "assistant") .invalidStreamResponse
  expect (¬((Json.at delta "tool_calls").truthy ∨ (Json.at delta "function_call").truthy ∨
    (Json.at delta "audio").truthy)) .invalidStreamResponse
  expect (¬((Json.at delta "refusal").truthy ∨ finishReason.is "content_filter")) .responseRefused
  expect (¬finishReason.is "length") .responseTruncated
  expect (finishReason.isNull ∨ finishReason.is "stop") .invalidStreamResponse
  let content ← valid (optionalText (Json.at delta "content"))
  let tally ← get
  expect (¬tally.normalCompletion) .invalidStreamResponse
  whenever (tally.kind = .thinking) (observeReasoning delta)
  observeContent content
  whenever (finishReason.is "stop") (modify fun tally => {tally with normalCompletion := true})
  let tally ← get
  pure (tally.kind = .streamStop ∧ 0 < tally.textDeltas)

def observeChoices (value : Fields) : List Json → Observing Bool
  | [] => do
    expect (¬(Json.at value "usage").isNull) .invalidStreamResponse
    pure false
  | [.object choice] => observeChoice choice
  | _ => throw .invalidStreamResponse

-- `loads` is json.loads on the bytes of an event, without a value where it raises.
def payload (loads : Bytes → Option Json) (data : Bytes) : Observing Bool :=
  if stripped data = doneMarker then observeDone
  else do
    let value ← valid ((loads data).bind Json.asObject)
    expect ((Json.at value "object").is "chat.completion.chunk") .invalidStreamResponse
    identify value
    reportUsage (Json.at value "usage")
    let choices ← valid (Json.at value "choices").asList
    observeChoices value choices

def event (loads : Bytes → Option Json) (data : Bytes) : Observing Bool := do
  modify fun tally => {tally with events := tally.events + 1}
  let tally ← get
  expect (tally.events ≤ maxStreamEvents) .streamEventLimit
  payload loads data

structure StreamProbe where
  tally : StreamTally
  frames : SseFrames
  localClosed : Bool
  deriving DecidableEq

def StreamProbe.start (kind : CheckKind) (modelId : Text) : StreamProbe := ⟨.start kind modelId,.start,false⟩

inductive Ending where
  | succeeded
  | interrupted
  | failed (reason : CheckReason)
  deriving DecidableEq

-- The loop over one chunk. The frames yield lazily: the bytes behind an event are
-- read when the event has been observed, and not at all when it is the last.
def StreamProbe.chunk (loads : Bytes → Option Json) (probe : StreamProbe) : Bytes → StreamProbe × Option Ending
  | [] => (probe,none)
  | value :: rest =>
    match probe.frames.next value with
    | (frames,.quiet) => {probe with frames}.chunk loads rest
    | (frames,.failed reason) => ({probe with frames},some (.failed reason))
    | (frames,.event data) =>
      match event loads data probe.tally with
      | (.error reason,tally) => ({probe with frames, tally},some (.failed reason))
      | (.ok true,tally) => ({probe with frames, tally},some .succeeded)
      | (.ok false,tally) => {probe with frames, tally}.chunk loads rest

def StreamProbe.receive (loads : Bytes → Option Json) (probe : StreamProbe) : List Bytes → StreamProbe × Ending
  | [] => (probe,.interrupted)
  | chunk :: chunks =>
    match probe.chunk loads chunk with
    | (probe,some ending) => (probe,ending)
    | (probe,none) => probe.receive loads chunks

structure ReasoningObservation where
  observed : Bool
  deltaCount : Nat
  bytes : Nat
  deriving DecidableEq

-- Of a thinking probe it also has the reasoning.
structure StreamObservation where
  consumedBytes : Nat
  dataEventCount : Nat
  textDeltaCount : Nat
  textBytes : Nat
  textObserved : Bool
  normalCompletionObserved : Bool
  completionMarkerObserved : Bool
  localStreamClosed : Bool
  reasoning : Option ReasoningObservation
  deriving DecidableEq

def StreamObservation.wellFormed (observation : StreamObservation) : Bool :=
  observation.consumedBytes ≤ 65537 ∧ observation.dataEventCount ≤ 257 ∧ observation.textDeltaCount ≤ 256 ∧
    observation.textBytes ≤ 65536 ∧
    observation.reasoning.all fun reasoning => reasoning.deltaCount ≤ 256 ∧ reasoning.bytes ≤ 65536

-- The observation type validates its own bounds.
def StreamProbe.observation (probe : StreamProbe) : Option StreamObservation :=
  let tally := probe.tally
  let observation : StreamObservation := {
    consumedBytes := probe.frames.consumedBytes
    dataEventCount := tally.events
    textDeltaCount := tally.textDeltas
    textBytes := tally.textBytes
    textObserved := if tally.kind = .thinking then tally.answerObserved else 0 < tally.textDeltas
    normalCompletionObserved := tally.normalCompletion
    completionMarkerObserved := tally.done
    localStreamClosed := probe.localClosed
    reasoning :=
      if tally.kind = .thinking then some ⟨tally.reasoningObserved,tally.reasoningDeltas,tally.reasoningBytes⟩ else none }
  if observation.wellFormed then some observation else none

structure StreamOutcome where
  state : CheckState
  reason : Option CheckReason
  providerRequestId : Option Text
  reportedModelId : Option Text
  usage : Option ProbeUsage
  observation : StreamObservation
  deriving DecidableEq

def StreamProbe.outcome (probe : StreamProbe) (state : CheckState) (reason : Option CheckReason) : Option StreamOutcome := do
  let observation ← probe.observation
  pure ⟨state,reason,probe.tally.requestId,probe.tally.reportedModel,probe.tally.usage,observation⟩

def Ending.outcome (probe : StreamProbe) : Ending → Option StreamOutcome
  | .succeeded => probe.outcome .succeeded none
  | .interrupted => probe.outcome .unknown (some .streamInterrupted)
  | .failed reason => probe.outcome .failed (some reason)

-- What a response body makes of a probe, however it comes in.
def StreamProbe.body (loads : Bytes → Option Json) (kind : CheckKind) (modelId : Text) (chunks : List Bytes) :
    StreamProbe × Option StreamOutcome :=
  let (probe,ending) := (StreamProbe.start kind modelId).receive loads chunks
  (probe,ending.outcome probe)

theorem observing_bind (first : Observing α) (rest : α → Observing β) (tally : StreamTally) :
    (first >>= rest) tally =
      match first tally with
      | (.ok found,middle) => rest found middle
      | (.error reason,middle) => (.error reason,middle) := by
  change (ExceptT.bindCont rest (first tally).1) (first tally).2 = _
  rcases first tally with ⟨reason | found,middle⟩ <;> rfl

-- Whatever comes of a program, it leaves what `view` reads.
def Keeps {γ : Type} (view : StreamTally → γ) (observing : Observing α) : Prop :=
  ∀ tally, view (observing tally).2 = view tally

section Keeping
variable {γ : Type} {view : StreamTally → γ}

theorem keeps_pure (value : α) : Keeps view (pure value) := fun _ => rfl

theorem keeps_throw (reason : CheckReason) : Keeps view (throw reason : Observing α) := fun _ => rfl

theorem keeps_get : Keeps view (get : Observing StreamTally) := fun _ => rfl

theorem keeps_modify {change : StreamTally → StreamTally} (ignored : ∀ tally, view (change tally) = view tally) :
    Keeps view (modify change : Observing Unit) := ignored

theorem keeps_bind {first : Observing α} {rest : α → Observing β} (before : Keeps view first)
    (behind : ∀ value, Keeps view (rest value)) : Keeps view (first >>= rest) := by
  intro tally
  have kept := before tally
  rw [observing_bind]
  rcases ran : first tally with ⟨reason | value,next⟩
  · rw [ran] at kept
    exact kept
  · rw [ran] at kept
    exact (behind value next).trans kept

theorem keeps_expect (holds : Bool) (reason : CheckReason) : Keeps view (expect holds reason) := by
  unfold expect
  split
  · exact keeps_pure ()
  · exact keeps_throw reason

theorem keeps_valid (value : Option α) : Keeps view (valid value) := by
  cases value with
  | none => exact keeps_throw _
  | some value => exact keeps_pure value

theorem keeps_whenever {observing : Observing Unit} (holds : Bool) (keeps : Keeps view observing) :
    Keeps view (whenever holds observing) := by
  unfold whenever
  split
  · exact keeps
  · exact keeps_pure ()

theorem observeDone_keeps (ignored : ∀ tally, view {tally with done := true} = view tally) : Keeps view observeDone :=
  keeps_bind (keeps_modify ignored) fun _ => keeps_bind keeps_get fun _ =>
    keeps_bind (keeps_expect _ _) fun _ => keeps_bind (keeps_expect _ _) fun _ => keeps_pure true

theorem identify_keeps (ignored : ∀ tally requestId reported,
    view {tally with requestId := requestId, reportedModel := reported} = view tally) (value : Fields) :
    Keeps view (identify value) :=
  keeps_bind (keeps_valid _) fun _ => keeps_bind (keeps_valid _) fun _ =>
    keeps_bind keeps_get fun _ => keeps_bind (keeps_expect _ _) fun _ =>
      keeps_bind (keeps_expect _ _) fun _ => keeps_modify fun tally => ignored tally _ _

theorem reportUsage_keeps (ignored : ∀ tally usage, view {tally with usage := usage} = view tally) (value : Json) :
    Keeps view (reportUsage value) := by
  unfold reportUsage
  split
  · exact keeps_pure ()
  · exact keeps_bind (keeps_valid _) fun _ => keeps_modify fun tally => ignored tally _
end Keeping

end EngineeringPlatform.ModelGateway
