import EngineeringPlatform.StreamProbes
namespace EngineeringPlatform.ModelGateway
open EventStream PythonText
variable {tally after middle : StreamTally} {α β : Type}

-- A program that reads and changes the tally of a probe, run from one tally.
theorem observing_bind_ok {first : Observing α} {rest : α → Observing β} {value : β} :
    (first >>= rest) tally = (.ok value,after) ↔
      ∃ found middle, first tally = (.ok found,middle) ∧ rest found middle = (.ok value,after) := by
  rw [observing_bind]
  rcases first tally with ⟨reason | found,middle⟩
  · exact ⟨(fun impossible => by cases impossible),(fun ⟨_,_,impossible,_⟩ => by cases impossible)⟩
  · exact ⟨fun ran => ⟨found,middle,rfl,ran⟩,(fun ⟨_,_,same,ran⟩ => by cases same; exact ran)⟩

theorem observing_pure {value found : α} : (pure value : Observing α) tally = (.ok found,after) ↔ value = found ∧ tally = after := by
  change ((.ok value,tally) : Except CheckReason α × StreamTally) = _ ↔ _
  simp only [Prod.mk.injEq,Except.ok.injEq]

theorem observing_throw {reason : CheckReason} {found : α} : (throw reason : Observing α) tally ≠ (.ok found,after) :=
  fun impossible => by cases impossible

theorem observing_get {found : StreamTally} : (get : Observing StreamTally) tally = (.ok found,after) ↔ tally = found ∧ tally = after := by
  change ((.ok tally,tally) : Except CheckReason StreamTally × StreamTally) = _ ↔ _
  simp only [Prod.mk.injEq,Except.ok.injEq]

theorem observing_modify {change : StreamTally → StreamTally} {found : Unit} :
    (modify change : Observing Unit) tally = (.ok found,after) ↔ change tally = after := by
  change ((.ok (),change tally) : Except CheckReason Unit × StreamTally) = _ ↔ _
  simp only [Prod.mk.injEq,true_and]

theorem expect_ok {holds : Bool} {reason : CheckReason} {found : Unit} :
    expect holds reason tally = (.ok found,after) ↔ holds = true ∧ tally = after := by
  cases holds with
  | false => exact ⟨(fun impossible => by cases impossible),(fun ⟨impossible,_⟩ => by cases impossible)⟩
  | true => exact observing_pure.trans ⟨fun ⟨_,same⟩ => ⟨rfl,same⟩,fun ⟨_,same⟩ => ⟨rfl,same⟩⟩

theorem valid_ok {value : Option α} {found : α} : valid value tally = (.ok found,after) ↔ value = some found ∧ tally = after := by
  cases value with
  | none => exact ⟨(fun impossible => by cases impossible),(fun ⟨impossible,_⟩ => by cases impossible)⟩
  | some value => exact observing_pure.trans (by rw [Option.some.injEq])

-- What is left of an event once its checks have passed.
inductive Verdict where
  | settled (last : Bool)
  | admitted (choice delta : Fields) (content : Text)

def admitChoice (choice : Fields) : Observing Verdict := do
  let finishReason := Json.at choice "finish_reason"
  expect (isZero (Json.at choice "index")) .invalidStreamResponse
  let delta ← valid (Json.at choice "delta").asObject
  let role := Json.at delta "role"
  expect (role.isNull ∨ role.is "assistant") .invalidStreamResponse
  expect (¬((Json.at delta "tool_calls").truthy ∨ (Json.at delta "function_call").truthy ∨
    (Json.at delta "audio").truthy)) .invalidStreamResponse
  expect (¬((Json.at delta "refusal").truthy ∨ finishReason.is "content_filter")) .responseRefused
  expect (¬finishReason.is "length") .responseTruncated
  expect (finishReason.isNull ∨ finishReason.is "stop") .invalidStreamResponse
  let content ← valid (optionalText (Json.at delta "content"))
  let tally ← get
  expect (¬tally.normalCompletion) .invalidStreamResponse
  pure (.admitted choice delta content)

def admitChoices (value : Fields) : List Json → Observing Verdict
  | [] => do
    expect (¬(Json.at value "usage").isNull) .invalidStreamResponse
    pure (.settled false)
  | [.object choice] => admitChoice choice
  | _ => throw .invalidStreamResponse

def admitValue (value : Fields) : Observing Verdict := do
  expect ((Json.at value "object").is "chat.completion.chunk") .invalidStreamResponse
  identify value
  reportUsage (Json.at value "usage")
  let choices ← valid (Json.at value "choices").asList
  admitChoices value choices

-- The checks of an event, up to its texts.
def admission (loads : Bytes → Option Json) (data : Bytes) : Observing Verdict := do
  modify fun tally => {tally with events := tally.events + 1}
  let tally ← get
  expect (tally.events ≤ maxStreamEvents) .streamEventLimit
  if stripped data = doneMarker then do
    let last ← observeDone
    pure (.settled last)
  else do
    let value ← valid ((loads data).bind Json.asObject)
    admitValue value

def Verdict.tell : Verdict → Observing Bool
  | .settled last => pure last
  | .admitted choice delta content => do
    let tally ← get
    whenever (tally.kind = .thinking) (observeReasoning delta)
    observeContent content
    whenever ((Json.at choice "finish_reason").is "stop") (modify fun tally => {tally with normalCompletion := true})
    let tally ← get
    pure (tally.kind = .streamStop ∧ 0 < tally.textDeltas)

-- A check reads the tally and leaves it.
theorem observing_get_again {β : Type} (holds : StreamTally → Bool) (reason : CheckReason) (rest : StreamTally → Observing β) :
    (do let tally ← get
        expect (holds tally) reason
        let tally ← get
        rest tally : Observing β) =
      (do let tally ← get
          expect (holds tally) reason
          rest tally) := by
  funext tally
  rw [observing_bind,observing_bind]
  change ((expect (holds tally) reason >>= fun _ => get >>= rest) : Observing β) tally =
    ((expect (holds tally) reason >>= fun _ => rest tally) : Observing β) tally
  cases holds tally <;> rfl

theorem observeChoice_admits (choice : Fields) : observeChoice choice = admitChoice choice >>= Verdict.tell := by
  simp only [admitChoice,bind_assoc,pure_bind,Verdict.tell]
  simp only [observing_get_again]
  rfl

theorem observeChoices_admits (value : Fields) (choices : List Json) :
    observeChoices value choices = admitChoices value choices >>= Verdict.tell := by
  rcases choices with _ | ⟨first,_ | ⟨second,rest⟩⟩
  · simp only [observeChoices,admitChoices,bind_assoc,pure_bind,Verdict.tell]
  · cases first with
    | object choice => exact observeChoice_admits choice
    | _ => rfl
  · cases first <;> rfl

theorem event_admits (loads : Bytes → Option Json) (data : Bytes) : event loads data = admission loads data >>= Verdict.tell := by
  unfold event admission payload
  simp only [bind_assoc]
  congr 1
  funext _
  congr 1
  funext tally
  congr 1
  funext _
  split
  · simp only [bind_assoc,pure_bind,Verdict.tell,bind_pure]
  · simp only [admitValue,bind_assoc,observeChoices_admits]

-- A tally without what the checks of an event write.
def StreamTally.spoken (tally : StreamTally) : StreamTally :=
  {tally with events := 0, done := false, requestId := none, reportedModel := none, usage := none}

theorem admitChoice_keeps (choice : Fields) : Keeps StreamTally.spoken (admitChoice choice) := by
  unfold admitChoice
  refine keeps_bind (keeps_expect _ _) fun _ => keeps_bind (keeps_valid _) fun delta => ?_
  refine keeps_bind (keeps_expect _ _) fun _ => keeps_bind (keeps_expect _ _) fun _ => ?_
  refine keeps_bind (keeps_expect _ _) fun _ => keeps_bind (keeps_expect _ _) fun _ => ?_
  refine keeps_bind (keeps_expect _ _) fun _ => keeps_bind (keeps_valid _) fun content => ?_
  exact keeps_bind keeps_get fun _ => keeps_bind (keeps_expect _ _) fun _ => keeps_pure _

theorem admitChoices_keeps (value : Fields) (choices : List Json) : Keeps StreamTally.spoken (admitChoices value choices) := by
  unfold admitChoices
  split
  · exact keeps_bind (keeps_expect _ _) fun _ => keeps_pure _
  · exact admitChoice_keeps _
  · exact keeps_throw _

theorem admission_keeps (loads : Bytes → Option Json) (data : Bytes) : Keeps StreamTally.spoken (admission loads data) := by
  unfold admission
  refine keeps_bind (keeps_modify fun _ => rfl) fun _ => keeps_bind keeps_get fun _ =>
    keeps_bind (keeps_expect _ _) fun _ => ?_
  split
  · exact keeps_bind (observeDone_keeps fun _ => rfl) fun _ => keeps_pure _
  · refine keeps_bind (keeps_valid _) fun value => keeps_bind (keeps_expect _ _) fun _ => ?_
    refine keeps_bind (identify_keeps (fun _ _ _ => rfl) value) fun _ => ?_
    refine keeps_bind (reportUsage_keeps (fun _ _ => rfl) _) fun _ => ?_
    exact keeps_bind (keeps_valid _) fun choices => admitChoices_keeps value choices

def StreamTally.reasoned (tally : StreamTally) (reasoning : Text) (size : Nat) : StreamTally :=
  if reasoning = [] then tally
  else {tally with
    reasoningDeltas := tally.reasoningDeltas + 1
    reasoningBytes := tally.reasoningBytes + size
    reasoningObserved := tally.reasoningObserved || ¬onlySpace reasoning}

def StreamTally.answered (tally : StreamTally) (content : Text) (size : Nat) : StreamTally :=
  if content = [] then tally
  else {tally with
    textDeltas := tally.textDeltas + 1
    textBytes := tally.textBytes + size
    answerObserved := tally.answerObserved || ¬onlySpace content}

def StreamTally.stopped (tally : StreamTally) (stops : Bool) : StreamTally :=
  if stops then {tally with normalCompletion := true} else tally

-- The reasoning of a delta, which only a thinking probe reads, and its encoded size.
def reasoningOf (kind : CheckKind) (delta : Fields) : Option (Text × Nat) :=
  (if kind = .thinking then optionalText (Json.at delta "reasoning_content") else some []).bind fun reasoning =>
    (utf8Length reasoning).map (reasoning,·)

theorem observeContent_eq (content : Text) (tally : StreamTally) :
    observeContent content tally =
      match utf8Length content with
      | none => (.error .invalidStreamResponse,tally)
      | some size => (.ok (),tally.answered content size) := by
  unfold observeContent StreamTally.answered
  by_cases empty : content = []
  · cases empty
    rfl
  · rw [if_neg empty,observing_bind]
    cases utf8Length content with
    | none => rfl
    | some size => simp only [if_neg empty]; rfl

theorem observeReasoning_eq (delta : Fields) (tally : StreamTally) :
    whenever (tally.kind = .thinking) (observeReasoning delta) tally =
      match reasoningOf tally.kind delta with
      | none => (.error .invalidStreamResponse,tally)
      | some (reasoning,size) => (.ok (),tally.reasoned reasoning size) := by
  unfold whenever reasoningOf
  by_cases thinking : tally.kind = .thinking
  · rw [if_pos (by simpa using thinking),if_pos thinking]
    unfold observeReasoning
    rw [observing_bind]
    cases optionalText (Json.at delta "reasoning_content") with
    | none => rfl
    | some reasoning =>
      change ((if reasoning = [] then pure () else _ : Observing Unit)) tally = _
      by_cases empty : reasoning = []
      · cases empty
        rfl
      · rw [if_neg empty,observing_bind]
        simp only [Option.bind_some,StreamTally.reasoned]
        cases utf8Length reasoning with
        | none => rfl
        | some size => rw [Option.map_some]; simp only [if_neg empty]; rfl
  · rw [if_neg (by simpa using thinking),if_neg thinking]
    rfl

theorem tell_eq (choice delta : Fields) (content : Text) (tally : StreamTally) :
    (Verdict.admitted choice delta content).tell tally =
      match reasoningOf tally.kind delta with
      | none => (.error .invalidStreamResponse,tally)
      | some (reasoning,size) =>
        match utf8Length content with
        | none => (.error .invalidStreamResponse,tally.reasoned reasoning size)
        | some bytes =>
          let after := ((tally.reasoned reasoning size).answered content bytes).stopped
            ((Json.at choice "finish_reason").is "stop")
          (.ok (after.kind = .streamStop ∧ 0 < after.textDeltas),after) := by
  change ((whenever (tally.kind = .thinking) (observeReasoning delta) >>= _ : Observing Bool)) tally = _
  rw [observing_bind,observeReasoning_eq]
  cases reasoningOf tally.kind delta with
  | none => rfl
  | some found =>
    obtain ⟨reasoning,size⟩ := found
    dsimp only
    rw [observing_bind,observeContent_eq]
    cases utf8Length content with
    | none => rfl
    | some bytes =>
      dsimp only
      rw [observing_bind]
      cases (Json.at choice "finish_reason").is "stop" <;> rfl

-- An event that speaks for the model, under the id of its reply.
structure Chunk (loads : Bytes → Option Json) (modelId requestId : Text) (data : Bytes) (value : Fields) : Prop where
  read : (loads data).bind Json.asObject = some value
  object : (Json.at value "object").is "chat.completion.chunk" = true
  model : providerModelId (Json.at value "model") = some modelId
  id : providerRequestId (Json.at value "id") = some requestId

-- The one choice of a chunk and its delta.
structure Choice (value choice delta : Fields) (content : Text) : Prop where
  single : (Json.at value "choices").asList = some [.object choice]
  spoken : (Json.at choice "delta").asObject = some delta
  text : optionalText (Json.at delta "content") = some content

-- How an event passes its checks: as the marker, as a chunk without choices, or
-- as one with a choice, which comes before the stop.
inductive Admission (loads : Bytes → Option Json) (tally : StreamTally) (data : Bytes) (after : StreamTally) : Verdict → Prop
  | done (marker : stripped data = doneMarker) (complete : tally.normalCompletion = true)
      (spoken : tally.textDeltas ≠ 0) (answered : tally.kind = .thinking → tally.answerObserved = true)
      (same : after.requestId = tally.requestId) : Admission loads tally data after (.settled true)
  | silent {value : Fields} {requestId : Text} (other : stripped data ≠ doneMarker)
      (chunk : Chunk loads tally.modelId requestId data value) (one : ∀ earlier, tally.requestId = some earlier → requestId = earlier)
      (identified : after.requestId = some requestId) (none : (Json.at value "choices").asList = some []) :
      Admission loads tally data after (.settled false)
  | admitted {value choice delta : Fields} {requestId content : Text} (other : stripped data ≠ doneMarker)
      (chunk : Chunk loads tally.modelId requestId data value) (one : ∀ earlier, tally.requestId = some earlier → requestId = earlier)
      (identified : after.requestId = some requestId) (chosen : Choice value choice delta content)
      (incomplete : tally.normalCompletion = false) : Admission loads tally data after (.admitted choice delta content)

theorem identify_ok {value : Fields} {found : Unit} (ran : identify value tally = (.ok found,after)) :
    ∃ requestId, providerModelId (Json.at value "model") = some tally.modelId ∧
      providerRequestId (Json.at value "id") = some requestId ∧
      (∀ earlier, tally.requestId = some earlier → requestId = earlier) ∧ after.requestId = some requestId := by
  obtain ⟨reported,_,read,ran⟩ := observing_bind_ok.mp ran
  obtain ⟨model,rfl⟩ := valid_ok.mp read
  obtain ⟨requestId,_,read,ran⟩ := observing_bind_ok.mp ran
  obtain ⟨id,rfl⟩ := valid_ok.mp read
  obtain ⟨_,_,read,ran⟩ := observing_bind_ok.mp ran
  obtain ⟨rfl,rfl⟩ := observing_get.mp read
  obtain ⟨_,_,checked,ran⟩ := observing_bind_ok.mp ran
  obtain ⟨same,rfl⟩ := expect_ok.mp checked
  obtain ⟨_,_,checked,ran⟩ := observing_bind_ok.mp ran
  obtain ⟨one,rfl⟩ := expect_ok.mp checked
  cases observing_modify.mp ran
  have known := of_decide_eq_true same
  refine ⟨requestId,by rw [model,known],id,fun earlier found => ?_,rfl⟩
  rw [found] at one
  exact of_decide_eq_true one

theorem reportUsage_ok {value : Json} {found : Unit} (ran : reportUsage value tally = (.ok found,after)) :
    after.requestId = tally.requestId ∧ after.normalCompletion = tally.normalCompletion := by
  have keeps : Keeps (fun tally => (tally.requestId,tally.normalCompletion)) (reportUsage value) :=
    reportUsage_keeps (fun _ _ => rfl) value
  have kept := keeps tally
  rw [ran] at kept
  exact Prod.mk.inj kept

theorem admitChoice_ok {choice : Fields} {verdict : Verdict} (ran : admitChoice choice tally = (.ok verdict,after)) :
    tally = after ∧ tally.normalCompletion = false ∧ ∃ delta content, (Json.at choice "delta").asObject = some delta ∧
      optionalText (Json.at delta "content") = some content ∧ verdict = .admitted choice delta content := by
  obtain ⟨_,_,checked,ran⟩ := observing_bind_ok.mp ran
  obtain ⟨_,rfl⟩ := expect_ok.mp checked
  obtain ⟨delta,_,read,ran⟩ := observing_bind_ok.mp ran
  obtain ⟨deltaRead,rfl⟩ := valid_ok.mp read
  obtain ⟨_,_,checked,ran⟩ := observing_bind_ok.mp ran
  obtain ⟨_,rfl⟩ := expect_ok.mp checked
  obtain ⟨_,_,checked,ran⟩ := observing_bind_ok.mp ran
  obtain ⟨_,rfl⟩ := expect_ok.mp checked
  obtain ⟨_,_,checked,ran⟩ := observing_bind_ok.mp ran
  obtain ⟨_,rfl⟩ := expect_ok.mp checked
  obtain ⟨_,_,checked,ran⟩ := observing_bind_ok.mp ran
  obtain ⟨_,rfl⟩ := expect_ok.mp checked
  obtain ⟨_,_,checked,ran⟩ := observing_bind_ok.mp ran
  obtain ⟨_,rfl⟩ := expect_ok.mp checked
  obtain ⟨content,_,read,ran⟩ := observing_bind_ok.mp ran
  obtain ⟨contentRead,rfl⟩ := valid_ok.mp read
  obtain ⟨_,_,read,ran⟩ := observing_bind_ok.mp ran
  obtain ⟨rfl,rfl⟩ := observing_get.mp read
  obtain ⟨_,_,checked,ran⟩ := observing_bind_ok.mp ran
  obtain ⟨incomplete,rfl⟩ := expect_ok.mp checked
  obtain ⟨rfl,rfl⟩ := observing_pure.mp ran
  exact ⟨rfl,by simpa using incomplete,delta,content,deltaRead,contentRead,rfl⟩

theorem observeDone_ok {last : Bool} (ran : observeDone tally = (.ok last,after)) :
    last = true ∧ tally.normalCompletion = true ∧ tally.textDeltas ≠ 0 ∧
      (tally.kind = .thinking → tally.answerObserved = true) ∧ after.requestId = tally.requestId := by
  obtain ⟨_,_,marked,ran⟩ := observing_bind_ok.mp ran
  cases observing_modify.mp marked
  obtain ⟨_,_,read,ran⟩ := observing_bind_ok.mp ran
  obtain ⟨rfl,rfl⟩ := observing_get.mp read
  obtain ⟨_,_,checked,ran⟩ := observing_bind_ok.mp ran
  obtain ⟨complete,rfl⟩ := expect_ok.mp checked
  obtain ⟨_,_,checked,ran⟩ := observing_bind_ok.mp ran
  obtain ⟨answered,rfl⟩ := expect_ok.mp checked
  obtain ⟨rfl,rfl⟩ := observing_pure.mp ran
  have both := of_decide_eq_true complete
  exact ⟨rfl,both.1,both.2,of_decide_eq_true answered,rfl⟩

theorem admission_ok {loads : Bytes → Option Json} {data : Bytes} {verdict : Verdict}
    (ran : admission loads data tally = (.ok verdict,after)) :
    tally.events < maxStreamEvents ∧ Admission loads tally data after verdict := by
  obtain ⟨_,_,counted,ran⟩ := observing_bind_ok.mp ran
  cases observing_modify.mp counted
  obtain ⟨_,_,read,ran⟩ := observing_bind_ok.mp ran
  obtain ⟨rfl,rfl⟩ := observing_get.mp read
  obtain ⟨_,_,checked,ran⟩ := observing_bind_ok.mp ran
  obtain ⟨below,rfl⟩ := expect_ok.mp checked
  refine ⟨of_decide_eq_true below,?_⟩
  split at ran
  · rename_i marker
    obtain ⟨last,_,done,ran⟩ := observing_bind_ok.mp ran
    obtain ⟨rfl,rfl⟩ := observing_pure.mp ran
    obtain ⟨rfl,complete,spoken,answered,same⟩ := observeDone_ok done
    exact .done marker complete spoken answered same
  · rename_i other
    obtain ⟨value,_,read,ran⟩ := observing_bind_ok.mp ran
    obtain ⟨object,rfl⟩ := valid_ok.mp read
    obtain ⟨_,_,checked,ran⟩ := observing_bind_ok.mp ran
    obtain ⟨chunk,rfl⟩ := expect_ok.mp checked
    obtain ⟨_,identified,named,ran⟩ := observing_bind_ok.mp ran
    have kept : identified.normalCompletion = tally.normalCompletion := by
      have keeps : Keeps StreamTally.normalCompletion (identify value) := identify_keeps (fun _ _ _ => rfl) value
      have kept := keeps {tally with events := tally.events + 1}
      rwa [named] at kept
    obtain ⟨requestId,model,id,one,same⟩ := identify_ok named
    obtain ⟨_,reported,used,ran⟩ := observing_bind_ok.mp ran
    obtain ⟨sameId,sameStop⟩ := reportUsage_ok used
    obtain ⟨choices,_,read,ran⟩ := observing_bind_ok.mp ran
    obtain ⟨listed,rfl⟩ := valid_ok.mp read
    have head : Chunk loads tally.modelId requestId data value := ⟨object,chunk,model,id⟩
    unfold admitChoices at ran
    split at ran
    · obtain ⟨_,_,checked,ran⟩ := observing_bind_ok.mp ran
      obtain ⟨_,rfl⟩ := expect_ok.mp checked
      obtain ⟨rfl,rfl⟩ := observing_pure.mp ran
      exact .silent other head one (sameId.trans same) listed
    · obtain ⟨rfl,incomplete,delta,content,deltaRead,contentRead,rfl⟩ := admitChoice_ok ran
      refine .admitted other head one (sameId.trans same) ⟨listed,deltaRead,contentRead⟩ ?_
      rw [←kept,←sameStop]
      exact incomplete
    · exact absurd ran observing_throw

end EngineeringPlatform.ModelGateway
