import EngineeringPlatform.StreamWriting
namespace EngineeringPlatform.ModelGateway
open EventStream PythonText

-- What can be read off an event by itself.
def choicesOf (loads : Bytes → Option Json) (data : Bytes) : Option (List Json) := do
  let value ← (loads data).bind Json.asObject
  (Json.at value "choices").asList

def choiceOf (loads : Bytes → Option Json) (data : Bytes) : Option Fields :=
  match choicesOf loads data with
  | some [.object choice] => some choice
  | _ => none

def deltaOf (loads : Bytes → Option Json) (data : Bytes) : Option Fields := do
  let choice ← choiceOf loads data
  (Json.at choice "delta").asObject

def deltaText (loads : Bytes → Option Json) (key : String) (data : Bytes) : Text :=
  ((deltaOf loads data).bind fun delta => optionalText (Json.at delta key)).getD []

def stops (loads : Bytes → Option Json) (data : Bytes) : Bool :=
  (choiceOf loads data).any fun choice => (Json.at choice "finish_reason").is "stop"

def silent (loads : Bytes → Option Json) (data : Bytes) : Prop := choicesOf loads data = some []

-- `chunks` come from the model under one id.
def OneReply (loads : Bytes → Option Json) (modelId requestId : Text) (chunks : List Bytes) : Prop :=
  ∀ data ∈ chunks, ∃ value, Chunk loads modelId requestId data value

-- One of `chunks` stops the text, and those behind it have no choice.
def StopsOnce (loads : Bytes → Option Json) (chunks : List Bytes) : Prop :=
  ∃ early stop late, chunks = early ++ stop :: late ∧ stops loads stop = true ∧
    (∀ data ∈ early, stops loads data = false) ∧ ∀ data ∈ late, silent loads data

def Speaks (loads : Bytes → Option Json) (key : String) (chunks : List Bytes) : Prop :=
  ∃ data ∈ chunks, onlySpace (deltaText loads key data) = false

-- A reply that came to its marker.
structure Complete (loads : Bytes → Option Json) (kind : CheckKind) (modelId : Text) (observed : List Bytes) : Prop where
  reply : ∃ chunks marker requestId, observed = chunks ++ [marker] ∧ stripped marker = doneMarker ∧
    OneReply loads modelId requestId chunks ∧ StopsOnce loads chunks ∧
    (∃ data ∈ chunks, deltaText loads "content" data ≠ []) ∧
    (kind = .thinking → Speaks loads "content" chunks ∧ Speaks loads "reasoning_content" chunks)

-- A reply that was left at its first text.
structure Begun (loads : Bytes → Option Json) (modelId : Text) (observed : List Bytes) : Prop where
  reply : ∃ chunks last requestId, observed = chunks ++ [last] ∧ OneReply loads modelId requestId observed ∧
    deltaText loads "content" last ≠ [] ∧ ∀ data ∈ chunks, deltaText loads "content" data = []

variable {loads : Bytes → Option Json} {kind : CheckKind} {modelId requestId : Text} {tally after middle : StreamTally}
  {data : Bytes} {value choice delta : Fields} {content : Text} {last : Bool} {seen : List Bytes}

theorem Chunk.choices (chunk : Chunk loads modelId requestId data value) :
    choicesOf loads data = (Json.at value "choices").asList := by
  unfold choicesOf
  rw [chunk.read]
  rfl

theorem Choice.chosen (chunk : Chunk loads modelId requestId data value) (chosen : Choice value choice delta content) :
    choiceOf loads data = some choice ∧ deltaOf loads data = some delta ∧ deltaText loads "content" data = content := by
  have choice : choiceOf loads data = some choice := by
    unfold choiceOf
    rw [chunk.choices,chosen.single]
  have delta : deltaOf loads data = some delta := by
    unfold deltaOf
    rw [choice]
    exact chosen.spoken
  refine ⟨choice,delta,?_⟩
  unfold deltaText
  rw [delta,Option.bind_some,chosen.text]
  rfl

theorem silent_texts (nothing : silent loads data) (key : String) : deltaText loads key data = [] ∧ stops loads data = false := by
  have none : choiceOf loads data = none := by
    unfold choiceOf
    rw [show choicesOf loads data = some [] from nothing]
  unfold deltaText deltaOf stops
  rw [none]
  exact ⟨rfl,rfl⟩

-- What one event leads to when nothing is raised.
inductive Observed (loads : Bytes → Option Json) (data : Bytes) (tally after : StreamTally) : Bool → Prop
  | marker (marker : stripped data = doneMarker) (complete : tally.normalCompletion = true) (spoken : tally.textDeltas ≠ 0)
      (answered : tally.kind = .thinking → tally.answerObserved = true) (same : after.spoken = tally.spoken) :
      Observed loads data tally after true
  | silent {value : Fields} {requestId : Text} (chunk : Chunk loads tally.modelId requestId data value)
      (one : ∀ earlier, tally.requestId = some earlier → requestId = earlier) (identified : after.requestId = some requestId)
      (nothing : silent loads data) (same : after.spoken = tally.spoken) : Observed loads data tally after false
  | told {value : Fields} {requestId : Text} (chunk : Chunk loads tally.modelId requestId data value)
      (one : ∀ earlier, tally.requestId = some earlier → requestId = earlier) (identified : after.requestId = some requestId)
      (incomplete : tally.normalCompletion = false) (kind : after.kind = tally.kind) (model : after.modelId = tally.modelId)
      (stopped : after.normalCompletion = stops loads data)
      (deltas : after.textDeltas = tally.textDeltas + if deltaText loads "content" data = [] then 0 else 1)
      (answer : after.answerObserved = (tally.answerObserved || !onlySpace (deltaText loads "content" data)))
      (reasoning : after.reasoningObserved = true →
        tally.reasoningObserved = true ∨ onlySpace (deltaText loads "reasoning_content" data) = false) :
      Observed loads data tally after (after.kind = .streamStop ∧ 0 < after.textDeltas)

theorem reasoned_observed (middle : StreamTally) {reasoning : Text} {size : Nat}
    (found : reasoningOf kind delta = some (reasoning,size)) (seen : (middle.reasoned reasoning size).reasoningObserved = true) :
    middle.reasoningObserved = true ∨
      onlySpace ((optionalText (Json.at delta "reasoning_content")).getD []) = false := by
  unfold StreamTally.reasoned at seen
  split at seen
  · exact Or.inl seen
  · rename_i some
    obtain ⟨text,read,encoded⟩ := Option.bind_eq_some_iff.mp found
    obtain ⟨_,_,same⟩ := Option.map_eq_some_iff.mp encoded
    cases same
    split at read
    · rw [read]
      exact (Bool.or_eq_true _ _).mp seen |>.imp id (by simp)
    · cases read
      exact absurd rfl some

theorem answered_seen (tally : StreamTally) (content : Text) (size : Nat) :
    (tally.answered content size).textDeltas = tally.textDeltas + (if content = [] then 0 else 1) ∧
      (tally.answered content size).answerObserved = (tally.answerObserved || !onlySpace content) := by
  unfold StreamTally.answered
  split
  · rename_i empty
    cases empty
    exact ⟨rfl,by simp [onlySpace]⟩
  · exact ⟨rfl,by simp⟩

-- The texts leave what identifies the reply, and only a stop ends it.
theorem told_frame (middle : StreamTally) (reasoning content : Text) (size bytes : Nat) (stop : Bool) :
    let after := ((middle.reasoned reasoning size).answered content bytes).stopped stop
    after.modelId = middle.modelId ∧ after.requestId = middle.requestId ∧
      after.normalCompletion = (middle.normalCompletion || stop) ∧
      after.reasoningObserved = (middle.reasoned reasoning size).reasoningObserved ∧
      after.answerObserved = ((middle.reasoned reasoning size).answered content bytes).answerObserved ∧
      (middle.reasoned reasoning size).answerObserved = middle.answerObserved := by
  unfold StreamTally.stopped StreamTally.answered StreamTally.reasoned
  by_cases quiet : reasoning = [] <;> by_cases mute : content = [] <;> cases stop <;> simp [quiet,mute]

theorem event_observed (ran : event loads data tally = (.ok last,after)) : Observed loads data tally after last := by
  rw [event_eq] at ran
  rcases admitted : admission loads data tally with ⟨reason | verdict,middle⟩
  · rw [admitted] at ran
    cases ran
  · rw [admitted] at ran
    have same := admitted_spoken admitted
    have reads {γ : Type} (view : StreamTally → γ) : view middle.spoken = view tally.spoken := congrArg view same
    cases (admission_ok admitted).2 with
    | done marker complete spoken answered _ =>
      obtain ⟨rfl,rfl⟩ := observing_pure.mp ran
      exact .marker marker complete spoken answered same
    | silent other chunk one identified none =>
      obtain ⟨rfl,rfl⟩ := observing_pure.mp ran
      exact .silent chunk one identified (chunk.choices.trans none) same
    | @admitted _ choice delta _ content other chunk one identified chosen incomplete =>
      obtain ⟨chose,spoke,text⟩ := chosen.chosen chunk
      dsimp only at ran
      rw [tell_eq] at ran
      rcases found : reasoningOf middle.kind delta with _ | ⟨reasoning,size⟩
      · rw [found] at ran
        cases ran
      · rcases encoded : utf8Length content with _ | bytes
        · rw [found,encoded] at ran
          cases ran
        · rw [found,encoded] at ran
          obtain ⟨rfl,rfl⟩ := Prod.mk.inj ran |>.imp Except.ok.inj id
          obtain ⟨model,id,completion,reasoned,answer,before⟩ := told_frame middle reasoning content size bytes
            ((Json.at choice "finish_reason").is "stop")
          obtain ⟨deltas,answered⟩ := answered_seen (middle.reasoned reasoning size) content bytes
          have stop : stops loads data = (Json.at choice "finish_reason").is "stop" := by
            unfold stops
            rw [chose,Option.any_some]
          refine .told chunk one (id.trans identified) incomplete ?_ (model.trans (reads StreamTally.modelId)) ?_ ?_ ?_ ?_
          · simp only [stopped_kind,answered_kind,reasoned_kind]
            exact reads StreamTally.kind
          · have unstopped : middle.normalCompletion = false := (reads StreamTally.normalCompletion).trans incomplete
            rw [completion,unstopped,stop,Bool.false_or]
          · have deltasBefore : middle.textDeltas = tally.textDeltas := reads StreamTally.textDeltas
            rw [stopped_textDeltas,deltas,reasoned_textDeltas,text,deltasBefore]
          · have answerBefore : middle.answerObserved = tally.answerObserved := reads StreamTally.answerObserved
            rw [answer,answered,before,text,answerBefore]
          · intro seen
            have reasoningBefore : middle.reasoningObserved = tally.reasoningObserved := reads StreamTally.reasoningObserved
            rw [reasoned] at seen
            unfold deltaText
            rw [spoke,Option.bind_some,←reasoningBefore]
            exact reasoned_observed middle found seen

-- What the tally of a probe tells of the events it has observed.
structure Summary (loads : Bytes → Option Json) (kind : CheckKind) (modelId : Text) (seen : List Bytes) (tally : StreamTally) : Prop where
  asked : tally.kind = kind
  model : tally.modelId = modelId
  reply : ∀ data ∈ seen, ∃ requestId value, tally.requestId = some requestId ∧ Chunk loads modelId requestId data value
  running : tally.normalCompletion = false → ∀ data ∈ seen, stops loads data = false
  stopped : tally.normalCompletion = true → StopsOnce loads seen
  mute : tally.textDeltas = 0 → ∀ data ∈ seen, deltaText loads "content" data = []
  spoken : tally.textDeltas ≠ 0 → ∃ data ∈ seen, deltaText loads "content" data ≠ []
  answer : tally.answerObserved = true → Speaks loads "content" seen
  reasoning : tally.reasoningObserved = true → Speaks loads "reasoning_content" seen
  begun : kind = .streamStop → tally.textDeltas = 0

theorem Summary.start (kind : CheckKind) (modelId : Text) : Summary loads kind modelId [] (.start kind modelId) :=
  ⟨rfl,rfl,fun _ impossible => (by cases impossible),fun _ _ impossible => (by cases impossible),
    fun impossible => (by cases impossible),fun _ _ impossible => (by cases impossible),fun some => absurd rfl some,
    fun impossible => (by cases impossible),fun impossible => (by cases impossible),fun _ => rfl⟩

theorem Speaks.later {key : String} (speaks : Speaks loads key seen) (data : Bytes) : Speaks loads key (seen ++ [data]) := by
  obtain ⟨earlier,member,some⟩ := speaks
  exact ⟨earlier,List.mem_append_left _ member,some⟩

theorem forall_snoc {holds : Bytes → Prop} (before : ∀ earlier ∈ seen, holds earlier) (here : holds data) :
    ∀ earlier ∈ seen ++ [data], holds earlier := by
  intro earlier member
  rcases List.mem_append.mp member with member | member
  · exact before earlier member
  · rw [List.mem_singleton.mp member]
    exact here

theorem reply_snoc {before : Option Text} (reply : ∀ earlier ∈ seen, ∃ requestId value, before = some requestId ∧
      Chunk loads modelId requestId earlier value) (one : ∀ earlier, before = some earlier → requestId = earlier)
    (chunk : Chunk loads modelId requestId data value) (identified : after.requestId = some requestId) :
    ∀ earlier ∈ seen ++ [data], ∃ requestId value, after.requestId = some requestId ∧ Chunk loads modelId requestId earlier value := by
  refine forall_snoc (fun earlier member => ?_) ⟨requestId,value,identified,chunk⟩
  obtain ⟨found,value,named,chunk⟩ := reply earlier member
  rw [one found named] at identified
  exact ⟨found,value,identified,chunk⟩

theorem Summary.next (summary : Summary loads kind modelId seen tally) (observed : Observed loads data tally after false) :
    Summary loads kind modelId (seen ++ [data]) after := by
  generalize ended : false = result at observed
  cases observed with
  | marker => cases ended
  | silent chunk one identified nothing same =>
    have reads {γ : Type} (view : StreamTally → γ) : view after.spoken = view tally.spoken := congrArg view same
    have completion : after.normalCompletion = tally.normalCompletion := reads StreamTally.normalCompletion
    have deltas : after.textDeltas = tally.textDeltas := reads StreamTally.textDeltas
    rw [summary.model] at chunk
    obtain ⟨mute,unstopped⟩ := silent_texts nothing "content"
    refine ⟨(reads StreamTally.kind).trans summary.asked,(reads StreamTally.modelId).trans summary.model,
      reply_snoc summary.reply one chunk identified,fun running => ?_,fun stopped => ?_,fun none => ?_,fun some => ?_,
      fun answer => ?_,fun reasoning => ?_,fun begun => deltas.trans (summary.begun begun)⟩
    · exact forall_snoc (summary.running (completion.symm.trans running)) unstopped
    · obtain ⟨early,stop,late,rfl,here,before,behind⟩ := summary.stopped (completion.symm.trans stopped)
      exact ⟨early,stop,late ++ [data],by simp,here,before,forall_snoc behind nothing⟩
    · exact forall_snoc (summary.mute (deltas.symm.trans none)) mute
    · obtain ⟨earlier,member,text⟩ := summary.spoken (deltas ▸ some)
      exact ⟨earlier,List.mem_append_left _ member,text⟩
    · exact (summary.answer ((reads StreamTally.answerObserved).symm.trans answer)).later data
    · exact (summary.reasoning ((reads StreamTally.reasoningObserved).symm.trans reasoning)).later data
  | told chunk one identified incomplete sameKind model completion deltas answer reasoning =>
    rw [summary.model] at chunk
    refine ⟨sameKind.trans summary.asked,model.trans summary.model,reply_snoc summary.reply one chunk identified,
      fun running => ?_,fun stopped => ?_,fun none => ?_,fun some => ?_,fun answered => ?_,fun reasoned => ?_,fun begun => ?_⟩
    · exact forall_snoc (summary.running incomplete) (completion.symm.trans running)
    · exact ⟨seen,data,[],rfl,completion.symm.trans stopped,summary.running incomplete,fun _ impossible => (by cases impossible)⟩
    · rw [deltas] at none
      obtain ⟨before,here⟩ := Nat.add_eq_zero_iff.mp none
      exact forall_snoc (summary.mute before) (by by_contra text; rw [if_neg text] at here; cases here)
    · by_cases text : deltaText loads "content" data = []
      · rw [deltas,if_pos text] at some
        obtain ⟨earlier,member,text⟩ := summary.spoken some
        exact ⟨earlier,List.mem_append_left _ member,text⟩
      · exact ⟨data,List.mem_append_right _ (List.mem_singleton_self _),text⟩
    · rw [answer] at answered
      rcases (Bool.or_eq_true _ _).mp answered with before | here
      · exact (summary.answer before).later data
      · exact ⟨data,List.mem_append_right _ (List.mem_singleton_self _),by simpa using here⟩
    · rcases reasoning reasoned with before | here
      · exact (summary.reasoning before).later data
      · exact ⟨data,List.mem_append_right _ (List.mem_singleton_self _),here⟩
    · have running := of_decide_eq_false ended.symm
      by_contra some
      exact running ⟨sameKind.trans (summary.asked.trans begun),Nat.pos_of_ne_zero some⟩

-- How a reply reads that a probe of this kind takes for a success.
def Succeeds (loads : Bytes → Option Json) (kind : CheckKind) (modelId : Text) (observed : List Bytes) : Prop :=
  if kind = .streamStop then Begun loads modelId observed else Complete loads kind modelId observed

theorem Summary.succeeds (summary : Summary loads kind modelId seen tally) (observed : Observed loads data tally after true)
    (reasoned : kind = .thinking → after.reasoningObserved = true) : Succeeds loads kind modelId (seen ++ [data]) := by
  unfold Succeeds
  generalize ended : true = result at observed
  cases observed with
  | marker marker complete spoken answered same =>
    have reasoningSame : after.spoken.reasoningObserved = tally.spoken.reasoningObserved := congrArg StreamTally.reasoningObserved same
    have other : kind ≠ .streamStop := fun stop => spoken (summary.begun stop)
    rw [if_neg other]
    obtain ⟨first,member,text⟩ := summary.spoken spoken
    obtain ⟨requestId,value,named,_⟩ := summary.reply first member
    refine ⟨seen,data,requestId,rfl,marker,fun earlier member => ?_,summary.stopped complete,⟨first,member,text⟩,fun thinking => ?_⟩
    · obtain ⟨found,value,same,chunk⟩ := summary.reply earlier member
      rw [named] at same
      cases same
      exact ⟨value,chunk⟩
    · exact ⟨summary.answer (answered (summary.asked.trans thinking)),
        summary.reasoning (reasoningSame.symm.trans (reasoned thinking))⟩
  | silent => cases ended
  | @told value requestId chunk one identified incomplete sameKind model completion deltas answer reasoning =>
    obtain ⟨stop,some⟩ := of_decide_eq_true ended.symm
    have asked := sameKind.symm.trans stop |> summary.asked.symm.trans
    rw [if_pos asked]
    have mute := summary.begun asked
    rw [summary.model] at chunk
    refine ⟨seen,data,requestId,rfl,?_,fun none => ?_,summary.mute mute⟩
    · intro earlier member
      obtain ⟨found,value,same,chunk⟩ := reply_snoc summary.reply one chunk identified earlier member
      rw [identified] at same
      cases same
      exact ⟨value,chunk⟩
    · rw [deltas,mute,if_pos none] at some
      cases some

def StreamProbe.observed (loads : Bytes → Option Json) (probe : StreamProbe) (text : Bytes) : List Bytes :=
  (probe.steps loads text).map Prod.snd

-- Induction over the bytes: behind those that were seen come those still to be.
theorem StreamProbe.chunk_succeeds {probe ended : StreamProbe} {text : Bytes} (summary : Summary loads kind modelId seen probe.tally)
    (ran : probe.chunk loads text = (ended,some .succeeded))
    (reasoned : kind = .thinking → ended.tally.reasoningObserved = true) :
    Succeeds loads kind modelId (seen ++ probe.observed loads text) := by
  unfold observed
  induction text generalizing probe seen with
  | nil => cases ran
  | cons value rest ih =>
    rw [chunk_cons] at ran
    rw [steps_cons]
    rcases fed : probe.frames.next value with ⟨frames,quiet | data | reason⟩
    · rw [fed] at ran
      exact @ih _ {probe with frames} summary ran
    · rw [fed] at ran
      dsimp only at ran ⊢
      rcases ends : event loads data probe.tally with ⟨reason | _ | _,tally⟩
      · rw [ends] at ran
        cases ran
      · rw [ends] at ran
        dsimp only at ran ⊢
        have later := @ih (seen ++ [data]) {probe with frames, tally} (summary.next (event_observed ends)) ran
        rwa [List.append_assoc] at later
      · rw [ends] at ran
        cases ran
        exact summary.succeeds (event_observed ends) reasoned
    · rw [fed] at ran
      cases ran

-- Behind the body the response is closed. Where no outcome could be built, the
-- handler builds one of its own, with the same observation.
def cleanUp (closeFailed : Bool) (probe : StreamProbe) : Option StreamOutcome → Option StreamOutcome
  | none => probe.outcome .unknown (some (if closeFailed then .streamCloseFailed else .streamInterrupted))
  | some received =>
    if closeFailed then probe.outcome .unknown (some .streamCloseFailed)
    else probe.observation.map fun observation => {received with observation}

def checkSignal (outcome : StreamOutcome) : StreamOutcome :=
  if outcome.state = .succeeded ∧ outcome.observation.reasoning.any fun reasoning => ¬reasoning.observed then
    {outcome with state := .failed, reason := some .thinkingSignalMissing}
  else outcome

-- `send` raises where it has no value. An outcome that shows the secret is dropped.
def send (loads : Bytes → Option Json) (leaks : StreamOutcome → Bool) (closeFailed : Bool) (kind : CheckKind) (modelId : Text)
    (chunks : List Bytes) : Option (CheckState × Option CheckReason) :=
  let (probe,received) := StreamProbe.body loads kind modelId chunks
  (cleanUp closeFailed {probe with localClosed := ¬closeFailed} received).map fun outcome =>
    let outcome := checkSignal outcome
    if leaks outcome then (.failed,some .invalidResponse) else (outcome.state,outcome.reason)

theorem observation_reasoning {probe : StreamProbe} {observation : StreamObservation} (found : probe.observation = some observation) :
    observation.reasoning = if probe.tally.kind = .thinking then
      some ⟨probe.tally.reasoningObserved,probe.tally.reasoningDeltas,probe.tally.reasoningBytes⟩ else none := by
  obtain ⟨_,same⟩ := Option.ite_none_right_eq_some.mp found
  rw [←Option.some.inj same]

theorem outcome_state {probe : StreamProbe} {state : CheckState} {reason : Option CheckReason} {outcome : StreamOutcome}
    (built : probe.outcome state reason = some outcome) : outcome.state = state := by
  obtain ⟨observation,_,same⟩ := Option.bind_eq_some_iff.mp built
  rw [←Option.some.inj same]

theorem Ending.outcome_succeeded {probe : StreamProbe} {ending : Ending} {outcome : StreamOutcome}
    (built : ending.outcome probe = some outcome) (success : outcome.state = .succeeded) : ending = .succeeded := by
  cases ending with
  | succeeded => rfl
  | interrupted => rw [outcome_state built] at success; cases success
  | failed => rw [outcome_state built] at success; cases success

-- A success was one for the body, and of a thinking check the signal was seen.
theorem send_succeeded {leaks : StreamOutcome → Bool} {closeFailed : Bool} {chunks : List Bytes} {reason : Option CheckReason}
    (sent : send loads leaks closeFailed kind modelId chunks = some (.succeeded,reason)) :
    ∃ ended, (StreamProbe.start kind modelId).chunk loads chunks.flatten = (ended,some .succeeded) ∧
      (ended.tally.kind = .thinking → ended.tally.reasoningObserved = true) := by
  unfold send StreamProbe.body at sent
  rw [StreamProbe.receive_flatten] at sent
  generalize (StreamProbe.start kind modelId).chunk loads chunks.flatten = result at sent ⊢
  obtain ⟨ended,ending⟩ := result
  obtain ⟨outcome,built,sent⟩ := Option.map_eq_some_iff.mp sent
  dsimp only at sent
  split at sent
  · cases sent
  · have success := congrArg Prod.fst sent
    unfold checkSignal at success
    dsimp only at success
    split at success
    · cases success
    · rename_i signal
      unfold cleanUp at built
      split at built
      · rw [outcome_state built] at success
        cases success
      · rename_i received found
        split at built
        · rw [outcome_state built] at success
          cases success
        · obtain ⟨observation,observed,same⟩ := Option.map_eq_some_iff.mp built
          cases same
          have last := Ending.outcome_succeeded found success
          refine ⟨ended,?_,fun thinking => ?_⟩
          · cases ending with
            | none => cases last
            | some ending => rw [show ending = .succeeded from last]
          · have reasoning := observation_reasoning observed
            rw [if_pos thinking] at reasoning
            by_contra unseen
            refine signal ⟨success,?_⟩
            rw [reasoning]
            simpa using unseen

theorem stream_succeeded {leaks : StreamOutcome → Bool} {closeFailed : Bool} {chunks : List Bytes} {reason : Option CheckReason}
    (sent : send loads leaks closeFailed kind modelId chunks = some (.succeeded,reason)) :
    Succeeds loads kind modelId ((StreamProbe.start kind modelId).observed loads chunks.flatten) := by
  obtain ⟨ended,ran,reasoned⟩ := send_succeeded sent
  have silent := @StreamProbe.chunk_silent loads (StreamProbe.start kind modelId) chunks.flatten
  rw [ran] at silent
  exact StreamProbe.chunk_succeeds (Summary.start kind modelId) ran fun thinking => reasoned (silent.1.trans thinking)

theorem send_received {ended : StreamProbe} {chunks : List Bytes}
    (ran : (StreamProbe.start kind modelId).chunk loads chunks.flatten = (ended,some .succeeded))
    (text : ended.tally.textBytes ≤ maxTextBytes) (other : ended.tally.kind ≠ .thinking) :
    send loads (fun _ => false) false kind modelId chunks = some (.succeeded,none) := by
  have limited := @StreamProbe.chunk_limits loads _ (StreamProbe.start_running kind modelId) chunks.flatten
  rw [ran] at limited
  have shown := (StreamProbe.observation_some limited).mpr ⟨text,fun thinking => absurd thinking other⟩
  have shownClosed := (@StreamProbe.observation_some {ended with localClosed := true}
    ⟨limited.consumed,limited.events,limited.text,limited.reasoning⟩).mpr ⟨text,fun thinking => absurd thinking other⟩
  obtain ⟨observation,found⟩ := Option.isSome_iff_exists.mp shown
  obtain ⟨closed,foundClosed⟩ := Option.isSome_iff_exists.mp shownClosed
  have reasoning := observation_reasoning foundClosed
  rw [if_neg other] at reasoning
  unfold send StreamProbe.body
  rw [StreamProbe.receive_flatten,ran]
  change ((cleanUp false {ended with localClosed := true} (ended.outcome .succeeded none)).map _) = _
  unfold StreamProbe.outcome
  rw [found]
  change (((({ended with localClosed := true} : StreamProbe).observation.map _).map _)) = _
  rw [foundClosed]
  simp [checkSignal,reasoning]

theorem spoken_document : Document spokenLoads spokenData (text "a") 1 false :=
  ⟨samples_plain.1,samples_other.1,if_pos rfl,by decide,rfl⟩

theorem sample_documents : Document sampleLoads spokenData (text "a") 1 false ∧ Document sampleLoads stopData (text "b") 1 true := by
  have differs : spokenData ≠ stopData := by
    intro same
    have length := sample_lengths.2
    rw [←same,sample_lengths.1] at length
    cases length
  refine ⟨⟨samples_plain.1,samples_other.1,(if_neg differs).trans (if_pos rfl),by decide,rfl⟩,
    ⟨samples_plain.2,samples_other.2,if_pos rfl,by decide,rfl⟩⟩

theorem stop_sample (rest : Bytes) :
    send spokenLoads (fun _ => false) false .streamStop (text "m") [frame spokenData ++ rest] = some (.succeeded,none) := by
  obtain ⟨ended,told,ran⟩ := (StreamProbe.start_written .streamStop).leaves spoken_document (by decide)
    (by rw [sample_lengths.1]; decide) (by rw [sample_lengths.1]; decide) rest
  refine @send_received spokenLoads .streamStop (text "m") ended _ (by rwa [List.flatten_singleton]) ?_ ?_
  · rw [told.sized]
    decide
  · rw [told.asked]
    decide

theorem text_sample (rest : Bytes) : send sampleLoads (fun _ => false) false .streamText (text "m")
    [frame spokenData ++ (frame stopData ++ (frame doneMarker ++ rest))] = some (.succeeded,none) := by
  obtain ⟨first,written,oneRan⟩ := (StreamProbe.start_written .streamText).text sample_documents.1 (by decide)
    (by rw [sample_lengths.1]; decide) (by rw [sample_lengths.1]; decide) (frame stopData ++ (frame doneMarker ++ rest))
  obtain ⟨second,written,twoRan⟩ := written.text sample_documents.2 (by decide)
    (by rw [sample_lengths.1,sample_lengths.2]; decide) (by rw [sample_lengths.2]; decide) (frame doneMarker ++ rest)
  obtain ⟨ended,asked,sized,lastRan⟩ := written.done (by decide) (by decide)
    (by rw [sample_lengths.1,sample_lengths.2]; decide) rest
  refine @send_received sampleLoads .streamText (text "m") ended _ ?_ ?_ ?_
  · rw [List.flatten_singleton,oneRan,twoRan,lastRan]
  · rw [sized]
    decide
  · rw [asked]
    decide

theorem stream_succeeded_sample : Succeeds sampleLoads .streamText (text "m")
    ((StreamProbe.start .streamText (text "m")).observed sampleLoads
      [frame spokenData ++ (frame stopData ++ (frame doneMarker ++ []))].flatten) :=
  stream_succeeded (text_sample [])

theorem spoken_unstopped (data : Bytes) : stops spokenLoads data = false := by
  unfold stops choiceOf choicesOf spokenLoads
  by_cases same : data = spokenData
  · rw [if_pos same]
    rfl
  · rw [if_neg same]
    rfl

-- A stop check leaves a stream at its first text, with no stop in it, and no check
-- reads on behind the marker.
theorem stream_left_early :
    (∃ loads chunks, send loads (fun _ => false) false .streamStop (text "m") chunks = some (.succeeded,none) ∧
      ∀ data, stops loads data = false) ∧
      ∃ loads early late, late ≠ [] ∧
        send loads (fun _ => false) false .streamText (text "m") [early ++ (frame doneMarker ++ late)] = some (.succeeded,none) := by
  refine ⟨⟨spokenLoads,[frame spokenData ++ []],stop_sample [],spoken_unstopped⟩,
    ⟨sampleLoads,frame spokenData ++ frame stopData,frame spokenData,(fun empty => by cases empty),?_⟩⟩
  have sent := text_sample (frame spokenData)
  rwa [←List.append_assoc] at sent
end EngineeringPlatform.ModelGateway
