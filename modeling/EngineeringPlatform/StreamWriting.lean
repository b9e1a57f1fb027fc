import EngineeringPlatform.StreamBounds
-- Events as a provider writes them: a data line each, in ASCII, and an empty one.
namespace EngineeringPlatform.ModelGateway
open EventStream PythonText
variable {loads : Bytes → Option Json} {data : Bytes} {tally : StreamTally}

def plainByte (value : UInt8) : Bool := value < 128 ∧ value ≠ lf ∧ value ≠ cr

theorem ascii_encoding (value : UInt8) (ascii : value < 128) : String.utf8EncodeChar (Char.ofNat value.toNat) = [value] := by
  have small : value.toNat < 128 := ascii
  have valid : value.toNat.isValidChar := Or.inl (by omega)
  have point : (Char.ofNat value.toNat).val.toNat = value.toNat := by
    rw [Char.ofNat,dif_pos valid]
    rfl
  unfold String.utf8EncodeChar
  dsimp only
  rw [point,if_pos (by omega)]
  simp

theorem ascii_decodes (line : Bytes) (ascii : ∀ value ∈ line, value < 128) : decodesAsUtf8 line = true := by
  unfold decodesAsUtf8
  rw [ByteArray.validateUTF8_eq_true_iff]
  refine ⟨line.map fun value => Char.ofNat value.toNat,?_⟩
  have letters : (line.map fun value => Char.ofNat value.toNat).flatMap String.utf8EncodeChar = line := by
    induction line with
    | nil => rfl
    | cons value rest ih =>
      obtain ⟨here,later⟩ := List.forall_mem_cons.mp ascii
      rw [List.map_cons,List.flatMap_cons,ascii_encoding value here,ih later]
      rfl
  unfold List.utf8Encode
  rw [letters]
  exact ByteArray.ext List.data_toByteArray.symm

-- Bytes that end no line are held until one comes.
theorem StreamProbe.chunk_inside (probe : StreamProbe) (content rest : Bytes) (plain : ∀ value ∈ content, plainByte value = true)
    (whole : probe.frames.afterCr = false) (total : probe.frames.consumedBytes + content.length ≤ maxResponseBytes)
    (event : probe.frames.eventBytes + content.length ≤ maxStreamEventBytes) :
    probe.chunk loads (content ++ rest) = StreamProbe.chunk loads {probe with frames := {probe.frames with
      consumedBytes := probe.frames.consumedBytes + content.length
      eventBytes := probe.frames.eventBytes + content.length
      line := probe.frames.line ++ content}} rest := by
  induction content generalizing probe with
  | nil => simp
  | cons value content ih =>
    obtain ⟨here,later⟩ := List.forall_mem_cons.mp plain
    obtain ⟨_,notLf,notCr⟩ := of_decide_eq_true here
    rw [List.length_cons] at total event
    have quiet : probe.frames.next value = ({probe.frames with
        consumedBytes := probe.frames.consumedBytes + 1
        eventBytes := probe.frames.eventBytes + 1
        line := probe.frames.line ++ [value]},.quiet) := by
      unfold SseFrames.next
      dsimp only
      rw [if_neg (by omega),if_neg (by omega),if_neg (fun both => notLf both.1),if_pos ⟨notLf,notCr⟩,whole]
      simp [notCr]
    rw [List.cons_append,chunk_cons,quiet]
    refine (ih {probe with frames := {probe.frames with
      consumedBytes := probe.frames.consumedBytes + 1
      eventBytes := probe.frames.eventBytes + 1
      line := probe.frames.line ++ [value]}} later whole (by dsimp only; omega) (by dsimp only; omega)).trans ?_
    simp only [List.append_assoc,List.singleton_append,List.length_cons,Nat.add_assoc,Nat.add_comm 1]

def dataLine (data : Bytes) : Bytes := dataName ++ colon :: data

def frame (data : Bytes) : Bytes := dataLine data ++ [lf,lf]

-- Data that reads back as it was written.
structure Plain (data : Bytes) : Prop where
  bytes : ∀ value ∈ data, plainByte value = true
  unspaced : data.head? ≠ some space

theorem dataLine_plain (plain : Plain data) : (∀ value ∈ dataLine data, plainByte value = true) ∧
    (dataLine data).length = data.length + 5 := by
  unfold dataLine
  constructor
  · intro value member
    rcases List.mem_append.mp member with member | member
    · exact List.all_eq_true.mp (show dataName.all plainByte = true by decide) value member
    · rcases List.mem_cons.mp member with rfl | member
      · decide
      · exact plain.bytes value member
  · rw [List.length_append,List.length_cons]
    change 4 + _ = _
    omega

theorem dataLine_data (plain : Plain data) : dataOf (dataLine data) = some data := by
  have value : fieldValue (dataLine data) = data := by
    have unspaced := plain.unspaced
    cases data with
    | nil => rfl
    | cons first rest =>
      have other : first ≠ space := fun same => unspaced (congrArg some same)
      change (if first = space then rest else first :: rest) = _
      rw [if_neg other]
  unfold dataOf
  rw [value]
  rfl

theorem dataLine_unmarked (data : Bytes) (first : Bool) :
    (if first then removePrefix byteOrderMark (dataLine data) else dataLine data) = dataLine data := by
  have unmarked : removePrefix byteOrderMark (dataLine data) = dataLine data := rfl
  rw [unmarked,ite_self]

-- Between two events.
structure SseFrames.Idle (frames : SseFrames) : Prop where
  event : frames.eventBytes = 0
  line : frames.line = []
  data : frames.data = []
  whole : frames.afterCr = false

theorem SseFrames.next_line (frames : SseFrames) (plain : Plain data) (whole : frames.afterCr = false)
    (line : frames.line = dataLine data) (total : frames.consumedBytes < maxResponseBytes) (event : frames.eventBytes < maxStreamEventBytes) :
    frames.next lf = ({frames with
      consumedBytes := frames.consumedBytes + 1
      eventBytes := frames.eventBytes + 1
      line := []
      data := frames.data ++ [data]
      firstLine := false},.quiet) := by
  obtain ⟨bytes,_⟩ := dataLine_plain plain
  have ascii : decodesAsUtf8 (dataLine data) = true :=
    ascii_decodes _ fun value member => (of_decide_eq_true (bytes value member)).1
  have some : dataLine data ≠ [] := fun empty => by cases empty
  unfold SseFrames.next
  dsimp only
  rw [if_neg (by omega),if_neg (by omega),if_neg (by simp [whole]),if_neg (by simp)]
  unfold SseFrames.endLine SseFrames.complete
  dsimp only
  rw [line,dataLine_unmarked,if_neg (by simp [ascii]),if_neg some,field_data,dataLine_data plain,whole]
  rfl

theorem SseFrames.next_blank (frames : SseFrames) (whole : frames.afterCr = false) (fresh : frames.firstLine = false)
    (line : frames.line = []) (held : frames.data = [data]) (total : frames.consumedBytes < maxResponseBytes)
    (event : frames.eventBytes < maxStreamEventBytes) :
    frames.next lf = ({frames with consumedBytes := frames.consumedBytes + 1, eventBytes := 0, data := []},.event data) := by
  unfold SseFrames.next
  dsimp only
  rw [if_neg (by omega),if_neg (by omega),if_neg (by simp [whole]),if_neg (by simp)]
  unfold SseFrames.endLine SseFrames.complete
  dsimp only
  have single : joined [data] = data := by simp [joined]
  rw [line,fresh,if_neg Bool.false_ne_true,if_neg (by simp [empty_decodes]),if_pos rfl,held,if_neg (by simp),single,whole]
  rfl

theorem StreamProbe.chunk_frame (probe : StreamProbe) (idle : probe.frames.Idle) (plain : Plain data) (rest : Bytes)
    (total : probe.frames.consumedBytes + data.length + 7 ≤ maxResponseBytes) (short : data.length + 7 ≤ maxStreamEventBytes) :
    ∃ frames : SseFrames, frames.Idle ∧ frames.consumedBytes = probe.frames.consumedBytes + data.length + 7 ∧
      probe.chunk loads (frame data ++ rest) =
        match event loads data probe.tally with
        | (.error reason,tally) => ({probe with frames, tally},some (.failed reason))
        | (.ok true,tally) => ({probe with frames, tally},some .succeeded)
        | (.ok false,tally) => StreamProbe.chunk loads {probe with frames, tally} rest := by
  obtain ⟨bytes,length⟩ := dataLine_plain plain
  obtain ⟨event,line,held,whole⟩ := idle
  have first := SseFrames.next_line {probe.frames with
      consumedBytes := probe.frames.consumedBytes + (dataLine data).length
      eventBytes := probe.frames.eventBytes + (dataLine data).length
      line := probe.frames.line ++ dataLine data} plain whole (by dsimp only; rw [line]; rfl)
    (by dsimp only; omega) (by dsimp only; omega)
  have second := @SseFrames.next_blank data {probe.frames with
      consumedBytes := probe.frames.consumedBytes + (dataLine data).length + 1
      eventBytes := probe.frames.eventBytes + (dataLine data).length + 1
      line := []
      data := probe.frames.data ++ [data]
      firstLine := false} whole rfl rfl (by dsimp only; rw [held]; rfl) (by dsimp only; omega) (by dsimp only; omega)
  unfold frame
  rw [List.append_assoc,chunk_inside probe _ _ bytes whole (by omega) (by omega),List.cons_append,List.singleton_append,
    chunk_cons,first]
  dsimp only at second ⊢
  rw [chunk_cons,second]
  refine ⟨⟨probe.frames.consumedBytes + (dataLine data).length + 1 + 1,0,[],[],probe.frames.afterCr,false⟩,
    ⟨rfl,rfl,rfl,whole⟩,?_,rfl⟩
  dsimp only
  omega

-- A chunk as it is written of a text, which may stop there.
def textDelta (content : Text) : Fields := [(text "content",.text content)]

def textChoice (content : Text) (stop : Bool) : Fields :=
  [(text "index",.integer 0),(text "delta",.object (textDelta content))] ++
    if stop then [(text "finish_reason",.text (text "stop"))] else []

def textValue (content : Text) (stop : Bool) : Fields :=
  [(text "object",.text (text "chat.completion.chunk")),(text "model",.text (text "m")),(text "id",.text (text "i")),
    (text "choices",.list [.object (textChoice content stop)])]

-- A probe that has observed `events` such texts, of `bytes` bytes in all.
structure StreamTally.Told (tally : StreamTally) (kind : CheckKind) (events bytes : Nat) (stop : Bool) : Prop where
  asked : tally.kind = kind
  model : tally.modelId = text "m"
  one : ∀ earlier, tally.requestId = some earlier → text "i" = earlier
  counted : tally.events = events
  deltas : tally.textDeltas = events
  sized : tally.textBytes = bytes
  completion : tally.normalCompletion = stop

theorem StreamTally.start_told (kind : CheckKind) : (StreamTally.start kind (text "m")).Told kind 0 0 false :=
  ⟨rfl,rfl,fun _ impossible => (by cases impossible),rfl,rfl,rfl,rfl⟩

theorem textValue_identified (content : Text) (stop : Bool) (model : tally.modelId = text "m")
    (one : ∀ earlier, tally.requestId = some earlier → text "i" = earlier) :
    identify (textValue content stop) tally =
      (.ok (),{tally with requestId := some (text "i"), reportedModel := some (text "m")}) := by
  have same : (tally.requestId.all fun earlier => decide (text "i" = earlier)) = true := by
    cases named : tally.requestId with
    | none => rfl
    | some earlier => exact decide_eq_true (one earlier named)
  refine observing_bind_ok.mpr ⟨text "m",_,valid_ok.mpr ⟨rfl,rfl⟩,?_⟩
  refine observing_bind_ok.mpr ⟨text "i",_,valid_ok.mpr ⟨rfl,rfl⟩,?_⟩
  refine observing_bind_ok.mpr ⟨_,_,observing_get.mpr ⟨rfl,rfl⟩,?_⟩
  refine observing_bind_ok.mpr ⟨(),_,expect_ok.mpr ⟨decide_eq_true model.symm,rfl⟩,?_⟩
  exact observing_bind_ok.mpr ⟨(),_,expect_ok.mpr ⟨same,rfl⟩,observing_modify.mpr rfl⟩

theorem textChoice_admitted (content : Text) (stop : Bool) (incomplete : tally.normalCompletion = false) :
    admitChoice (textChoice content stop) tally =
      (.ok (.admitted (textChoice content stop) (textDelta content) content),tally) := by
  have unstopped : (decide ¬tally.normalCompletion = true) = true := by simp [incomplete]
  have reasons : (decide ¬((Json.at (textDelta content) "refusal").truthy = true ∨
      (Json.at (textChoice content stop) "finish_reason").is "content_filter" = true)) = true ∧
      (decide ¬(Json.at (textChoice content stop) "finish_reason").is "length" = true) = true ∧
      (decide ((Json.at (textChoice content stop) "finish_reason").isNull = true ∨
        (Json.at (textChoice content stop) "finish_reason").is "stop" = true)) = true := by
    cases stop <;> exact ⟨rfl,rfl,rfl⟩
  refine observing_bind_ok.mpr ⟨(),_,expect_ok.mpr ⟨rfl,rfl⟩,?_⟩
  refine observing_bind_ok.mpr ⟨textDelta content,_,valid_ok.mpr ⟨rfl,rfl⟩,?_⟩
  refine observing_bind_ok.mpr ⟨(),_,expect_ok.mpr ⟨rfl,rfl⟩,?_⟩
  refine observing_bind_ok.mpr ⟨(),_,expect_ok.mpr ⟨rfl,rfl⟩,?_⟩
  refine observing_bind_ok.mpr ⟨(),_,expect_ok.mpr ⟨reasons.1,rfl⟩,?_⟩
  refine observing_bind_ok.mpr ⟨(),_,expect_ok.mpr ⟨reasons.2.1,rfl⟩,?_⟩
  refine observing_bind_ok.mpr ⟨(),_,expect_ok.mpr ⟨reasons.2.2,rfl⟩,?_⟩
  refine observing_bind_ok.mpr ⟨content,_,valid_ok.mpr ⟨rfl,rfl⟩,?_⟩
  refine observing_bind_ok.mpr ⟨_,_,observing_get.mpr ⟨rfl,rfl⟩,?_⟩
  exact observing_bind_ok.mpr ⟨(),_,expect_ok.mpr ⟨unstopped,rfl⟩,observing_pure.mpr ⟨rfl,rfl⟩⟩

theorem textEvent_admitted {kind : CheckKind} {events bytes : Nat} {content : Text} {stop : Bool}
    (told : tally.Told kind events bytes false) (below : events < maxStreamEvents) (other : stripped data ≠ doneMarker)
    (known : loads data = some (.object (textValue content stop))) :
    admission loads data tally =
      (.ok (.admitted (textChoice content stop) (textDelta content) content),
        {tally with events := tally.events + 1, requestId := some (text "i"), reportedModel := some (text "m")}) := by
  have read : (loads data).bind Json.asObject = some (textValue content stop) := by
    rw [known]
    rfl
  refine observing_bind_ok.mpr ⟨(),_,observing_modify.mpr rfl,observing_bind_ok.mpr ⟨_,_,observing_get.mpr ⟨rfl,rfl⟩,?_⟩⟩
  refine observing_bind_ok.mpr ⟨(),_,expect_ok.mpr ⟨decide_eq_true (told.counted ▸ below),rfl⟩,?_⟩
  rw [if_neg other]
  refine observing_bind_ok.mpr ⟨_,_,valid_ok.mpr ⟨read,rfl⟩,?_⟩
  refine observing_bind_ok.mpr ⟨(),_,expect_ok.mpr ⟨rfl,rfl⟩,?_⟩
  refine observing_bind_ok.mpr ⟨(),_,textValue_identified content stop told.model told.one,?_⟩
  refine observing_bind_ok.mpr ⟨(),_,observing_pure.mpr ⟨rfl,rfl⟩,?_⟩
  exact observing_bind_ok.mpr ⟨[.object (textChoice content stop)],_,valid_ok.mpr ⟨rfl,rfl⟩,
    textChoice_admitted content stop told.completion⟩

-- A stop probe is done with the first of them.
theorem textEvent_told {kind : CheckKind} {events bytes size : Nat} {content : Text} {stop : Bool}
    (told : tally.Told kind events bytes false) (below : events < maxStreamEvents) (other : stripped data ≠ doneMarker)
    (known : loads data = some (.object (textValue content stop))) (silent : kind ≠ .thinking)
    (some : content ≠ []) (encoded : utf8Length content = Option.some size) :
    ∃ after, event loads data tally = (.ok (kind = .streamStop),after) ∧ after.Told kind (events + 1) (bytes + size) stop := by
  have none : reasoningOf tally.kind (textDelta content) = Option.some ([],0) := by
    unfold reasoningOf
    rw [told.asked,if_neg silent]
    rfl
  have stops : (Json.at (textChoice content stop) "finish_reason").is "stop" = stop := by cases stop <;> rfl
  have observed := event_eq loads data tally
  rw [textEvent_admitted told below other known] at observed
  dsimp only at observed
  rw [tell_eq] at observed
  dsimp only at observed
  rw [none,encoded,stops] at observed
  dsimp only at observed
  refine ⟨_,observed.trans (Prod.ext (congrArg Except.ok ?_) rfl),?_⟩
  · simp only [stopped_kind,answered_kind,reasoned_kind,stopped_textDeltas]
    refine decide_eq_decide.mpr ⟨fun both => told.asked.symm.trans both.1,fun stopping => ⟨told.asked.trans stopping,?_⟩⟩
    unfold StreamTally.answered
    rw [if_neg some]
    exact Nat.succ_pos _
  · unfold StreamTally.answered StreamTally.reasoned StreamTally.stopped
    rw [if_pos rfl,if_neg some]
    obtain ⟨asked,model,_,counted,deltas,sized,completion⟩ := told
    cases stop
    · exact ⟨asked,model,fun earlier named => Option.some.inj named,congrArg (· + 1) counted,congrArg (· + 1) deltas,
        congrArg (· + size) sized,completion⟩
    · exact ⟨asked,model,fun earlier named => Option.some.inj named,congrArg (· + 1) counted,congrArg (· + 1) deltas,
        congrArg (· + size) sized,rfl⟩

theorem doneMarker_observed {kind : CheckKind} {events bytes : Nat} (told : tally.Told kind events bytes true) (silent : kind ≠ .thinking)
    (some : events ≠ 0) (below : events < maxStreamEvents) :
    event loads doneMarker tally = (.ok true,{tally with events := tally.events + 1, done := true}) := by
  have complete : decide (tally.normalCompletion = true ∧ tally.textDeltas ≠ 0) = true :=
    decide_eq_true ⟨told.completion,told.deltas.trans_ne some⟩
  have answered : decide (tally.kind = .thinking → tally.answerObserved = true) = true :=
    decide_eq_true fun thinking => absurd (told.asked.symm.trans thinking) silent
  have admitted : admission loads doneMarker tally = (.ok (.settled true),{tally with events := tally.events + 1, done := true}) := by
    refine observing_bind_ok.mpr ⟨(),_,observing_modify.mpr rfl,observing_bind_ok.mpr ⟨_,_,observing_get.mpr ⟨rfl,rfl⟩,?_⟩⟩
    refine observing_bind_ok.mpr ⟨(),_,expect_ok.mpr ⟨decide_eq_true (told.counted ▸ below),rfl⟩,?_⟩
    rw [if_pos (by decide)]
    refine observing_bind_ok.mpr ⟨true,_,?_,observing_pure.mpr ⟨rfl,rfl⟩⟩
    refine observing_bind_ok.mpr ⟨(),_,observing_modify.mpr rfl,observing_bind_ok.mpr ⟨_,_,observing_get.mpr ⟨rfl,rfl⟩,?_⟩⟩
    refine observing_bind_ok.mpr ⟨(),_,expect_ok.mpr ⟨complete,rfl⟩,?_⟩
    exact observing_bind_ok.mpr ⟨(),_,expect_ok.mpr ⟨answered,rfl⟩,observing_pure.mpr ⟨rfl,rfl⟩⟩
  rw [event_eq,admitted]
  rfl

-- A probe between two events of such a stream.
structure StreamProbe.Written (probe : StreamProbe) (kind : CheckKind) (consumed events bytes : Nat) (stop : Bool) : Prop where
  idle : probe.frames.Idle
  read : probe.frames.consumedBytes = consumed
  told : probe.tally.Told kind events bytes stop

theorem StreamProbe.start_written (kind : CheckKind) : (StreamProbe.start kind (text "m")).Written kind 0 0 0 false :=
  ⟨⟨rfl,rfl,rfl,rfl⟩,rfl,StreamTally.start_told kind⟩

-- A document of one text and what is asked of it to be observed as such.
structure Document (loads : Bytes → Option Json) (data : Bytes) (content : Text) (size : Nat) (stop : Bool) : Prop where
  plain : Plain data
  other : stripped data ≠ doneMarker
  known : loads data = some (.object (textValue content stop))
  some : content ≠ []
  encoded : utf8Length content = Option.some size

section Written
variable {probe : StreamProbe} {kind : CheckKind} {consumed events bytes size : Nat} {content : Text} {stop : Bool}

theorem StreamProbe.Written.text (written : probe.Written .streamText consumed events bytes false)
    (document : Document loads data content size stop) (below : events < maxStreamEvents)
    (total : consumed + data.length + 7 ≤ maxResponseBytes) (short : data.length + 7 ≤ maxStreamEventBytes) (rest : Bytes) :
    ∃ later : StreamProbe, later.Written .streamText (consumed + data.length + 7) (events + 1) (bytes + size) stop ∧
      probe.chunk loads (frame data ++ rest) = later.chunk loads rest := by
  obtain ⟨idle,read,told⟩ := written
  obtain ⟨plain,other,known,some,encoded⟩ := document
  obtain ⟨after,observed,toldAfter⟩ := textEvent_told told below other known (by decide) some encoded
  obtain ⟨frames,settled,readAfter,ran⟩ := @chunk_frame loads _ probe idle plain rest (by omega) short
  rw [observed] at ran
  exact ⟨{probe with frames, tally := after},⟨settled,by rw [←read]; exact readAfter,toldAfter⟩,ran⟩

theorem StreamProbe.Written.leaves (written : probe.Written .streamStop consumed events bytes false)
    (document : Document loads data content size stop) (below : events < maxStreamEvents)
    (total : consumed + data.length + 7 ≤ maxResponseBytes) (short : data.length + 7 ≤ maxStreamEventBytes) (rest : Bytes) :
    ∃ ended : StreamProbe, ended.tally.Told .streamStop (events + 1) (bytes + size) stop ∧
      probe.chunk loads (frame data ++ rest) = (ended,some .succeeded) := by
  obtain ⟨idle,read,told⟩ := written
  obtain ⟨plain,other,known,some,encoded⟩ := document
  obtain ⟨after,observed,toldAfter⟩ := textEvent_told told below other known (by decide) some encoded
  obtain ⟨frames,_,_,ran⟩ := @chunk_frame loads _ probe idle plain rest (by omega) short
  rw [observed] at ran
  exact ⟨{probe with frames, tally := after},toldAfter,ran⟩

theorem StreamProbe.Written.done (written : probe.Written .streamText consumed events bytes true) (some : events ≠ 0)
    (below : events < maxStreamEvents) (total : consumed + 13 ≤ maxResponseBytes) (rest : Bytes) :
    ∃ ended : StreamProbe, ended.tally.kind = .streamText ∧ ended.tally.textBytes = bytes ∧
      probe.chunk loads (frame doneMarker ++ rest) = (ended,Option.some .succeeded) := by
  obtain ⟨idle,read,told⟩ := written
  have plain : Plain doneMarker := ⟨List.all_eq_true.mp (by decide),by decide⟩
  obtain ⟨frames,_,_,ran⟩ := @chunk_frame loads _ probe idle plain rest
    (by change _ + 6 + 7 ≤ _; omega) (by decide)
  rw [doneMarker_observed told (by decide) some below] at ran
  exact ⟨{probe with frames, tally := {probe.tally with events := probe.tally.events + 1, done := true}},told.asked,told.sized,ran⟩
end Written

-- A chunk with a text, and one with a text and the stop.
def spokenText : Text :=
  text "\x7b\"object\":\"chat.completion.chunk\",\"model\":\"m\",\"id\":\"i\",\"choices\":[\x7b\"index\":0,\"delta\":\x7b\"content\":\"a\"\x7d\x7d]\x7d"
def stopText : Text :=
  text "\x7b\"object\":\"chat.completion.chunk\",\"model\":\"m\",\"id\":\"i\",\"choices\":[\x7b\"index\":0,\"delta\":\x7b\"content\":\"b\"\x7d,\"finish_reason\":\"stop\"\x7d]\x7d"

def spokenData : Bytes := spokenText.map UInt8.ofNat
def stopData : Bytes := stopText.map UInt8.ofNat

def spokenLoads (data : Bytes) : Option Json :=
  if data = spokenData then some (.object (textValue (text "a") false)) else none

def sampleLoads (data : Bytes) : Option Json :=
  if data = stopData then some (.object (textValue (text "b") true)) else spokenLoads data

theorem sample_lengths : spokenData.length = 103 ∧ stopData.length = 126 := by decide +kernel

theorem samples_plain : Plain spokenData ∧ Plain stopData :=
  ⟨⟨List.all_eq_true.mp (by decide +kernel),by decide +kernel⟩,⟨List.all_eq_true.mp (by decide +kernel),by decide +kernel⟩⟩

theorem samples_other : stripped spokenData ≠ doneMarker ∧ stripped stopData ≠ doneMarker := by decide +kernel

end EngineeringPlatform.ModelGateway
