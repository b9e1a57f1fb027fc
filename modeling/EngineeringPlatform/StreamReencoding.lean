import EngineeringPlatform.StreamWriting
import EngineeringPlatform.JsonEncoding
namespace EngineeringPlatform.ModelGateway
open EventStream PythonText
variable {loads : Bytes → Option Json} {tally after middle : StreamTally} {data : Bytes} {choice delta : Fields} {content : Text}

theorem loads_weight (reads : ReadsJson loads) (narrow : (detectEncoding data).is16 = false) {value : Json}
    (found : loads data = some value) : value.weight ≤ data.length := by
  obtain ⟨mark,source,spelled,shorter⟩ := reads.spelled data value found
  calc value.weight ≤ textWeight source := shorter
    _ ≤ (source.flatMap (detectEncoding data).spelling).length := spelled_length narrow source
    _ ≤ data.length := by
      have count := congrArg List.length spelled
      rw [List.length_append] at count
      omega

theorem delta_weight (reads : ReadsJson loads) (narrow : (detectEncoding data).is16 = false) {value : Fields}
    {modelId requestId : Text} (chunk : Chunk loads modelId requestId data value) (chosen : Choice value choice delta content) :
    fieldsWeight delta ≤ data.length := by
  obtain ⟨document,found,object⟩ := Option.bind_eq_some_iff.mp chunk.read
  have whole := loads_weight reads narrow found
  have choices := at_weight value "choices"
  have deltas := at_weight choice "delta"
  have items := asList_weight chosen.single
  have fields := asObject_weight object
  have inner := asObject_weight chosen.spoken
  rw [itemsWeight,itemsWeight,Json.weight] at items
  omega

-- What an event adds was among its bytes.
theorem admitted_within (reads : ReadsJson loads) (narrow : (detectEncoding data).is16 = false)
    (admitted : admission loads data tally = (.ok (.admitted choice delta content),middle)) :
    textWeight content ≤ data.length ∧
      ∀ kind reasoning size, reasoningOf kind delta = some (reasoning,size) → size ≤ data.length := by
  cases (admission_ok admitted).2 with
  | admitted _ chunk _ _ chosen _ =>
    have within := delta_weight reads narrow chunk chosen
    have whole := at_weight delta "content"
    refine ⟨((optionalText_weight chosen.text).trans whole).trans within,fun kind reasoning size found => ?_⟩
    obtain ⟨text,read,encoded⟩ := Option.bind_eq_some_iff.mp found
    obtain ⟨bytes,encoded,same⟩ := Option.map_eq_some_iff.mp encoded
    cases same
    rw [utf8Length_weight encoded]
    split at read
    · exact ((optionalText_weight read).trans (at_weight delta "reasoning_content")).trans within
    · cases read
      exact Nat.zero_le _

theorem tells_within (reads : ReadsJson loads) (narrow : (detectEncoding data).is16 = false) (tells : Tells loads data tally after) :
    after.textBytes ≤ tally.textBytes + data.length ∧ after.reasoningBytes ≤ tally.reasoningBytes + data.length := by
  cases tells with
  | nothing same =>
    obtain ⟨text,reasoning,_⟩ := spoken_sizes same
    omega
  | reasoning admitted found _ told =>
    obtain ⟨text,reasoning,_⟩ := spoken_sizes (admitted_spoken admitted)
    have size := (admitted_within reads narrow admitted).2 _ _ _ found
    subst told
    rw [reasoned_size _ (reasoningOf_size found),reasoned_textBytes]
    omega
  | both admitted found encoded told =>
    obtain ⟨text,reasoning,_⟩ := spoken_sizes (admitted_spoken admitted)
    obtain ⟨answer,sizes⟩ := admitted_within reads narrow admitted
    have size := sizes _ _ _ found
    rw [←utf8Length_weight encoded] at answer
    subst told
    simp only [stopped_textBytes,stopped_reasoningBytes,answered_reasoningBytes]
    rw [answered_size _ encoded,reasoned_size _ (reasoningOf_size found),reasoned_textBytes]
    omega

theorem hasRoom_narrow (reads : ReadsJson loads) (narrow : (detectEncoding data).is16 = false)
    (text : tally.textBytes + data.length ≤ maxTextBytes) (reasoning : tally.reasoningBytes + data.length ≤ maxTextBytes) :
    hasRoom loads tally data = true := by
  have bounded : tally.Bounded := ⟨by omega,by omega⟩
  have tells := event_tells loads data tally
  obtain ⟨moreText,moreReasoning⟩ := tells_within reads narrow tells
  exact (tells_room tells bounded).mpr ⟨moreText.trans text,moreReasoning.trans reasoning⟩

-- The texts observed so far are among the bytes the frames have passed on.
structure StreamProbe.Passed (probe : StreamProbe) : Prop where
  text : probe.tally.textBytes + probe.frames.held ≤ probe.frames.consumedBytes
  reasoning : probe.tally.reasoningBytes + probe.frames.held ≤ probe.frames.consumedBytes

theorem StreamProbe.steps_room (reads : ReadsJson loads) (probe : StreamProbe) (passed : probe.Passed) (text : Bytes)
    (narrow : ∀ data ∈ (probe.frames.feed text).2.1, (detectEncoding data).is16 = false) :
    ∀ step ∈ probe.steps loads text, hasRoom loads step.1 step.2 = true := by
  induction text generalizing probe with
  | nil => exact fun _ impossible => by cases impossible
  | cons value rest ih =>
    have passes := probe.frames.next_passes value
    obtain ⟨textPassed,reasoningPassed⟩ := passed
    rw [steps_cons]
    rw [SseFrames.feed_cons] at narrow
    rcases fed : probe.frames.next value with ⟨frames,quiet | data | reason⟩
    · rw [fed] at passes narrow
      obtain ⟨consumed,_,held,_⟩ := passes
      have held := held rfl
      dsimp only at consumed held
      exact ih {probe with frames} ⟨by dsimp only; omega,by dsimp only; omega⟩ narrow
    · rw [fed] at passes narrow
      obtain ⟨consumed,within,_,held⟩ := passes
      have held := held data rfl
      have within := within (fun _ impossible => by cases impossible)
      obtain ⟨here,later⟩ := List.forall_mem_cons.mp narrow
      dsimp only at consumed held within
      change _ ≤ maxTextBytes at within
      refine List.forall_mem_cons.mpr ⟨hasRoom_narrow reads here (by dsimp only; omega) (by dsimp only; omega),?_⟩
      have added := tells_within reads here (event_tells loads data probe.tally)
      generalize event loads data probe.tally = observed at added ⊢
      rcases observed with ⟨reason | _ | _,tally⟩
      · exact fun _ impossible => by cases impossible
      · dsimp only at added
        exact ih {probe with frames, tally} ⟨by dsimp only; omega,by dsimp only; omega⟩ later
      · exact fun _ impossible => by cases impossible
    · exact fun _ impossible => by cases impossible

theorem observation_bounded (loads : Bytes → Option Json) (kind : CheckKind) (modelId : Text) (chunks : List Bytes) :
    (StreamProbe.body loads kind modelId chunks).1.Limited ∧
      ((StreamProbe.body loads kind modelId chunks).2.isSome ↔
        ∀ step ∈ (StreamProbe.start kind modelId).steps loads chunks.flatten, hasRoom loads step.1 step.2 = true) ∧
      (ReadsJson loads → (∀ data ∈ (SseFrames.start.feedAll chunks).2.1, (detectEncoding data).is16 = false) →
        (StreamProbe.body loads kind modelId chunks).2.isSome) := by
  obtain ⟨limited,room⟩ := body_room loads kind modelId chunks
  refine ⟨limited,room,fun reads narrow => room.mpr ?_⟩
  rw [SseFrames.feedAll_flatten] at narrow
  exact (StreamProbe.start kind modelId).steps_room reads ⟨Nat.zero_le _,Nat.zero_le _⟩ chunks.flatten narrow

-- A stream of UTF-16 events whose answers are all U+4141: of each character the two
-- bytes are letters, so the lines are UTF-8 too, where it would take three.
def wideOpening : Text :=
  text "\x7b\"object\":\"chat.completion.chunk\",\"model\":\"m\",\"id\":\"i\",\"choices\":[\x7b\"index\":0,\"delta\":\x7b\"content\":\""
def wideClosing : Text := text "\"\x7d\x7d]\x7d"
def wideText (count : Nat) : Text := wideOpening ++ List.replicate count 0x4141 ++ wideClosing
def wideEvent (count : Nat) : Bytes := (wideText count).flatMap JsonEncoding.utf16le.spelling
def wideLoads (count : Nat) (data : Bytes) : Option Json :=
  if data = wideEvent count then some (.object (textValue (List.replicate count 0x4141) false)) else none

def openingBytes : Bytes := wideOpening.flatMap JsonEncoding.utf16le.spelling
def closingBytes : Bytes := wideClosing.flatMap JsonEncoding.utf16le.spelling

theorem wideEvent_eq (count : Nat) : wideEvent count = openingBytes ++ List.replicate (2 * count) 65 ++ closingBytes := by
  have letters : (List.replicate count 0x4141).flatMap JsonEncoding.utf16le.spelling = List.replicate (2 * count) 65 := by
    induction count with
    | zero => rfl
    | succ count ih =>
      rw [List.replicate_succ,List.flatMap_cons,ih,show 2 * (count + 1) = 2 * count + 1 + 1 by omega,
        List.replicate_succ,List.replicate_succ]
      rfl
  unfold wideEvent wideText
  rw [List.flatMap_append,List.flatMap_append,letters]
  rfl

theorem opening_plain : openingBytes.all plainByte = true ∧ openingBytes.length = 194 := by decide +kernel
theorem closing_plain : closingBytes.all plainByte = true ∧ closingBytes.length = 10 := by decide +kernel

theorem wideEvent_plain (count : Nat) : (∀ value ∈ wideEvent count, plainByte value = true) ∧
    (wideEvent count).length = 204 + 2 * count := by
  rw [wideEvent_eq]
  refine ⟨fun value member => ?_,?_⟩
  · rcases List.mem_append.mp member with member | member
    · rcases List.mem_append.mp member with member | member
      · exact List.all_eq_true.mp opening_plain.1 value member
      · rw [(List.mem_replicate.mp member).2]
        decide
    · exact List.all_eq_true.mp closing_plain.1 value member
  · rw [List.length_append,List.length_append,List.length_replicate,opening_plain.2,closing_plain.2]
    omega

theorem wideEvent_ends (count : Nat) : ∃ middle, wideEvent count = 123 :: 0 :: 34 :: 0 :: middle ++ [0] := by
  rw [wideEvent_eq]
  obtain ⟨middle,opening⟩ : ∃ middle, openingBytes = 123 :: 0 :: 34 :: 0 :: middle := ⟨_,rfl⟩
  refine ⟨middle ++ List.replicate (2 * count) 65 ++ [34,0,125,0,125,0,93,0,125],?_⟩
  rw [opening,show closingBytes = [34,0,125,0,125,0,93,0,125] ++ [0] from rfl]
  simp only [List.cons_append,List.append_assoc]

theorem wideEvent_encoding (count : Nat) : detectEncoding (wideEvent count) = .utf16le := by
  obtain ⟨middle,same⟩ := wideEvent_ends count
  rw [same]
  rfl

theorem wideEvent_other (count : Nat) : stripped (wideEvent count) ≠ doneMarker := by
  obtain ⟨middle,same⟩ := wideEvent_ends count
  have kept : stripped (wideEvent count) = wideEvent count := by
    rw [same]
    unfold stripped
    rw [List.cons_append,List.dropWhile_cons_of_neg (by decide),←List.cons_append,List.reverse_append,List.reverse_singleton,
      List.singleton_append,List.dropWhile_cons_of_neg (by decide),List.reverse_cons,List.reverse_reverse]
  have long := (wideEvent_plain count).2
  intro marker
  rw [kept] at marker
  rw [marker] at long
  change 6 = _ at long
  omega

theorem wide_weight (count : Nat) : (Json.object (textValue (List.replicate count 0x4141) false)).weight = 60 + textWeight (List.replicate count 0x4141) := by
  have keys : textWeight (text "object") = 6 ∧ textWeight (text "model") = 5 ∧ textWeight (text "id") = 2 ∧
      textWeight (text "choices") = 7 ∧ textWeight (text "index") = 5 ∧ textWeight (text "delta") = 5 ∧
      textWeight (text "content") = 7 ∧ textWeight (text "chat.completion.chunk") = 21 ∧ textWeight (text "m") = 1 ∧
      textWeight (text "i") = 1 := by decide +kernel
  change _ + _ = _
  simp only [textChoice,textDelta,Json.weight,fieldsWeight,fieldWeight,itemsWeight,Bool.false_eq_true,if_false,
    List.append_nil]
  omega

theorem wide_reads (count : Nat) : ReadsJson (wideLoads count) := by
  refine ⟨fun data value found => ?_⟩
  unfold wideLoads at found
  split at found
  · rename_i same
    cases Option.some.inj found
    subst same
    refine ⟨[],wideText count,?_,?_⟩
    · rw [wideEvent_encoding]
      rfl
    · have weight := wide_weight count
      have opening : textWeight wideOpening = 97 := by rfl
      have closing : textWeight wideClosing = 5 := by rfl
      have document : textWeight (wideText count) = 97 + textWeight (List.replicate count 0x4141) + 5 := by
        rw [←opening,←closing]
        unfold wideText textWeight
        rw [List.map_append,List.map_append,List.sum_append,List.sum_append]
      omega
  · cases found

theorem wideEvent_reads (count : Nat) : Plain (wideEvent count) := by
  obtain ⟨middle,same⟩ := wideEvent_ends count
  refine ⟨(wideEvent_plain count).1,?_⟩
  rw [same]
  exact fun spaced => by cases spaced

theorem wide_encoded (count : Nat) : utf8Length (List.replicate count 0x4141) = some (3 * count) := by
  have weight : textWeight (List.replicate count 0x4141) = 3 * count := by
    unfold textWeight
    induction count with
    | zero => rfl
    | succ count ih =>
      rw [List.replicate_succ,List.map_cons,List.sum_cons,ih,show encodedLength 0x4141 = 3 from rfl]
      omega
  unfold utf8Length
  rw [if_neg]
  · exact congrArg some weight
  · intro some
    obtain ⟨point,member,found⟩ := List.any_eq_true.mp some
    rw [(List.mem_replicate.mp member).2] at found
    cases found

theorem wide_document {count : Nat} (positive : 0 < count) :
    Document (wideLoads count) (wideEvent count) (List.replicate count 0x4141) (3 * count) false :=
  ⟨wideEvent_reads count,wideEvent_other count,if_pos rfl,fun empty => positive.ne' ((List.replicate_eq_nil_iff _).mp empty),wide_encoded count⟩

def wideStream (count : Nat) : Bytes :=
  frame (wideEvent count) ++ (frame (wideEvent count) ++ (frame (wideEvent count) ++ []))

-- Neither the two texts in UTF-8 nor three short ones in UTF-16 reach a bound.
theorem sample_reads : ReadsJson sampleLoads := by
  refine ⟨fun data value found => ?_⟩
  unfold sampleLoads spokenLoads at found
  split at found
  · rename_i same
    cases Option.some.inj found
    exact ⟨[],stopText,by rw [same]; decide +kernel,by decide +kernel⟩
  · split at found
    · rename_i same
      cases Option.some.inj found
      exact ⟨[],spokenText,by rw [same]; decide +kernel,by decide +kernel⟩
    · cases found

theorem observation_bounded_sample :
    (StreamProbe.body sampleLoads .streamText (text "m") [frame spokenData,frame stopData]).2.isSome = true ∧
      (StreamProbe.body (wideLoads 1) .streamText (text "m") [wideStream 1]).2.isSome = true :=
  ⟨(observation_bounded _ _ _ _).2.2 sample_reads (by decide +kernel),
    (observation_bounded _ _ _ _).2.1.mpr (by decide +kernel)⟩

theorem wide_unbounded (count : Nat) (short : 211 + 2 * count ≤ maxStreamEventBytes) (long : maxTextBytes < 9 * count) :
    (StreamProbe.body (wideLoads count) .streamText (text "m") [wideStream count]).2 = none := by
  have length := (wideEvent_plain count).2
  have document := @wide_document count (by omega)
  change _ ≤ 16384 at short
  change 65536 < _ at long
  have limit : maxResponseBytes = 65536 := rfl
  have eventLimit : maxStreamEventBytes = 16384 := rfl
  obtain ⟨one,written,oneRan⟩ := (StreamProbe.start_written .streamText).text document (by decide) (by omega) (by omega)
    (frame (wideEvent count) ++ (frame (wideEvent count) ++ []))
  obtain ⟨two,written,twoRan⟩ := written.text document (by decide) (by omega) (by omega) (frame (wideEvent count) ++ [])
  obtain ⟨three,written,threeRan⟩ := written.text document (by decide) (by omega) (by omega) []
  have ran : (StreamProbe.start .streamText (text "m")).chunk (wideLoads count) (wideStream count) = (three,none) :=
    (oneRan.trans twoRan).trans threeRan
  have limited := @StreamProbe.chunk_limits (wideLoads count) _ (StreamProbe.start_running .streamText (text "m")) (wideStream count)
  rw [ran] at limited
  unfold StreamProbe.body
  rw [StreamProbe.receive_flatten,List.flatten_singleton,ran]
  have bytes := written.told.sized
  refine Option.not_isSome_iff_eq_none.mp fun some => ?_
  rw [Ending.outcome_some] at some
  have within : three.tally.textBytes ≤ 65536 := ((StreamProbe.observation_some limited).mp some).1
  omega

theorem observation_unbounded : ∃ (loads : Bytes → Option Json) (kind : CheckKind) (modelId : Text) (chunks : List Bytes),
    ReadsJson loads ∧ (StreamProbe.body loads kind modelId chunks).2 = none :=
  ⟨wideLoads 8000,.streamText,text "m",[wideStream 8000],wide_reads 8000,wide_unbounded 8000 (by decide) (by decide)⟩

end EngineeringPlatform.ModelGateway
