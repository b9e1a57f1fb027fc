import EngineeringPlatform.StreamProbes
namespace EngineeringPlatform.ModelGateway
open EventStream PythonText
variable {loads : Bytes → Option Json} {probe : StreamProbe} {tally : StreamTally}

-- Only `event` itself counts events.
theorem observeReasoning_keepsCount (delta : Fields) : Keeps StreamTally.events (observeReasoning delta) := by
  refine keeps_bind (keeps_valid _) fun reasoning => ?_
  split
  · exact keeps_pure ()
  · exact keeps_bind (keeps_valid _) fun _ => keeps_modify fun _ => rfl

theorem observeContent_keepsCount (content : Text) : Keeps StreamTally.events (observeContent content) := by
  unfold observeContent
  split
  · exact keeps_pure ()
  · exact keeps_bind (keeps_valid _) fun _ => keeps_modify fun _ => rfl

theorem observeChoice_keepsCount (choice : Fields) : Keeps StreamTally.events (observeChoice choice) := by
  unfold observeChoice
  refine keeps_bind (keeps_expect _ _) fun _ => keeps_bind (keeps_valid _) fun delta => ?_
  refine keeps_bind (keeps_expect _ _) fun _ => keeps_bind (keeps_expect _ _) fun _ => ?_
  refine keeps_bind (keeps_expect _ _) fun _ => keeps_bind (keeps_expect _ _) fun _ => ?_
  refine keeps_bind (keeps_expect _ _) fun _ => keeps_bind (keeps_valid _) fun content => ?_
  refine keeps_bind keeps_get fun tally => keeps_bind (keeps_expect _ _) fun _ => ?_
  refine keeps_bind (keeps_whenever _ (observeReasoning_keepsCount delta)) fun _ => ?_
  refine keeps_bind (observeContent_keepsCount content) fun _ => ?_
  exact keeps_bind (keeps_whenever _ (keeps_modify fun _ => rfl)) fun _ =>
    keeps_bind keeps_get fun _ => keeps_pure _

theorem observeChoices_keepsCount (value : Fields) (choices : List Json) : Keeps StreamTally.events (observeChoices value choices) := by
  unfold observeChoices
  split
  · exact keeps_bind (keeps_expect _ _) fun _ => keeps_pure false
  · exact observeChoice_keepsCount _
  · exact keeps_throw _

theorem payload_keepsCount (loads : Bytes → Option Json) (data : Bytes) : Keeps StreamTally.events (payload loads data) := by
  unfold payload
  split
  · exact observeDone_keeps fun _ => rfl
  · refine keeps_bind (keeps_valid _) fun value => keeps_bind (keeps_expect _ _) fun _ => ?_
    refine keeps_bind (identify_keeps (fun _ _ _ => rfl) value) fun _ => keeps_bind (reportUsage_keeps (fun _ _ => rfl) _) fun _ => ?_
    exact keeps_bind (keeps_valid _) fun choices => observeChoices_keepsCount value choices

-- The events of a decoding, observed one by one, when `allowance` of them are left.
def consume (loads : Bytes → Option Json) (decoding : Decoding) : Nat → StreamTally → List Event →
    StreamTally × Nat × Ending
  | _,tally,[] => (tally,decoding.consumed,((decoding.violation.map reasonOf).elim .interrupted .failed))
  | 0,tally,found :: _ => ({tally with events := tally.events + 1},found.ended,.failed .streamEventLimit)
  | allowance + 1,tally,found :: later =>
    match payload loads found.data {tally with events := tally.events + 1} with
    | (.error reason,tally) => (tally,found.ended,.failed reason)
    | (.ok true,tally) => (tally,found.ended,.succeeded)
    | (.ok false,tally) => consume loads decoding allowance tally later

theorem consume_behind (decoding : Decoding) (before found : List Event) :
    consume loads (decoding.behind before) allowance tally found = consume loads decoding allowance tally found := by
  induction found generalizing allowance tally with
  | nil => cases allowance <;> rfl
  | cons first later ih =>
    cases allowance with
    | zero => rfl
    | succ allowance =>
      unfold consume
      rcases payload loads first.data {tally with events := tally.events + 1} with ⟨reason | _ | _,tally⟩
      · rfl
      · exact ih
      · rfl

theorem event_limited (loads : Bytes → Option Json) (data : Bytes) (tally : StreamTally) :
    event loads data tally =
      if tally.events < maxStreamEvents then payload loads data {tally with events := tally.events + 1}
      else (.error .streamEventLimit,{tally with events := tally.events + 1}) := by
  by_cases below : tally.events < maxStreamEvents
  · rw [if_pos below]
    have holds : decide (tally.events + 1 ≤ maxStreamEvents) = true := decide_eq_true below
    change ((expect (decide (tally.events + 1 ≤ maxStreamEvents)) _ >>= fun _ => payload loads data) : Observing Bool)
      {tally with events := tally.events + 1} = _
    rw [holds]
    rfl
  · rw [if_neg below]
    have fails : decide (tally.events + 1 ≤ maxStreamEvents) = false := decide_eq_false below
    change ((expect (decide (tally.events + 1 ≤ maxStreamEvents)) _ >>= fun _ => payload loads data) : Observing Bool)
      {tally with events := tally.events + 1} = _
    rw [fails]
    rfl

theorem StreamProbe.chunk_cons (probe : StreamProbe) (value : UInt8) (rest : Bytes) :
    probe.chunk loads (value :: rest) =
      match probe.frames.next value with
      | (frames,.quiet) => StreamProbe.chunk loads {probe with frames} rest
      | (frames,.failed reason) => ({probe with frames},some (.failed reason))
      | (frames,.event data) =>
        match event loads data probe.tally with
        | (.error reason,tally) => ({probe with frames, tally},some (.failed reason))
        | (.ok true,tally) => ({probe with frames, tally},some .succeeded)
        | (.ok false,tally) => StreamProbe.chunk loads {probe with frames, tally} rest := rfl

theorem StreamProbe.chunk_append (probe : StreamProbe) (chunk rest : Bytes) :
    probe.chunk loads (chunk ++ rest) =
      match probe.chunk loads chunk with
      | (last,none) => last.chunk loads rest
      | (last,some ending) => (last,some ending) := by
  induction chunk generalizing probe with
  | nil => rfl
  | cons value chunk ih =>
    rw [List.cons_append,chunk_cons,chunk_cons]
    rcases probe.frames.next value with ⟨frames,quiet | data | reason⟩
    · exact ih _
    · dsimp only
      rcases event loads data probe.tally with ⟨reason | _ | _,tally⟩
      · rfl
      · exact ih _
      · rfl
    · rfl

theorem StreamProbe.receive_flatten (probe : StreamProbe) (chunks : List Bytes) :
    probe.receive loads chunks =
      ((probe.chunk loads chunks.flatten).1,(probe.chunk loads chunks.flatten).2.getD .interrupted) := by
  induction chunks generalizing probe with
  | nil => rfl
  | cons chunk chunks ih =>
    rw [List.flatten_cons,probe.chunk_append]
    unfold StreamProbe.receive
    rcases probe.chunk loads chunk with ⟨last,_ | ending⟩
    · exact ih last
    · rfl

-- Induction over the bytes: what is left of the reference after each of them is what
-- the probe has still to observe.
theorem StreamProbe.chunk_consumes (probe : StreamProbe) (ready : probe.frames.Ready) (text : Bytes)
    (allowed : probe.tally.events + allowance = maxStreamEvents) :
    consume loads (probe.frames.remaining text) allowance probe.tally (probe.frames.remaining text).events =
      ((probe.chunk loads text).1.tally,(probe.chunk loads text).1.frames.consumedBytes,
        (probe.chunk loads text).2.getD .interrupted) := by
  induction text generalizing probe allowance with
  | nil =>
    obtain ⟨events,failure,consumed,_⟩ := probe.frames.feed_agrees ready []
    rw [List.map_eq_nil_iff.mp events]
    cases allowance <;>
    · unfold consume
      rw [failure,consumed]
      rfl
  | cons value rest ih =>
    have reads := probe.frames.next_reads value rest ready
    rw [chunk_cons]
    rcases fed : probe.frames.next value with ⟨after,quiet | data | reason⟩
    · rw [fed] at reads
      obtain ⟨ready,_,same⟩ := reads
      rw [same]
      exact ih {probe with frames := after} ready allowed
    · rw [fed] at reads
      obtain ⟨ready,ended,same⟩ := reads
      rw [same,consume_behind]
      dsimp only
      rw [event_limited]
      cases allowance with
      | zero =>
        rw [if_neg (by omega)]
        change (_,_,_) = (_,_,_)
        rw [←ended]
        rfl
      | succ allowance =>
        rw [if_pos (by omega)]
        have counted := payload_keepsCount loads data {probe.tally with events := probe.tally.events + 1}
        change (match payload loads data {probe.tally with events := probe.tally.events + 1} with
          | (.error reason,tally) => (tally,probe.frames.consumedBytes + 1,Ending.failed reason)
          | (.ok true,tally) => (tally,probe.frames.consumedBytes + 1,.succeeded)
          | (.ok false,tally) => consume loads (after.remaining rest) allowance tally (after.remaining rest).events) = _
        rcases observed : payload loads data {probe.tally with events := probe.tally.events + 1} with ⟨reason | _ | _,tally⟩
        · rw [←ended]
          rfl
        · rw [observed] at counted
          refine ih {probe with frames := after, tally} ready ?_
          change tally.events + allowance = _
          rw [counted,←allowed]
          exact Nat.add_right_comm _ 1 allowance
        · rw [←ended]
          rfl
    · rw [fed] at reads
      obtain ⟨broken,rfl,same⟩ := reads
      rw [same]
      cases allowance <;> rfl

-- Decoding does not depend on the chunks: the frames see what the reference sees in
-- the whole text, and a probe observes its events one by one, 256 of them at most.
theorem stream_decoding (loads : Bytes → Option Json) :
    (∀ chunks, Agrees (decode decodesAsUtf8 streamLimits chunks.flatten) (SseFrames.start.feedAll chunks)) ∧
      (∀ kind modelId chunks, let reference := decode decodesAsUtf8 streamLimits chunks.flatten
        let (probe,ending) := (StreamProbe.start kind modelId).receive loads chunks
        consume loads reference maxStreamEvents (.start kind modelId) reference.events =
          (probe.tally,probe.frames.consumedBytes,ending)) ∧
      ∀ (one two : List Bytes), one.flatten = two.flatten →
        SseFrames.start.feedAll one = SseFrames.start.feedAll two ∧
          ∀ kind modelId, StreamProbe.body loads kind modelId one = StreamProbe.body loads kind modelId two := by
  refine ⟨frames_decode,fun kind modelId chunks => ?_,fun one two same => ⟨?_,fun kind modelId => ?_⟩⟩
  · have consumed := @StreamProbe.chunk_consumes loads _ (.start kind modelId) SseFrames.start_ready chunks.flatten (Nat.zero_add maxStreamEvents)
    have whole : SseFrames.start.remaining chunks.flatten = decode decodesAsUtf8 streamLimits chunks.flatten := by
      unfold SseFrames.remaining
      rw [show SseFrames.start.consumedBytes + chunks.flatten.length = chunks.flatten.length from Nat.zero_add _]
      rfl
    dsimp only
    rw [StreamProbe.receive_flatten,←whole]
    exact consumed
  · rw [SseFrames.feedAll_flatten,SseFrames.feedAll_flatten,same]
  · unfold StreamProbe.body
    rw [StreamProbe.receive_flatten,StreamProbe.receive_flatten,same]

-- A field split in its name, and a CRLF between its bytes.
theorem stream_decoding_split :
    SseFrames.start.feedAll [[100,97],[116,97,58,120,13],[10,13],[10]] =
        SseFrames.start.feedAll [[100,97,116,97,58,120,13,10,13,10]] ∧
      StreamProbe.body (fun _ => none) .thinking [113] [[100,97],[116,97,58,120,13],[10,13],[10]] =
        StreamProbe.body (fun _ => none) .thinking [113] [[100,97,116,97,58,120,13,10,13,10]] := by
  obtain ⟨frames,probe⟩ := (stream_decoding fun _ => none).2.2 [[100,97],[116,97,58,120,13],[10,13],[10]]
    [[100,97,116,97,58,120,13,10,13,10]] rfl
  exact ⟨frames,probe .thinking [113]⟩

end EngineeringPlatform.ModelGateway
