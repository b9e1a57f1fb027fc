import EngineeringPlatform.StreamEvents
import EngineeringPlatform.StreamDecoding
import Mathlib.Algebra.BigOperators.Group.List.Basic
namespace EngineeringPlatform.ModelGateway
open EventStream PythonText

def maxTextBytes : Nat := 65536

-- The texts an admitted event adds to those before it.
def hasRoom (loads : Bytes → Option Json) (tally : StreamTally) (data : Bytes) : Bool :=
  match (admission loads data tally).1 with
  | .ok (.admitted _ delta content) =>
    match reasoningOf tally.kind delta with
    | none => true
    | some (_,size) => tally.reasoningBytes + size ≤ maxTextBytes ∧
      (utf8Length content).all fun bytes => tally.textBytes + bytes ≤ maxTextBytes
  | _ => true

-- The events a probe observes of a chunk, each with the tally before it.
def StreamProbe.steps (loads : Bytes → Option Json) (probe : StreamProbe) : Bytes → List (StreamTally × Bytes)
  | [] => []
  | value :: rest =>
    match probe.frames.next value with
    | (frames,.quiet) => {probe with frames}.steps loads rest
    | (_,.failed _) => []
    | (frames,.event data) =>
      (probe.tally,data) ::
        match event loads data probe.tally with
        | (.ok false,tally) => {probe with frames, tally}.steps loads rest
        | _ => []

def StreamTally.Bounded (tally : StreamTally) : Prop := tally.textBytes ≤ maxTextBytes ∧ tally.reasoningBytes ≤ maxTextBytes

variable {loads : Bytes → Option Json} {tally after middle : StreamTally}

theorem reasoned_size (tally : StreamTally) {reasoning : Text} {size : Nat} (encoded : utf8Length reasoning = some size) :
    (tally.reasoned reasoning size).reasoningBytes = tally.reasoningBytes + size := by
  unfold StreamTally.reasoned
  split
  · rename_i empty
    cases empty
    cases Option.some.inj encoded
    rfl
  · rfl

theorem answered_size (tally : StreamTally) {content : Text} {size : Nat} (encoded : utf8Length content = some size) :
    (tally.answered content size).textBytes = tally.textBytes + size := by
  unfold StreamTally.answered
  split
  · rename_i empty
    cases empty
    cases Option.some.inj encoded
    rfl
  · rfl

-- The two texts never touch each other's counters.
@[simp] theorem reasoned_textBytes : (tally.reasoned reasoning size).textBytes = tally.textBytes := by
  unfold StreamTally.reasoned; split <;> rfl
@[simp] theorem reasoned_textDeltas : (tally.reasoned reasoning size).textDeltas = tally.textDeltas := by
  unfold StreamTally.reasoned; split <;> rfl
@[simp] theorem answered_reasoningBytes : (tally.answered content size).reasoningBytes = tally.reasoningBytes := by
  unfold StreamTally.answered; split <;> rfl
@[simp] theorem answered_reasoningDeltas : (tally.answered content size).reasoningDeltas = tally.reasoningDeltas := by
  unfold StreamTally.answered; split <;> rfl
@[simp] theorem stopped_textBytes : (tally.stopped stops).textBytes = tally.textBytes := by
  unfold StreamTally.stopped; split <;> rfl
@[simp] theorem stopped_textDeltas : (tally.stopped stops).textDeltas = tally.textDeltas := by
  unfold StreamTally.stopped; split <;> rfl
@[simp] theorem stopped_reasoningBytes : (tally.stopped stops).reasoningBytes = tally.reasoningBytes := by
  unfold StreamTally.stopped; split <;> rfl
@[simp] theorem stopped_reasoningDeltas : (tally.stopped stops).reasoningDeltas = tally.reasoningDeltas := by
  unfold StreamTally.stopped; split <;> rfl

theorem reasoned_deltas (tally : StreamTally) (reasoning : Text) (size : Nat) :
    (tally.reasoned reasoning size).reasoningDeltas ≤ tally.reasoningDeltas + 1 := by
  unfold StreamTally.reasoned
  split
  · exact Nat.le_succ _
  · exact Nat.le_refl _

theorem answered_deltas (tally : StreamTally) (content : Text) (size : Nat) :
    (tally.answered content size).textDeltas ≤ tally.textDeltas + 1 := by
  unfold StreamTally.answered
  split
  · exact Nat.le_succ _
  · exact Nat.le_refl _

theorem reasoningOf_size {kind : CheckKind} {delta : Fields} {reasoning : Text} {size : Nat}
    (found : reasoningOf kind delta = some (reasoning,size)) : utf8Length reasoning = some size := by
  obtain ⟨text,_,encoded⟩ := Option.bind_eq_some_iff.mp found
  obtain ⟨bytes,encoded,same⟩ := Option.map_eq_some_iff.mp encoded
  cases same
  exact encoded

theorem event_eq (loads : Bytes → Option Json) (data : Bytes) (tally : StreamTally) :
    event loads data tally =
      match admission loads data tally with
      | (.ok verdict,middle) => verdict.tell middle
      | (.error reason,middle) => (.error reason,middle) := by
  rw [event_admits,observing_bind]
  rcases admission loads data tally with ⟨reason | verdict,middle⟩ <;> rfl

-- What one event adds: nothing, or the texts of the choice that was admitted.
inductive Tells (loads : Bytes → Option Json) (data : Bytes) (tally after : StreamTally) : Prop
  | nothing (same : after.spoken = tally.spoken) (room : hasRoom loads tally data = true)
  | reasoning {choice delta : Fields} {content reasoning : Text} {size : Nat} {middle : StreamTally}
      (admitted : admission loads data tally = (.ok (.admitted choice delta content),middle))
      (found : reasoningOf tally.kind delta = some (reasoning,size)) (unencodable : utf8Length content = none)
      (told : after = middle.reasoned reasoning size)
  | both {choice delta : Fields} {content reasoning : Text} {size bytes : Nat} {middle : StreamTally}
      (admitted : admission loads data tally = (.ok (.admitted choice delta content),middle))
      (found : reasoningOf tally.kind delta = some (reasoning,size)) (encoded : utf8Length content = some bytes)
      (told : after = ((middle.reasoned reasoning size).answered content bytes).stopped
        ((Json.at choice "finish_reason").is "stop"))

theorem event_tells (loads : Bytes → Option Json) (data : Bytes) (tally : StreamTally) :
    Tells loads data tally (event loads data tally).2 := by
  have kept := admission_keeps loads data tally
  rw [event_eq]
  rcases ran : admission loads data tally with ⟨reason | verdict,middle⟩
  · rw [ran] at kept
    exact .nothing kept (by simp [hasRoom,ran])
  · rw [ran] at kept
    cases verdict with
    | settled last => exact .nothing kept (by simp [hasRoom,ran])
    | admitted choice delta content =>
      have kind : middle.spoken.kind = tally.spoken.kind := congrArg StreamTally.kind kept
      change middle.kind = tally.kind at kind
      dsimp only
      rw [tell_eq,kind]
      rcases found : reasoningOf tally.kind delta with _ | ⟨reasoning,size⟩
      · exact .nothing kept (by simp [hasRoom,ran,found])
      · dsimp only
        rcases encoded : utf8Length content with _ | bytes
        · exact .reasoning ran found encoded rfl
        · exact .both ran found encoded rfl

theorem admitted_spoken (admitted : admission loads data tally = (result,middle)) : middle.spoken = tally.spoken := by
  have kept := admission_keeps loads data tally
  rwa [admitted] at kept

theorem spoken_sizes (same : after.spoken = tally.spoken) : after.textBytes = tally.textBytes ∧
    after.reasoningBytes = tally.reasoningBytes ∧ after.textDeltas = tally.textDeltas ∧
    after.reasoningDeltas = tally.reasoningDeltas := by
  have reads (view : StreamTally → Nat) : view after.spoken = view tally.spoken := congrArg view same
  exact ⟨reads StreamTally.textBytes,reads StreamTally.reasoningBytes,reads StreamTally.textDeltas,
    reads StreamTally.reasoningDeltas⟩

theorem tells_grows (tells : Tells loads data tally after) :
    tally.textBytes ≤ after.textBytes ∧ tally.reasoningBytes ≤ after.reasoningBytes := by
  cases tells with
  | nothing same =>
    obtain ⟨text,reasoning,_⟩ := spoken_sizes same
    omega
  | reasoning admitted found _ told =>
    obtain ⟨text,reasoning,_⟩ := spoken_sizes (admitted_spoken admitted)
    subst told
    rw [reasoned_size _ (reasoningOf_size found),reasoned_textBytes]
    omega
  | both admitted found encoded told =>
    obtain ⟨text,reasoning,_⟩ := spoken_sizes (admitted_spoken admitted)
    subst told
    simp only [stopped_textBytes,stopped_reasoningBytes,answered_reasoningBytes]
    rw [answered_size _ encoded,reasoned_size _ (reasoningOf_size found),reasoned_textBytes]
    omega

theorem tells_room (tells : Tells loads data tally after) (bounded : tally.Bounded) :
    hasRoom loads tally data = true ↔ after.Bounded := by
  cases tells with
  | nothing same room =>
    obtain ⟨text,reasoning,_⟩ := spoken_sizes same
    unfold StreamTally.Bounded
    rw [text,reasoning]
    exact ⟨fun _ => bounded,fun _ => room⟩
  | reasoning admitted found unencodable told =>
    obtain ⟨text,reasoning,_⟩ := spoken_sizes (admitted_spoken admitted)
    subst told
    unfold StreamTally.Bounded at bounded ⊢
    rw [reasoned_size _ (reasoningOf_size found),reasoned_textBytes,text,reasoning]
    simp only [hasRoom,admitted,found,unencodable,Option.all_none,and_true,decide_eq_true_eq]
    exact ⟨fun room => ⟨bounded.1,room⟩,fun both => both.2⟩
  | both admitted found encoded told =>
    obtain ⟨text,reasoning,_⟩ := spoken_sizes (admitted_spoken admitted)
    subst told
    unfold StreamTally.Bounded at bounded ⊢
    simp only [stopped_textBytes,stopped_reasoningBytes,answered_reasoningBytes]
    rw [answered_size _ encoded,reasoned_size _ (reasoningOf_size found),reasoned_textBytes,text,reasoning]
    simp only [hasRoom,admitted,found,encoded,Option.all_some,decide_eq_true_eq]
    exact and_comm

-- The bytes the frames hold back, with one more for each line that was joined.
def SseFrames.held (frames : SseFrames) : Nat := (frames.data.map (·.length + 1)).sum + frames.line.length

theorem joined_length (data : List Bytes) : (joined data).length ≤ (data.map (·.length + 1)).sum := by
  unfold joined
  induction data with
  | nil => exact Nat.le_refl 0
  | cons first later ih =>
    cases later with
    | nil => simp
    | cons next later =>
      rw [List.intercalate_cons_cons]
      simp only [List.length_append,List.map_cons,List.sum_cons,List.length_singleton] at ih ⊢
      omega

theorem removed_length (opening line : Bytes) : (removePrefix opening line).length ≤ line.length := by
  unfold removePrefix
  split
  · rw [List.length_drop]
    omega
  · exact Nat.le_refl _

-- One byte read, which the frames hold, pass on in an event or drop.
structure SseFrames.Passes (frames : SseFrames) (fed : SseFrames × Fed) : Prop where
  consumed : fed.1.consumedBytes = frames.consumedBytes + 1
  within : (∀ reason, fed.2 ≠ .failed reason) → fed.1.consumedBytes ≤ maxResponseBytes
  quiet : fed.2 = .quiet → fed.1.held ≤ frames.held + 1
  event : ∀ data, fed.2 = .event data → data.length + fed.1.held ≤ frames.held + 1

theorem fieldValue_length (line : Bytes) : (fieldValue line).length ≤ line.length := by
  have dropped := (List.dropWhile_sublist (· ≠ colon) (l := line)).length_le
  unfold fieldValue
  split
  · exact Nat.zero_le _
  · rename_i byte rest found
    have count := congrArg List.length found
    rw [List.length_drop,List.length_cons] at count
    split
    · omega
    · rw [List.length_cons]
      omega

theorem dataOf_held (line : Bytes) : ((dataOf line).toList.map (·.length + 1)).sum ≤ line.length + 1 := by
  have value := fieldValue_length line
  unfold dataOf
  split
  · simpa using value
  · exact Nat.zero_le _

theorem SseFrames.endLine_passes (frames : SseFrames) :
    (frames.endLine.1.consumedBytes = frames.consumedBytes) ∧
      (frames.endLine.2 = .quiet → frames.endLine.1.held ≤ frames.held + 1) ∧
      ∀ data, frames.endLine.2 = .event data → data.length + frames.endLine.1.held ≤ frames.held + 1 := by
  have line : (if frames.firstLine then removePrefix byteOrderMark frames.line else frames.line).length ≤ frames.line.length := by
    split
    · exact removed_length _ _
    · exact Nat.le_refl _
  unfold SseFrames.endLine
  generalize (if frames.firstLine then removePrefix byteOrderMark frames.line else frames.line) = content at line
  unfold SseFrames.complete
  split
  · exact ⟨rfl,(fun impossible => by cases impossible),(fun _ impossible => by cases impossible)⟩
  · split
    · refine ⟨rfl,fun _ => ?_,fun data found => ?_⟩
      · exact Nat.zero_le _
      · have joinedData := joined_length frames.data
        split at found
        · cases found
        · cases found
          change (joined frames.data).length + 0 ≤ (frames.data.map (·.length + 1)).sum + frames.line.length + 1
          omega
    · rw [field_data]
      refine ⟨rfl,fun _ => ?_,(fun _ impossible => by cases impossible)⟩
      have added := dataOf_held content
      change ((frames.data ++ (dataOf content).toList).map (·.length + 1)).sum + 0 ≤
        (frames.data.map (·.length + 1)).sum + frames.line.length + 1
      rw [List.map_append,List.sum_append]
      omega

theorem SseFrames.next_passes (frames : SseFrames) (value : UInt8) : frames.Passes (frames.next value) := by
  unfold SseFrames.next
  dsimp only
  split
  · exact ⟨rfl,fun quiet => absurd rfl (quiet _),(fun impossible => by cases impossible),(fun _ impossible => by cases impossible)⟩
  · rename_i fits
    have within : frames.consumedBytes + 1 ≤ maxResponseBytes := Nat.le_of_not_lt fits
    split
    · exact ⟨rfl,fun quiet => absurd rfl (quiet _),(fun impossible => by cases impossible),(fun _ impossible => by cases impossible)⟩
    · split
      · exact ⟨rfl,fun _ => within,fun _ => Nat.le_succ _,(fun _ impossible => by cases impossible)⟩
      · split
        · refine ⟨rfl,fun _ => within,fun _ => ?_,(fun _ impossible => by cases impossible)⟩
          change (frames.data.map (·.length + 1)).sum + (frames.line ++ [value]).length ≤ _ + frames.line.length + 1
          rw [List.length_append,List.length_singleton]
          omega
        · obtain ⟨consumed,quiet,event⟩ := SseFrames.endLine_passes {frames with
            consumedBytes := frames.consumedBytes + 1, eventBytes := frames.eventBytes + 1, afterCr := value = cr}
          exact ⟨consumed,fun _ => consumed ▸ within,quiet,event⟩

-- What a probe holds while it runs, and all that it can come to.
structure StreamProbe.Running (probe : StreamProbe) : Prop where
  consumed : probe.frames.consumedBytes ≤ maxResponseBytes
  events : probe.tally.events ≤ maxStreamEvents
  text : probe.tally.textDeltas ≤ probe.tally.events
  reasoning : probe.tally.reasoningDeltas ≤ probe.tally.events

structure StreamProbe.Limited (probe : StreamProbe) : Prop where
  consumed : probe.frames.consumedBytes ≤ maxResponseBytes + 1
  events : probe.tally.events ≤ maxStreamEvents + 1
  text : probe.tally.textDeltas ≤ maxStreamEvents
  reasoning : probe.tally.reasoningDeltas ≤ maxStreamEvents

theorem StreamProbe.Running.limited {probe : StreamProbe} (running : probe.Running) : probe.Limited :=
  ⟨Nat.le_succ_of_le running.consumed,Nat.le_succ_of_le running.events,running.text.trans running.events,
    running.reasoning.trans running.events⟩

theorem tells_deltas (tells : Tells loads data tally after) :
    after.textDeltas ≤ tally.textDeltas + 1 ∧ after.reasoningDeltas ≤ tally.reasoningDeltas + 1 := by
  cases tells with
  | nothing same =>
    obtain ⟨_,_,text,reasoning⟩ := spoken_sizes same
    omega
  | @reasoning _ _ _ found size middle admitted _ _ told =>
    obtain ⟨_,_,text,reasoning⟩ := spoken_sizes (admitted_spoken admitted)
    have more := reasoned_deltas middle found size
    subst told
    rw [reasoned_textDeltas]
    omega
  | @both _ _ content found size bytes middle admitted _ _ told =>
    obtain ⟨_,_,text,reasoning⟩ := spoken_sizes (admitted_spoken admitted)
    have more := reasoned_deltas middle found size
    have answer := answered_deltas (middle.reasoned found size) content bytes
    subst told
    simp only [stopped_textDeltas,stopped_reasoningDeltas,answered_reasoningDeltas,reasoned_textDeltas] at answer ⊢
    omega

theorem event_counts (loads : Bytes → Option Json) (data : Bytes) (tally : StreamTally) :
    (event loads data tally).2.events = tally.events + 1 ∧
      (maxStreamEvents ≤ tally.events → ∃ reason, event loads data tally =
        (.error reason,{tally with events := tally.events + 1})) := by
  rw [event_limited]
  split
  · rename_i below
    exact ⟨payload_keepsCount loads data _,fun full => absurd below (Nat.not_lt_of_le full)⟩
  · exact ⟨rfl,fun _ => ⟨_,rfl⟩⟩

theorem event_limits {probe : StreamProbe} (running : probe.Running) (frames : SseFrames) (data : Bytes)
    (consumed : frames.consumedBytes ≤ maxResponseBytes) :
    StreamProbe.Limited {probe with frames, tally := (event loads data probe.tally).2} ∧
      ((event loads data probe.tally).1.isOk → StreamProbe.Running {probe with frames, tally := (event loads data probe.tally).2}) := by
  obtain ⟨events,text,reasoning⟩ := (⟨running.events,running.text,running.reasoning⟩ : _ ∧ _ ∧ _)
  obtain ⟨counted,full⟩ := event_counts loads data probe.tally
  obtain ⟨moreText,moreReasoning⟩ := tells_deltas (event_tells loads data probe.tally)
  by_cases below : probe.tally.events < maxStreamEvents
  · have next : StreamProbe.Running {probe with frames, tally := (event loads data probe.tally).2} :=
      ⟨consumed,by dsimp only; omega,by dsimp only; omega,by dsimp only; omega⟩
    exact ⟨next.limited,fun _ => next⟩
  · obtain ⟨reason,raised⟩ := full (Nat.le_of_not_lt below)
    rw [raised]
    refine ⟨⟨Nat.le_succ_of_le consumed,?_,text.trans events,reasoning.trans events⟩,(fun impossible => by cases impossible)⟩
    exact Nat.succ_le_succ events

-- Induction over the bytes of a chunk.
theorem StreamProbe.chunk_limits (probe : StreamProbe) (running : probe.Running) (text : Bytes) :
    (probe.chunk loads text).1.Limited := by
  induction text generalizing probe with
  | nil => exact running.limited
  | cons value rest ih =>
    have passes := probe.frames.next_passes value
    rw [chunk_cons]
    rcases fed : probe.frames.next value with ⟨frames,quiet | data | reason⟩
    · rw [fed] at passes
      exact ih _ ⟨passes.within (fun _ impossible => by cases impossible),running.events,running.text,running.reasoning⟩
    · rw [fed] at passes
      have consumed := passes.within (fun _ impossible => by cases impossible)
      obtain ⟨limited,next⟩ := @event_limits loads probe running frames data consumed
      dsimp only
      rcases observed : event loads data probe.tally with ⟨reason | _ | _,tally⟩
      · rw [observed] at limited
        exact limited
      · rw [observed] at next
        exact ih _ (next rfl)
      · rw [observed] at limited
        exact limited
    · rw [fed] at passes
      have consumed := passes.consumed
      have before := running.consumed
      dsimp only at consumed ⊢
      exact ⟨by dsimp only; omega,running.limited.events,running.limited.text,running.limited.reasoning⟩

theorem StreamProbe.chunk_grows (probe : StreamProbe) (text : Bytes) :
    probe.tally.textBytes ≤ (probe.chunk loads text).1.tally.textBytes ∧
      probe.tally.reasoningBytes ≤ (probe.chunk loads text).1.tally.reasoningBytes := by
  induction text generalizing probe with
  | nil => exact ⟨Nat.le_refl _,Nat.le_refl _⟩
  | cons value rest ih =>
    rw [chunk_cons]
    rcases probe.frames.next value with ⟨frames,quiet | data | reason⟩
    · exact ih {probe with frames}
    · have grows := tells_grows (event_tells loads data probe.tally)
      dsimp only
      generalize event loads data probe.tally = observed at grows ⊢
      rcases observed with ⟨reason | _ | _,tally⟩
      · exact grows
      · have later := ih {probe with frames, tally}
        exact ⟨grows.1.trans later.1,grows.2.trans later.2⟩
      · exact grows
    · exact ⟨Nat.le_refl _,Nat.le_refl _⟩

theorem StreamProbe.steps_cons (probe : StreamProbe) (value : UInt8) (rest : Bytes) :
    probe.steps loads (value :: rest) =
      match probe.frames.next value with
      | (frames,.quiet) => StreamProbe.steps loads {probe with frames} rest
      | (_,.failed _) => []
      | (frames,.event data) =>
        (probe.tally,data) ::
          match event loads data probe.tally with
          | (.ok false,tally) => StreamProbe.steps loads {probe with frames, tally} rest
          | _ => [] := rfl

-- The texts stay within their bounds exactly when every event on the way had room.
theorem StreamProbe.chunk_room (probe : StreamProbe) (bounded : probe.tally.Bounded) (text : Bytes) :
    (probe.chunk loads text).1.tally.Bounded ↔ ∀ step ∈ probe.steps loads text, hasRoom loads step.1 step.2 = true := by
  induction text generalizing probe with
  | nil => exact ⟨(fun _ _ impossible => by cases impossible),fun _ => bounded⟩
  | cons value rest ih =>
    rw [chunk_cons,steps_cons]
    rcases probe.frames.next value with ⟨frames,quiet | data | reason⟩
    · exact ih {probe with frames} bounded
    · have room := tells_room (event_tells loads data probe.tally) bounded
      dsimp only
      generalize event loads data probe.tally = observed at room ⊢
      rcases observed with ⟨reason | _ | _,tally⟩
      · simpa using room.symm
      · rw [List.forall_mem_cons]
        by_cases fits : hasRoom loads probe.tally data = true
        · rw [ih {probe with frames, tally} (room.mp fits)]
          exact ⟨fun later => ⟨fits,later⟩,fun both => both.2⟩
        · have grows := @chunk_grows loads {probe with frames, tally} rest
          refine ⟨fun last => absurd (room.mpr ?_) fits,fun both => absurd both.1 fits⟩
          exact ⟨grows.1.trans last.1,grows.2.trans last.2⟩
      · simpa using room.symm
    · exact ⟨(fun _ _ impossible => by cases impossible),fun _ => bounded⟩

theorem StreamProbe.observation_some {probe : StreamProbe} (limited : probe.Limited) :
    probe.observation.isSome ↔ probe.tally.textBytes ≤ maxTextBytes ∧
      (probe.tally.kind = .thinking → probe.tally.reasoningBytes ≤ maxTextBytes) := by
  obtain ⟨consumed,events,text,reasoning⟩ := limited
  unfold observation StreamObservation.wellFormed
  dsimp only
  change _ ≤ 65537 at consumed
  change _ ≤ 257 at events
  change _ ≤ 256 at text
  change _ ≤ 256 at reasoning
  change _ ↔ _ ≤ 65536 ∧ (_ → _ ≤ 65536)
  by_cases thinking : probe.tally.kind = .thinking
  · simp [thinking,consumed,events,text,reasoning]
  · simp [thinking,consumed,events,text]

@[simp] theorem reasoned_kind : (tally.reasoned reasoning size).kind = tally.kind := by
  unfold StreamTally.reasoned; split <;> rfl
@[simp] theorem answered_kind : (tally.answered content size).kind = tally.kind := by
  unfold StreamTally.answered; split <;> rfl
@[simp] theorem stopped_kind : (tally.stopped stops).kind = tally.kind := by
  unfold StreamTally.stopped; split <;> rfl

theorem reasoningOf_silent {kind : CheckKind} {delta : Fields} (other : kind ≠ .thinking)
    (found : reasoningOf kind delta = some (reasoning,size)) : size = 0 := by
  unfold reasoningOf at found
  rw [if_neg other] at found
  cases found
  rfl

-- Only a thinking probe reads the reasoning.
theorem tells_silent (tells : Tells loads data tally after) :
    after.kind = tally.kind ∧ (tally.kind ≠ .thinking → after.reasoningBytes = tally.reasoningBytes) := by
  have kinds {after : StreamTally} (same : after.spoken = tally.spoken) : after.spoken.kind = tally.spoken.kind :=
    congrArg StreamTally.kind same
  cases tells with
  | nothing same => exact ⟨kinds same,fun _ => (spoken_sizes same).2.1⟩
  | reasoning admitted found _ told =>
    have same := admitted_spoken admitted
    subst told
    rw [reasoned_kind]
    refine ⟨kinds same,fun other => ?_⟩
    rw [reasoned_size _ (reasoningOf_size found),reasoningOf_silent other found,(spoken_sizes same).2.1,Nat.add_zero]
  | both admitted found encoded told =>
    have same := admitted_spoken admitted
    subst told
    simp only [stopped_kind,answered_kind,reasoned_kind,stopped_reasoningBytes,answered_reasoningBytes]
    refine ⟨kinds same,fun other => ?_⟩
    rw [reasoned_size _ (reasoningOf_size found),reasoningOf_silent other found,(spoken_sizes same).2.1,Nat.add_zero]

theorem StreamProbe.chunk_silent (probe : StreamProbe) (text : Bytes) :
    (probe.chunk loads text).1.tally.kind = probe.tally.kind ∧ (probe.tally.kind ≠ .thinking →
      (probe.chunk loads text).1.tally.reasoningBytes = probe.tally.reasoningBytes) := by
  induction text generalizing probe with
  | nil => exact ⟨rfl,fun _ => rfl⟩
  | cons value rest ih =>
    rw [chunk_cons]
    rcases probe.frames.next value with ⟨frames,quiet | data | reason⟩
    · exact ih {probe with frames}
    · have silent := tells_silent (event_tells loads data probe.tally)
      dsimp only
      generalize event loads data probe.tally = observed at silent ⊢
      rcases observed with ⟨reason | _ | _,tally⟩
      · exact silent
      · have later := ih {probe with frames, tally}
        refine ⟨later.1.trans silent.1,fun other => (later.2 ?_).trans (silent.2 other)⟩
        rw [←silent.1] at other
        exact other
      · exact silent
    · exact ⟨rfl,fun _ => rfl⟩

theorem Ending.outcome_some (probe : StreamProbe) (ending : Ending) :
    (ending.outcome probe).isSome = probe.observation.isSome := by
  have outcome (state : CheckState) (reason : Option CheckReason) : (probe.outcome state reason).isSome = probe.observation.isSome := by
    unfold StreamProbe.outcome
    cases probe.observation <;> rfl
  cases ending <;> exact outcome _ _

theorem StreamProbe.start_running (kind : CheckKind) (modelId : Text) : (StreamProbe.start kind modelId).Running :=
  ⟨Nat.zero_le _,Nat.zero_le _,Nat.le_refl _,Nat.le_refl _⟩

theorem body_room (loads : Bytes → Option Json) (kind : CheckKind) (modelId : Text) (chunks : List Bytes) :
    (StreamProbe.body loads kind modelId chunks).1.Limited ∧
      ((StreamProbe.body loads kind modelId chunks).2.isSome ↔
        ∀ step ∈ (StreamProbe.start kind modelId).steps loads chunks.flatten, hasRoom loads step.1 step.2 = true) := by
  have start : (StreamProbe.start kind modelId).tally.Bounded := ⟨Nat.zero_le _,Nat.zero_le _⟩
  unfold StreamProbe.body
  rw [StreamProbe.receive_flatten]
  have limited := @StreamProbe.chunk_limits loads _ (StreamProbe.start_running kind modelId) chunks.flatten
  refine ⟨limited,?_⟩
  rw [←StreamProbe.chunk_room _ start,Ending.outcome_some,StreamProbe.observation_some limited]
  obtain ⟨sameKind,silent⟩ := @StreamProbe.chunk_silent loads (StreamProbe.start kind modelId) chunks.flatten
  refine ⟨fun both => ⟨both.1,?_⟩,fun bounded => ⟨bounded.1,fun _ => bounded.2⟩⟩
  by_cases thinking : kind = .thinking
  · exact both.2 (sameKind.trans thinking)
  · rw [silent thinking]
    exact Nat.zero_le _

end EngineeringPlatform.ModelGateway
