import EngineeringPlatform.EventStream
import EngineeringPlatform.ModelGatewayDomain
namespace EngineeringPlatform.ModelGateway
open EventStream

def maxStreamEventBytes : Nat := 16384
def maxStreamEvents : Nat := 256

structure SseFrames where
  consumedBytes : Nat
  eventBytes : Nat
  line : Bytes
  data : List Bytes
  afterCr : Bool
  firstLine : Bool
  deriving DecidableEq

def SseFrames.start : SseFrames := ⟨0,0,[],[],false,true⟩

-- What one byte does to the reader of the frames.
inductive Fed where
  | quiet
  | event (data : Bytes)
  | failed (reason : CheckReason)
  deriving DecidableEq

def removePrefix (opening line : Bytes) : Bytes :=
  if line.take opening.length = opening then line.drop opening.length else line

-- The line up to the separator, whether there is one, and what comes behind it.
def partition (separator : UInt8) (line : Bytes) : Bytes × Bool × Bytes :=
  (line.takeWhile (· ≠ separator),(line.dropWhile (· ≠ separator)) ≠ [],(line.dropWhile (· ≠ separator)).drop 1)

def decodesAsUtf8 (line : Bytes) : Bool := (ByteArray.mk line.toArray).validateUTF8

def SseFrames.field (frames : SseFrames) (line : Bytes) : SseFrames :=
  let (name,separator,value) := partition colon line
  if name = dataName then
    {frames with data := frames.data ++ [if separator then removePrefix [space] value else []]}
  else frames

-- Only complete lines are decoded: a character may span the chunks.
def SseFrames.complete (frames : SseFrames) (line : Bytes) : SseFrames × Fed :=
  if decodesAsUtf8 line = false then (frames,.failed .invalidStreamResponse)
  else if line = [] then
    ({frames with data := [], eventBytes := 0},if frames.data = [] then .quiet else .event (joined frames.data))
  else (if line.head? = some colon then frames else frames.field line,.quiet)

def SseFrames.endLine (frames : SseFrames) : SseFrames × Fed :=
  {frames with line := [], firstLine := false}.complete
    (if frames.firstLine then removePrefix byteOrderMark frames.line else frames.line)

def SseFrames.next (frames : SseFrames) (value : UInt8) : SseFrames × Fed :=
  let frames := {frames with consumedBytes := frames.consumedBytes + 1}
  if maxResponseBytes < frames.consumedBytes then (frames,.failed .responseTooLarge)
  else
    let frames := {frames with eventBytes := frames.eventBytes + 1}
    if maxStreamEventBytes < frames.eventBytes then (frames,.failed .streamEventTooLarge)
    else if value = lf ∧ frames.afterCr then ({frames with afterCr := false},.quiet)
    else
      let frames := {frames with afterCr := value = cr}
      if value ≠ lf ∧ value ≠ cr then ({frames with line := frames.line ++ [value]},.quiet)
      else frames.endLine

-- The generator, run to its end: its state, what it yields and what it raises.
def SseFrames.feed (frames : SseFrames) : Bytes → SseFrames × List Bytes × Option CheckReason
  | [] => (frames,[],none)
  | value :: chunk =>
    match frames.next value with
    | (frames,.quiet) => frames.feed chunk
    | (frames,.event data) =>
      let (last,events,failure) := frames.feed chunk
      (last,data :: events,failure)
    | (frames,.failed reason) => (frames,[],some reason)

def SseFrames.feedAll (frames : SseFrames) : List Bytes → SseFrames × List Bytes × Option CheckReason
  | [] => (frames,[],none)
  | chunk :: chunks =>
    match frames.feed chunk with
    | (frames,events,none) =>
      let (last,later,failure) := frames.feedAll chunks
      (last,events ++ later,failure)
    | (frames,events,some reason) => (frames,events,some reason)

def streamLimits : Limits := ⟨maxResponseBytes,maxStreamEventBytes⟩

def reasonOf : Violation → CheckReason
  | .tooLarge => .responseTooLarge
  | .eventTooLarge => .streamEventTooLarge
  | .malformed => .invalidStreamResponse

structure SseFrames.Ready (frames : SseFrames) : Prop where
  total : frames.consumedBytes ≤ maxResponseBytes
  event : frames.eventBytes ≤ maxStreamEventBytes
  counted : frames.eventBytes ≤ frames.consumedBytes

theorem SseFrames.start_ready : SseFrames.start.Ready := ⟨Nat.zero_le _,Nat.zero_le _,Nat.le_refl 0⟩

def SseFrames.lines (frames : SseFrames) (text : Bytes) : List Line :=
  let ended := linesAfter frames.afterCr frames.consumedBytes frames.line text
  if frames.firstLine then openingUnmarked ended else ended

-- What the reference makes of the rest of a text, behind what the frames have read.
def SseFrames.remaining (frames : SseFrames) (text : Bytes) : Decoding :=
  decodeLines decodesAsUtf8 streamLimits (frames.consumedBytes - frames.eventBytes)
    (frames.consumedBytes + text.length) frames.data (frames.lines text)

theorem SseFrames.lines_ended (frames : SseFrames) (text : Bytes) :
    ∀ line ∈ frames.lines text, frames.consumedBytes < line.ended := by
  intro line member
  unfold SseFrames.lines at member
  dsimp only at member
  split at member
  · obtain ⟨old,member,same⟩ := openingUnmarked_ended member
    rw [same]
    exact linesAfter_ended member
  · exact linesAfter_ended member

-- A field line adds its data, and a comment has an empty name.
theorem field_data (frames : SseFrames) (line : Bytes) :
    (if line.head? = some colon then frames else frames.field line) =
      {frames with data := frames.data ++ (dataOf line).toList} := by
  unfold dataOf fieldName fieldValue
  split
  · rename_i comment
    cases line with
    | nil => cases comment
    | cons byte rest =>
      cases Option.some.inj comment
      rw [List.takeWhile_cons_of_neg (by simp),if_neg (by decide)]
      simp
  · unfold SseFrames.field partition
    dsimp only
    split
    · cases found : line.dropWhile (· ≠ colon) with
      | nil => simp
      | cons separator value =>
        cases value with
        | nil => simp [removePrefix,space]
        | cons byte rest =>
          by_cases spaced : byte = space <;> simp [removePrefix,spaced]
    · simp

theorem empty_decodes : decodesAsUtf8 [] = true := by
  unfold decodesAsUtf8
  rw [ByteArray.validateUTF8_eq_true_iff]
  exact ByteArray.isValidUTF8_empty

-- One byte read as the reference reads it: what the text decodes to is what the
-- byte yields, and then what the rest decodes to.
def Reads (whole : Decoding) (consumed : Nat) (rest : Bytes) : SseFrames × Fed → Prop
  | (after,.quiet) => after.Ready ∧ after.consumedBytes = consumed ∧ whole = after.remaining rest
  | (after,.event data) => after.Ready ∧ after.consumedBytes = consumed ∧
      whole = (after.remaining rest).behind [⟨data,consumed⟩]
  | (after,.failed reason) => ∃ broken, reasonOf broken = reason ∧
      whole = ⟨[],some broken,after.consumedBytes,after.eventBytes⟩

theorem SseFrames.complete_reads (frames : SseFrames) (line rest : Bytes) (ready : frames.Ready)
    (counted : 0 < frames.eventBytes) (ended : frames.firstLine = false) (fresh : frames.line = []) :
    Reads (decodeLines decodesAsUtf8 streamLimits (frames.consumedBytes - frames.eventBytes)
        (frames.consumedBytes + rest.length) frames.data
        (⟨line,frames.consumedBytes⟩ :: linesAfter frames.afterCr frames.consumedBytes [] rest))
      frames.consumedBytes rest (frames.complete line) := by
  obtain ⟨total,event,within⟩ := ready
  have after : ∀ later ∈ linesAfter frames.afterCr frames.consumedBytes [] rest, frames.consumedBytes < later.ended :=
    fun later member => linesAfter_ended member
  have room : frames.consumedBytes ≤ frames.consumedBytes - frames.eventBytes + maxStreamEventBytes := by omega
  unfold SseFrames.complete
  cases formed : decodesAsUtf8 line with
  | false =>
    have content : line ≠ [] := by
      rintro rfl
      cases empty_decodes.symm.trans formed
    obtain ⟨read,here⟩ : ∃ read, frames.consumedBytes = read + 1 := ⟨frames.consumedBytes - 1,by omega⟩
    refine ⟨.malformed,rfl,?_⟩
    have total : read < streamLimits.total := by
      change read < maxResponseBytes
      omega
    have room : read < frames.consumedBytes - frames.eventBytes + streamLimits.event := by
      change read < _ + maxStreamEventBytes
      omega
    rw [decodeLines_malformed total room here formed content (by rw [←here]; exact after)]
    have same : read + 1 - (frames.consumedBytes - frames.eventBytes) = frames.eventBytes := by omega
    rw [same,here]
  | true =>
    rw [if_neg (by simp),@decodeLines_cons _ _ ⟨line,frames.consumedBytes⟩ _ _ _ _ formed room total
      (Nat.le_add_right _ _) after]
    by_cases blank : line = []
    · rw [if_pos blank,if_pos blank]
      have ready : ({frames with data := [], eventBytes := 0} : SseFrames).Ready := ⟨total,Nat.zero_le _,Nat.zero_le _⟩
      have rest : ({frames with data := [], eventBytes := 0} : SseFrames).remaining rest =
          decodeLines decodesAsUtf8 streamLimits frames.consumedBytes (frames.consumedBytes + rest.length) []
            (linesAfter frames.afterCr frames.consumedBytes [] rest) := by
        unfold SseFrames.remaining SseFrames.lines
        simp [ended,fresh]
      split
      · exact ⟨ready,rfl,rest.symm⟩
      · exact ⟨ready,rfl,by rw [rest]⟩
    · rw [if_neg blank,if_neg blank,field_data]
      refine ⟨⟨total,event,within⟩,rfl,?_⟩
      unfold SseFrames.remaining SseFrames.lines
      simp [ended,fresh]

-- The line that a line end completes, and the lines behind it.
theorem SseFrames.lines_ends (frames : SseFrames) (value : UInt8) (rest : Bytes)
    (skipped : ¬(value = lf ∧ frames.afterCr = true)) (ends : value = lf ∨ value = cr) :
    frames.lines (value :: rest) =
      ⟨if frames.firstLine then withoutMark frames.line else frames.line,frames.consumedBytes + 1⟩ ::
        linesAfter (decide (value = cr)) (frames.consumedBytes + 1) [] rest := by
  have first : linesAfter frames.afterCr frames.consumedBytes frames.line (value :: rest) =
      ⟨frames.line,frames.consumedBytes + 1⟩ :: linesAfter (decide (value = cr)) (frames.consumedBytes + 1) [] rest := by
    have lineOf : linesAfter frames.afterCr frames.consumedBytes frames.line (value :: rest) =
        EventStream.lines frames.consumedBytes frames.line (value :: rest) := by
      cases returned : frames.afterCr with
      | false => rfl
      | true =>
        unfold linesAfter
        exact if_neg fun same => skipped ⟨same,returned⟩
    rw [lineOf]
    rcases ends with rfl | rfl
    · exact lines_lf _ _ _
    · exact lines_cr _ _ _
  unfold SseFrames.lines
  rw [first]
  cases frames.firstLine <;> rfl

theorem SseFrames.lines_inside (frames : SseFrames) (value : UInt8) (rest : Bytes) (notLf : value ≠ lf) (notCr : value ≠ cr) :
    linesAfter frames.afterCr frames.consumedBytes frames.line (value :: rest) =
      EventStream.lines (frames.consumedBytes + 1) (frames.line ++ [value]) rest := by
  rw [←lines_other _ _ _ notLf notCr]
  cases frames.afterCr with
  | false => rfl
  | true =>
    unfold linesAfter
    exact if_neg notLf

theorem SseFrames.next_reads (frames : SseFrames) (value : UInt8) (rest : Bytes) (ready : frames.Ready) :
    Reads (frames.remaining (value :: rest)) (frames.consumedBytes + 1) rest (frames.next value) := by
  obtain ⟨total,event,within⟩ := ready
  have ended := frames.lines_ended (value :: rest)
  have more : frames.consumedBytes < frames.consumedBytes + (value :: rest).length := by
    rw [List.length_cons]
    omega
  have start : frames.consumedBytes + 1 - (frames.eventBytes + 1) = frames.consumedBytes - frames.eventBytes := by omega
  have length : frames.consumedBytes + (value :: rest).length = frames.consumedBytes + 1 + rest.length := by
    rw [List.length_cons]
    omega
  unfold SseFrames.next
  dsimp only
  split
  · rename_i large
    refine ⟨.tooLarge,rfl,?_⟩
    have full : streamLimits.total = frames.consumedBytes := by
      change maxResponseBytes = _
      omega
    have room : frames.consumedBytes < frames.consumedBytes - frames.eventBytes + streamLimits.event + 1 := by
      change _ < _ + maxStreamEventBytes + 1
      omega
    have same : frames.consumedBytes - (frames.consumedBytes - frames.eventBytes) = frames.eventBytes := by omega
    unfold SseFrames.remaining
    rw [decodeLines_tooLarge full more room ended,same]
  · rename_i fits
    split
    · rename_i large
      refine ⟨.eventTooLarge,rfl,?_⟩
      have full : frames.consumedBytes = frames.consumedBytes - frames.eventBytes + streamLimits.event := by
        change _ = _ + maxStreamEventBytes
        omega
      have below : frames.consumedBytes < streamLimits.total := by
        change _ < maxResponseBytes
        omega
      have same : frames.consumedBytes + 1 - (frames.consumedBytes - frames.eventBytes) = frames.eventBytes + 1 := by omega
      unfold SseFrames.remaining
      rw [decodeLines_eventTooLarge below more full ended,same]
    · rename_i room
      have ready (line : Bytes) (afterCr firstLine : Bool) : SseFrames.Ready
          ⟨frames.consumedBytes + 1,frames.eventBytes + 1,line,frames.data,afterCr,firstLine⟩ :=
        ⟨Nat.le_of_not_lt fits,Nat.le_of_not_lt room,Nat.succ_le_succ within⟩
      split
      · rename_i skipped
        refine ⟨ready _ _ _,rfl,?_⟩
        unfold SseFrames.remaining SseFrames.lines
        rw [length]
        dsimp only
        rw [start,skipped.1,skipped.2]
        rfl
      · rename_i skipped
        split
        · rename_i inside
          refine ⟨ready _ _ _,rfl,?_⟩
          unfold SseFrames.remaining SseFrames.lines
          rw [length,frames.lines_inside value rest inside.1 inside.2]
          dsimp only
          rw [start,decide_eq_false inside.2]
          rfl
        · rename_i outside
          have ends : value = lf ∨ value = cr := by
            by_cases isLf : value = lf
            · exact Or.inl isLf
            · exact Or.inr (by_contra fun isCr => outside ⟨isLf,isCr⟩)
          unfold SseFrames.remaining SseFrames.endLine
          rw [frames.lines_ends value rest skipped ends,length,←start]
          exact SseFrames.complete_reads _ _ _ (ready _ _ _) (Nat.succ_pos _) rfl rfl

-- What a reader of the frames has seen agrees with a decoding of the text.
def Agrees (decoding : Decoding) (fed : SseFrames × List Bytes × Option CheckReason) : Prop :=
  decoding.events.map (·.data) = fed.2.1 ∧ decoding.violation.map reasonOf = fed.2.2 ∧
    decoding.consumed = fed.1.consumedBytes ∧ decoding.eventBytes = fed.1.eventBytes

-- Induction over the bytes; the reference advances with every byte.
theorem SseFrames.feed_agrees (frames : SseFrames) (ready : frames.Ready) (text : Bytes) :
    Agrees (frames.remaining text) (frames.feed text) := by
  induction text generalizing frames with
  | nil =>
    have nothing : frames.lines [] = [] := by
      unfold SseFrames.lines
      cases frames.afterCr <;> cases frames.firstLine <;> rfl
    have room : frames.consumedBytes ≤ frames.consumedBytes - frames.eventBytes + maxStreamEventBytes := by
      have := ready.event
      omega
    have same : frames.consumedBytes - (frames.consumedBytes - frames.eventBytes) = frames.eventBytes := by
      have := ready.counted
      omega
    unfold SseFrames.remaining
    rw [nothing,List.length_nil,Nat.add_zero,decodeLines_nil ready.total room,same]
    exact ⟨rfl,rfl,rfl,rfl⟩
  | cons value rest ih =>
    have reads := frames.next_reads value rest ready
    unfold SseFrames.feed
    rcases fed : frames.next value with ⟨after,quiet | data | reason⟩
    · rw [fed] at reads
      obtain ⟨ready,_,same⟩ := reads
      rw [same]
      exact ih after ready
    · rw [fed] at reads
      obtain ⟨ready,_,same⟩ := reads
      obtain ⟨events,failure,consumed,counted⟩ := ih after ready
      rw [same]
      exact ⟨congrArg (data :: ·) events,failure,consumed,counted⟩
    · rw [fed] at reads
      obtain ⟨broken,rfl,same⟩ := reads
      rw [same]
      exact ⟨rfl,rfl,rfl,rfl⟩

theorem SseFrames.feed_cons (frames : SseFrames) (value : UInt8) (chunk : Bytes) :
    frames.feed (value :: chunk) =
      match frames.next value with
      | (after,.quiet) => after.feed chunk
      | (after,.event data) => ((after.feed chunk).1,data :: (after.feed chunk).2.1,(after.feed chunk).2.2)
      | (after,.failed reason) => (after,[],some reason) := rfl

theorem SseFrames.feed_append (frames : SseFrames) (chunk rest : Bytes) :
    frames.feed (chunk ++ rest) =
      match frames.feed chunk with
      | (last,events,none) => ((last.feed rest).1,events ++ (last.feed rest).2.1,(last.feed rest).2.2)
      | (last,events,some reason) => (last,events,some reason) := by
  induction chunk generalizing frames with
  | nil => rfl
  | cons value chunk ih =>
    rw [List.cons_append,feed_cons,feed_cons]
    rcases frames.next value with ⟨after,quiet | data | reason⟩
    · exact ih after
    · dsimp only
      rw [ih after]
      rcases after.feed chunk with ⟨last,events,_ | reason⟩ <;> rfl
    · rfl

theorem SseFrames.feedAll_flatten (frames : SseFrames) (chunks : List Bytes) :
    frames.feedAll chunks = frames.feed chunks.flatten := by
  induction chunks generalizing frames with
  | nil => rfl
  | cons chunk chunks ih =>
    rw [List.flatten_cons,frames.feed_append]
    unfold SseFrames.feedAll
    rcases frames.feed chunk with ⟨last,events,_ | reason⟩
    · dsimp only
      rw [ih last]
    · rfl

-- However a text is cut into chunks, the frames decode it as the reference does.
theorem frames_decode (chunks : List Bytes) :
    Agrees (decode decodesAsUtf8 streamLimits chunks.flatten) (SseFrames.start.feedAll chunks) := by
  rw [SseFrames.feedAll_flatten]
  have agrees := SseFrames.start.feed_agrees SseFrames.start_ready chunks.flatten
  unfold SseFrames.remaining at agrees
  rw [show SseFrames.start.consumedBytes + chunks.flatten.length = chunks.flatten.length from Nat.zero_add _] at agrees
  exact agrees

end EngineeringPlatform.ModelGateway
