import Mathlib.Data.List.Basic
-- The event stream format, decoded with the whole text at hand: CR, LF and CRLF end
-- a line, a byte order mark may open the first one, an empty line ends an event,
-- whose data lines are joined by LF, and comments and other fields are ignored.
namespace EventStream

abbrev Bytes := List UInt8

def lf : UInt8 := 10
def cr : UInt8 := 13
def colon : UInt8 := 58
def space : UInt8 := 32
def byteOrderMark : Bytes := [0xEF,0xBB,0xBF]

-- `ended` counts the bytes of the text up to the byte that ends the line. Of a
-- CRLF this is the CR.
structure Line where
  content : Bytes
  ended : Nat
  deriving DecidableEq

structure Event where
  data : Bytes
  ended : Nat
  deriving DecidableEq

-- The lines of a text that are ended, after `read` bytes, with `content` already
-- on the first.
def lines : Nat → Bytes → Bytes → List Line
  | _,_,[] => []
  | read,content,[byte] => if byte = lf ∨ byte = cr then [⟨content,read + 1⟩] else []
  | read,content,byte :: next :: rest =>
    if byte = cr ∧ next = lf then ⟨content,read + 1⟩ :: lines (read + 2) [] rest
    else if byte = lf ∨ byte = cr then ⟨content,read + 1⟩ :: lines (read + 1) [] (next :: rest)
    else lines (read + 1) (content ++ [byte]) (next :: rest)

def withoutMark (content : Bytes) : Bytes :=
  if content.take 3 = byteOrderMark then content.drop 3 else content

def openingUnmarked : List Line → List Line
  | [] => []
  | line :: later => {line with content := withoutMark line.content} :: later

-- The name of a field ends at the first colon, and its value may open with a space.
def fieldName (content : Bytes) : Bytes := content.takeWhile (· ≠ colon)

def fieldValue (content : Bytes) : Bytes :=
  match (content.dropWhile (· ≠ colon)).drop 1 with
  | [] => []
  | byte :: rest => if byte = space then rest else byte :: rest

def dataName : Bytes := [100,97,116,97]

def dataOf (content : Bytes) : Option Bytes :=
  if fieldName content = dataName then some (fieldValue content) else none

def joined (data : List Bytes) : Bytes := [lf].intercalate data

def events (data : List Bytes) : List Line → List Event
  | [] => []
  | line :: later =>
    if line.content = [] then
      if data = [] then events [] later else ⟨joined data,line.ended⟩ :: events [] later
    else events (data ++ (dataOf line.content).toList) later

def blanks (ended : List Line) : List Nat := (ended.filter (·.content = [])).map (·.ended)

structure Limits where
  total : Nat
  event : Nat
  deriving DecidableEq

inductive Violation where
  | tooLarge
  | eventTooLarge
  | malformed
  deriving DecidableEq

-- The first byte that lies more than `limit` bytes behind the last empty line.
def oversized (limit start length : Nat) : List Nat → Option Nat
  | [] => if start + limit < length then some (start + limit + 1) else none
  | blank :: later => if start + limit < blank then some (start + limit + 1) else oversized limit blank length later

def overlong (limit length : Nat) : Option Nat := if limit < length then some (limit + 1) else none

def malformedAt (wellFormed : Bytes → Bool) (ended : List Line) : Option Nat :=
  (ended.find? fun line => ¬wellFormed line.content).map (·.ended)

-- Of two violations the earlier one, and at one byte the first.
def earlier : Option (Nat × Violation) → Option (Nat × Violation) → Option (Nat × Violation)
  | some one,some two => if one.1 ≤ two.1 then some one else some two
  | some one,none => some one
  | none,two => two

def violation (wellFormed : Bytes → Bool) (limits : Limits) (start length : Nat) (ended : List Line) :
    Option (Nat × Violation) :=
  earlier ((overlong limits.total length).map (·,.tooLarge))
    (earlier ((oversized limits.event start length (blanks ended)).map (·,.eventTooLarge))
      ((malformedAt wellFormed ended).map (·,.malformed)))

structure Decoding where
  events : List Event
  violation : Option Violation
  consumed : Nat
  eventBytes : Nat
  deriving DecidableEq

-- What is left of the lines of a text when decoding stops at the first violation.
def bounded (limits : Limits) (start length : Nat) (found : List Event) (empty : List Nat)
    (failure : Option (Nat × Violation)) : Decoding :=
  let stop := failure.elim (length + 1) (·.1)
  let consumed := failure.elim length (·.1)
  ⟨found.filter (·.ended < stop),failure.map (·.2),consumed,
    min consumed limits.total - (empty.filter (· < stop)).getLastD start⟩

def decodeLines (wellFormed : Bytes → Bool) (limits : Limits) (start length : Nat) (data : List Bytes)
    (ended : List Line) : Decoding :=
  bounded limits start length (events data ended) (blanks ended) (violation wellFormed limits start length ended)

def decode (wellFormed : Bytes → Bool) (limits : Limits) (text : Bytes) : Decoding :=
  decodeLines wellFormed limits 0 text.length [] (openingUnmarked (lines 0 [] text))

-- The lines of what follows, when a CR before it may be one half of a CRLF.
def linesAfter : Bool → Nat → Bytes → Bytes → List Line
  | false,read,content,text => lines read content text
  | true,read,content,[] => lines read content []
  | true,read,content,byte :: rest =>
    if byte = lf then lines (read + 1) content rest else lines read content (byte :: rest)

variable {read start length limit blank position : Nat} {content text rest : Bytes} {byte : UInt8} {line : Line}
  {event : Event} {ended : List Line} {empty : List Nat} {limits : Limits} {failure : Nat × Violation}
  {one two : Option (Nat × Violation)} {wellFormed : Bytes → Bool}

theorem lines_cr (read : Nat) (content rest : Bytes) :
    lines read content (cr :: rest) = ⟨content,read + 1⟩ :: linesAfter true (read + 1) [] rest := by
  cases rest with
  | nil => simp [lines,linesAfter]
  | cons next rest =>
    unfold lines linesAfter
    by_cases same : next = lf
    · simp [same]
    · simp [same]

theorem lines_lf (read : Nat) (content rest : Bytes) :
    lines read content (lf :: rest) = ⟨content,read + 1⟩ :: lines (read + 1) [] rest := by
  cases rest with
  | nil => simp [lines]
  | cons next rest =>
    rw [lines,if_neg (by rintro ⟨same,_⟩; exact absurd same (by decide)),if_pos (Or.inl rfl)]

theorem lines_other (read : Nat) (content rest : Bytes) (notLf : byte ≠ lf) (notCr : byte ≠ cr) :
    lines read content (byte :: rest) = lines (read + 1) (content ++ [byte]) rest := by
  cases rest with
  | nil => simp [lines,notLf,notCr]
  | cons next rest =>
    rw [lines,if_neg (fun both => notCr both.1),if_neg (by rintro (same | same); exacts [notLf same,notCr same])]

theorem lines_ended (member : line ∈ lines read content text) : read < line.ended := by
  induction read,content,text using lines.induct with
  | case1 => cases member
  | case2 read content byte ends =>
    rw [lines,if_pos ends] at member
    cases List.mem_singleton.mp member
    exact Nat.lt_succ_self read
  | case3 read content byte inside =>
    rw [lines,if_neg inside] at member
    cases member
  | case4 read content byte next rest both ih =>
    rw [lines,if_pos both] at member
    rcases List.mem_cons.mp member with rfl | member
    · exact Nat.lt_succ_self read
    · have := ih member
      omega
  | case5 read content byte next rest apart ends ih =>
    rw [lines,if_neg apart,if_pos ends] at member
    rcases List.mem_cons.mp member with rfl | member
    · exact Nat.lt_succ_self read
    · have := ih member
      omega
  | case6 read content byte next rest apart inside ih =>
    rw [lines,if_neg apart,if_neg inside] at member
    have := ih member
    omega

theorem linesAfter_ended (member : line ∈ linesAfter returned read content text) : read < line.ended := by
  unfold linesAfter at member
  split at member
  · exact lines_ended member
  · exact lines_ended member
  · split at member
    · have := lines_ended member
      omega
    · exact lines_ended member

theorem openingUnmarked_ended (member : line ∈ openingUnmarked ended) : ∃ old ∈ ended, line.ended = old.ended := by
  cases ended with
  | nil => cases member
  | cons first later =>
    rcases List.mem_cons.mp member with rfl | member
    · exact ⟨first,List.mem_cons_self,rfl⟩
    · exact ⟨line,List.mem_cons_of_mem _ member,rfl⟩

theorem events_ended (after : ∀ line ∈ ended, read < line.ended) (member : event ∈ events data ended) :
    read < event.ended := by
  induction ended generalizing data with
  | nil => cases member
  | cons line later ih =>
    have rest (data : List Bytes) (member : event ∈ events data later) : read < event.ended :=
      ih (fun line member => after line (List.mem_cons_of_mem _ member)) member
    unfold events at member
    split at member
    · split at member
      · exact rest _ member
      · rcases List.mem_cons.mp member with rfl | member
        · exact after line List.mem_cons_self
        · exact rest _ member
    · exact rest _ member

theorem blanks_ended (after : ∀ line ∈ ended, read < line.ended) (member : blank ∈ blanks ended) : read < blank := by
  obtain ⟨line,kept,rfl⟩ := List.mem_map.mp member
  exact after line (List.mem_of_mem_filter kept)

theorem oversized_after (room : read < start + limit + 1) (after : ∀ blank ∈ empty, read < blank)
    (found : oversized limit start length empty = some position) : read < position := by
  induction empty generalizing start with
  | nil =>
    unfold oversized at found
    split at found
    · cases found
      exact room
    · cases found
  | cons blank later ih =>
    unfold oversized at found
    split at found
    · cases found
      exact room
    · have here := after blank List.mem_cons_self
      exact ih (by omega) (fun blank member => after blank (List.mem_cons_of_mem _ member)) found

theorem malformedAt_after (after : ∀ line ∈ ended, read < line.ended)
    (found : malformedAt wellFormed ended = some position) : read < position := by
  obtain ⟨line,first,rfl⟩ := Option.map_eq_some_iff.mp found
  exact after line (List.mem_of_find?_eq_some first)

theorem earlier_some (found : earlier one two = some failure) : one = some failure ∨ two = some failure := by
  cases one with
  | none => exact Or.inr (by cases two <;> exact found)
  | some one =>
    cases two with
    | none => exact Or.inl found
    | some two =>
      simp only [earlier] at found
      split at found
      · exact Or.inl found
      · exact Or.inr found

-- While neither limit has been reached, the next violation is ahead.
theorem violation_after (total : read < limits.total + 1) (room : read < start + limits.event + 1)
    (after : ∀ line ∈ ended, read < line.ended)
    (found : violation wellFormed limits start length ended = some failure) : read < failure.1 := by
  rcases earlier_some found with long | found
  · obtain ⟨position,long,rfl⟩ := Option.map_eq_some_iff.mp long
    unfold overlong at long
    split at long
    · cases long
      exact total
    · cases long
  · rcases earlier_some found with large | bad
    · obtain ⟨position,here,rfl⟩ := Option.map_eq_some_iff.mp large
      exact oversized_after room (fun blank member => blanks_ended after member) here
    · obtain ⟨position,here,rfl⟩ := Option.map_eq_some_iff.mp bad
      exact malformedAt_after after here

theorem earlier_left (first : ∀ failure, two = some failure → position ≤ failure.1) :
    earlier (some (position,broken)) two = some (position,broken) := by
  cases two with
  | none => rfl
  | some two => exact if_pos (first two rfl)

theorem earlier_right (later : ∀ failure, one = some failure → position < failure.1) :
    earlier one (some (position,broken)) = some (position,broken) := by
  cases one with
  | none => rfl
  | some one => exact if_neg (Nat.not_le.mpr (later one rfl))

theorem mapped_after {found : Option Nat} (after : ∀ place, found = some place → position < place)
    (same : found.map (·,broken) = some failure) : position < failure.1 := by
  obtain ⟨place,here,rfl⟩ := Option.map_eq_some_iff.mp same
  exact after place here

theorem overlong_after (room : read < limit + 1) (found : overlong limit length = some position) : read < position := by
  unfold overlong at found
  split at found
  · cases found
    exact room
  · cases found

theorem filter_none {before : List α} (place : α → Nat) (after : ∀ item ∈ before, position < place item) :
    before.filter (place · < position + 1) = [] := by
  rw [List.filter_eq_nil_iff]
  intro item member
  have := after item member
  simp only [decide_eq_true_eq]
  omega

-- When every line ends behind the byte of the violation, nothing else is decoded.
theorem bounded_stopped (after : ∀ line ∈ ended, read < line.ended) :
    bounded limits start length (events data ended) (blanks ended) (some (read + 1,broken)) =
      ⟨[],some broken,read + 1,min (read + 1) limits.total - start⟩ := by
  have none : (events data ended).filter (·.ended < read + 1) = [] :=
    filter_none Event.ended fun event member => events_ended after member
  have noBlank : (blanks ended).filter (· < read + 1) = [] := filter_none id fun blank member => blanks_ended after member
  unfold bounded
  dsimp only [Option.elim_some,Option.map_some]
  rw [none,noBlank,List.getLastD_nil]

theorem decodeLines_tooLarge (total : limits.total = read) (more : read < length) (room : read < start + limits.event + 1)
    (after : ∀ line ∈ ended, read < line.ended) :
    decodeLines wellFormed limits start length data ended = ⟨[],some .tooLarge,read + 1,read - start⟩ := by
  have found : violation wellFormed limits start length ended = some (read + 1,.tooLarge) := by
    unfold violation overlong
    rw [total,if_pos more]
    refine earlier_left fun failure same => ?_
    rcases earlier_some same with large | bad
    · exact mapped_after (fun place => oversized_after room fun blank member => blanks_ended after member) large
    · exact mapped_after (fun place => malformedAt_after after) bad
  unfold decodeLines
  rw [found,bounded_stopped after,total,Nat.min_eq_right (Nat.le_succ read)]

theorem decodeLines_eventTooLarge (total : read < limits.total) (more : read < length)
    (full : read = start + limits.event) (after : ∀ line ∈ ended, read < line.ended) :
    decodeLines wellFormed limits start length data ended = ⟨[],some .eventTooLarge,read + 1,read + 1 - start⟩ := by
  have large : oversized limits.event start length (blanks ended) = some (read + 1) := by
    cases empty : blanks ended with
    | nil =>
      unfold oversized
      rw [if_pos (full ▸ more),full]
    | cons blank later =>
      have behind : read < blank := blanks_ended after (empty ▸ List.mem_cons_self)
      unfold oversized
      rw [if_pos (full ▸ behind),full]
  have found : violation wellFormed limits start length ended = some (read + 1,.eventTooLarge) := by
    unfold violation
    rw [large,Option.map_some,earlier_left]
    · exact earlier_right fun failure same => mapped_after (fun place => overlong_after (Nat.succ_lt_succ total)) same
    · exact fun failure same => mapped_after (fun place => malformedAt_after after) same
  unfold decodeLines
  rw [found,bounded_stopped after,Nat.min_eq_left total]

theorem decodeLines_malformed (total : read < limits.total) (room : read < start + limits.event)
    (here : line.ended = read + 1) (bad : wellFormed line.content = false) (content : line.content ≠ [])
    (after : ∀ later ∈ ended, read + 1 < later.ended) :
    decodeLines wellFormed limits start length data (line :: ended) =
      ⟨[],some .malformed,read + 1,read + 1 - start⟩ := by
  have behind : ∀ each ∈ line :: ended, read < each.ended := by
    intro each member
    rcases List.mem_cons.mp member with rfl | member
    · omega
    · have := after each member
      omega
  have noBlank : blanks (line :: ended) = blanks ended := by
    unfold blanks
    rw [List.filter_cons_of_neg (by simpa using content)]
  have found : violation wellFormed limits start length (line :: ended) = some (read + 1,.malformed) := by
    unfold violation malformedAt
    rw [List.find?_cons_of_pos (by simp [bad]),Option.map_some,Option.map_some,here,noBlank,earlier_right]
    · exact earlier_right fun failure same => mapped_after (fun place => overlong_after (Nat.succ_lt_succ total)) same
    · exact fun failure same => mapped_after (fun place =>
        oversized_after (Nat.succ_lt_succ room) fun blank member => blanks_ended after member) same
  unfold decodeLines
  rw [found,bounded_stopped behind,Nat.min_eq_left total]

def Decoding.behind (before : List Event) (decoding : Decoding) : Decoding :=
  {decoding with events := before ++ decoding.events}

theorem violation_cons (length : Nat) (ended : List Line) (formed : wellFormed line.content = true) (room : line.ended ≤ start + limits.event) :
    violation wellFormed limits start length (line :: ended) =
      violation wellFormed limits (if line.content = [] then line.ended else start) length ended := by
  have bad : malformedAt wellFormed (line :: ended) = malformedAt wellFormed ended := by
    unfold malformedAt
    rw [List.find?_cons_of_neg (by simp [formed])]
  have large : oversized limits.event start length (blanks (line :: ended)) =
      oversized limits.event (if line.content = [] then line.ended else start) length (blanks ended) := by
    unfold blanks
    split
    · rename_i blank
      rw [List.filter_cons_of_pos (by simpa using blank),List.map_cons,oversized,if_neg (Nat.not_lt.mpr room)]
    · rename_i content
      rw [List.filter_cons_of_neg (by simpa using content)]
  unfold violation
  rw [bad,large]

theorem bounded_blank {failure : Option (Nat × Violation)} {found : List Event}
    (kept : blank < failure.elim (length + 1) (·.1)) :
    bounded limits start length found (blank :: empty) failure = bounded limits blank length found empty failure := by
  unfold bounded
  dsimp only
  rw [List.filter_cons,if_pos (decide_eq_true kept),List.getLastD_cons]

theorem bounded_event {failure : Option (Nat × Violation)} {found : List Event}
    (kept : event.ended < failure.elim (length + 1) (·.1)) :
    bounded limits start length (event :: found) empty failure =
      (bounded limits start length found empty failure).behind [event] := by
  unfold bounded Decoding.behind
  dsimp only
  rw [List.filter_cons,if_pos (decide_eq_true kept)]
  rfl

-- An ended line that violates nothing: an event if it is empty and closes data.
theorem decodeLines_cons (formed : wellFormed line.content = true) (room : line.ended ≤ start + limits.event)
    (total : line.ended ≤ limits.total) (inside : line.ended ≤ length) (after : ∀ later ∈ ended, line.ended < later.ended) :
    decodeLines wellFormed limits start length data (line :: ended) =
      if line.content = [] then
        (decodeLines wellFormed limits line.ended length [] ended).behind
          (if data = [] then [] else [⟨joined data,line.ended⟩])
      else decodeLines wellFormed limits start length (data ++ (dataOf line.content).toList) ended := by
  have same := violation_cons length ended formed room
  unfold decodeLines
  rw [same]
  split
  · rename_i blank
    have kept : line.ended < (violation wellFormed limits line.ended length ended).elim (length + 1) (·.1) := by
      cases found : violation wellFormed limits line.ended length ended with
      | none => exact Nat.lt_succ_of_le inside
      | some failure => exact violation_after (Nat.lt_succ_of_le total) (by omega) after found
    have empty : blanks (line :: ended) = line.ended :: blanks ended := by
      unfold blanks
      rw [List.filter_cons_of_pos (by simpa using blank),List.map_cons]
    rw [empty,events,if_pos blank]
    rw [bounded_blank kept]
    split
    · rfl
    · exact bounded_event kept
  · rename_i content
    have empty : blanks (line :: ended) = blanks ended := by
      unfold blanks
      rw [List.filter_cons_of_neg (by simpa using content)]
    rw [empty,events,if_neg content]

theorem decodeLines_nil (total : length ≤ limits.total) (room : length ≤ start + limits.event) :
    decodeLines wellFormed limits start length data [] = ⟨[],none,length,length - start⟩ := by
  have found : violation wellFormed limits start length [] = none := by
    unfold violation overlong
    rw [if_neg (Nat.not_lt.mpr total)]
    simp only [blanks,List.filter_nil,List.map_nil,oversized,if_neg (Nat.not_lt.mpr room),Option.map_none]
    rfl
  unfold decodeLines
  rw [found]
  simp only [bounded,events,blanks,List.filter_nil,List.map_nil,Option.elim_none,Option.map_none,List.getLastD_nil,
    Nat.min_eq_left total]

end EventStream
