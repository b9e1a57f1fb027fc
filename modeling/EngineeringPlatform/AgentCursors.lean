import EngineeringPlatform.AgentDomain
import EngineeringPlatform.Base64
import EngineeringPlatform.CanonicalCodec
import Mathlib.Data.Nat.Digits.Defs
namespace EngineeringPlatform.Agent
open CanonicalCodec CanonicalJson PythonText

-- What the cursors take from elsewhere: the texts of identifiers and `str(UUID(text))`,
-- `isoformat` and `fromisoformat` of an aware time, `json.loads`, and HMAC-SHA256.
structure CursorWire where
  uuidText : Uuid → Text
  parseUuid : Text → Option Uuid
  isoformat : Time → Text
  fromisoformat : Text → Option Time
  loads : Text → Option Json
  signature : Text → Text

def printable (point : Nat) : Bool := 32 ≤ point ∧ point ≤ 126

def Printable (value : Text) : Prop := ∀ point ∈ value, printable point = true

-- The values that cursors hold: numbers, null and texts in ASCII.
inductive Plain : Json → Prop where
  | null : Plain .null
  | integer (value : Int) : Plain (.integer value)
  | text (spelled : Printable value) : Plain (.text value)

structure CursorWire.Lawful (wire : CursorWire) : Prop where
  uuidPrintable : ∀ id, Printable (wire.uuidText id)
  uuid : ∀ id, wire.parseUuid (wire.uuidText id) = some id
  timePrintable : ∀ time, Printable (wire.isoformat time)
  time : ∀ time, wire.fromisoformat (wire.isoformat time) = some time
  loadsList : ∀ items, (∀ item ∈ items, Plain item) → wire.loads (asciiWrite (.list items)) = some (.list items)
  loadsObject : ∀ fields : List (Text × Json), (fields.map Prod.fst).Nodup →
    (∀ field ∈ fields, Printable field.1 ∧ Plain field.2) →
    wire.loads (asciiWrite (.object fields)) = some (.object fields)
  signed : ∀ payload, Base64.Bytes (wire.signature payload) ∧ wire.signature payload ≠ []

def RunState.value : RunState → String
  | .active => "ACTIVE"
  | .succeeded => "SUCCEEDED"
  | .failed => "FAILED"
  | .canceled => "CANCELED"
  | .timedOut => "TIMED_OUT"

def stateJson : Option RunState → Json
  | none => .null
  | some state => .text (text state.value)

variable (wire : CursorWire)

def runCursorValues (workspaceId : Uuid) (state : Option RunState) (createdAt : Time) (id : Uuid) : Json :=
  .list [.integer 1,.text (wire.uuidText workspaceId),stateJson state,.text (wire.isoformat createdAt),
    .text (wire.uuidText id)]

def runCursor (workspaceId : Uuid) (state : Option RunState) (createdAt : Time) (id : Uuid) : Text :=
  Base64.encode (asciiWrite (runCursorValues wire workspaceId state createdAt id))

def sameState (value : Json) (state : Option RunState) : Bool :=
  match value, state with
  | .null, none => true
  | .text value, some state => value = text state.value
  | _, _ => false

-- The position behind which a page of this Workspace and state starts.
def readRunCursor (workspaceId : Uuid) (state : Option RunState) (cursor : Text) : Option (Time × Uuid) := do
  let values ← wire.loads (← Base64.decode cursor)
  match values with
  | .list [.integer version,.text workspace,filtered,.text created,.text id] =>
    if version = 1 ∧ workspace = wire.uuidText workspaceId ∧ sameState filtered state = true then do
      let beforeAt ← wire.fromisoformat created
      let beforeId ← wire.parseUuid id
      pure (beforeAt,beforeId)
    else none
  | _ => none

def urlDigit (point : Nat) : Bool := asciiAlphanumeric point ∨ point = 45 ∨ point = 95

def signedParts (payload : Text) : Text :=
  text "v1" ++ 46 :: (Base64.encodeBare payload ++ 46 :: Base64.encodeBare (wire.signature payload))

-- `DevEventCursorCodec.encode`
def encodeEventCursor (runId eventId : Text) : Text :=
  signedParts wire (asciiDumps (.object [(text "event",.text eventId),(text "run",.text runId),(text "v",.integer 1)]))

def decodePart (value : Text) : Option Text := do
  if value ≠ [] ∧ value.all urlDigit then
    let decoded ← Base64.decodeBare value
    if Base64.encodeBare decoded = value then pure decoded else none
  else none

-- `decoded["v"] == 1`, which also holds of True.
def versionOne : Json → Bool
  | .integer value => value = 1
  | .boolean value => value
  | _ => false

def readEventPayload (runId : Text) : Json → Option Text
  | .object fields =>
    if fields.length = 3 then
      match fields.lookup (text "event"), fields.lookup (text "run"), fields.lookup (text "v") with
      | some (.text event), some (.text run), some version =>
        if versionOne version = true ∧ run = runId then some event else none
      | _, _, _ => none
    else none
  | _ => none

-- `DevEventCursorCodec.decode`
def decodeEventCursor (runId cursor : Text) : Option Text :=
  match cursor.splitOn 46 with
  | [version,body,signed] =>
    if version = text "v1" then do
      let payload ← decodePart body
      let signature ← decodePart signed
      if signature = wire.signature payload then do
        let decoded ← wire.loads payload
        readEventPayload runId decoded
      else none
    else none
  | _ => none

section Writing

theorem printable_text {literal : String} (checked : (text literal).all printable = true) : Printable (text literal) :=
  fun point member => List.all_eq_true.mp checked point member

theorem Printable.append {one two : Text} (first : Printable one) (second : Printable two) : Printable (one ++ two) := by
  intro point member
  rcases List.mem_append.mp member with left | right
  · exact first point left
  · exact second point right

theorem Printable.cons {rest : Text} (here : printable point = true) (others : Printable rest) : Printable (point :: rest) :=
  List.forall_mem_cons.mpr ⟨here,others⟩

theorem Printable.nil : Printable [] := nofun

theorem escaped_printable {point : Nat} (spelled : printable point = true) : Printable (escaped point) := by
  simp only [printable,decide_eq_true_eq] at spelled
  have shapes : escaped point = [92,34] ∨ escaped point = [92,92] ∨ escaped point = [point] := by
    unfold escaped
    by_cases quote : point = 34
    · exact .inl (if_pos quote)
    · by_cases slash : point = 92
      · exact .inr (.inl (by rw [if_neg quote,if_pos slash]))
      · refine .inr (.inr ?_)
        rw [if_neg quote,if_neg slash,if_neg (by omega),if_neg (by omega),if_neg (by omega),if_neg (by omega),
          if_neg (by omega),if_neg (by omega)]
  rcases shapes with shape | shape | shape <;> rw [shape]
  · exact .cons rfl (.cons rfl .nil)
  · exact .cons rfl (.cons rfl .nil)
  · exact .cons (by simpa [printable] using spelled) .nil

theorem quoted_printable {value : Text} (spelled : Printable value) : Printable (quoted value) := by
  refine .cons rfl (.append ?_ (.cons rfl .nil))
  intro point member
  obtain ⟨source,inside,there⟩ := List.mem_flatMap.mp member
  exact escaped_printable (spelled source inside) point there

theorem decimal_printable (number : Nat) : Printable (decimal number) := by
  intro point member
  have digit := decimal_digit member
  simp only [asciiDigit,decide_eq_true_eq] at digit
  simp only [printable,decide_eq_true_eq]
  omega

theorem Plain.printable {value : Json} (plain : Plain value) : Printable value.write := by
  cases plain with
  | null => exact printable_text (by decide)
  | integer value =>
    simp only [Json.write,writeInteger]
    split
    · exact .cons rfl (decimal_printable _)
    · exact decimal_printable _
  | text spelled => exact quoted_printable spelled

theorem joined_printable {parts : List Text} (each : ∀ part ∈ parts, Printable part) : Printable (joined parts) := by
  cases parts with
  | nil => exact .nil
  | cons part rest =>
    obtain ⟨first,others⟩ := List.forall_mem_cons.mp each
    refine first.append fun point member => ?_
    obtain ⟨later,inside,there⟩ := List.mem_flatMap.mp member
    exact (Printable.cons (by rfl : printable 44 = true) (others later inside)) point there

theorem list_printable {items : List Json} (plain : ∀ item ∈ items, Plain item) :
    Printable (Json.list items).write := by
  simp only [Json.write,writeItems_map]
  refine .cons rfl (.append (joined_printable ?_) (.cons rfl .nil))
  exact List.forall_mem_map.mpr fun item member => (plain item member).printable

theorem object_printable {fields : List (Text × Json)} (plain : ∀ field ∈ fields, Printable field.1 ∧ Plain field.2) :
    Printable (Json.object fields).write := by
  simp only [Json.write,writeFields_map]
  refine .cons rfl (.append (joined_printable ?_) (.cons rfl .nil))
  refine List.forall_mem_map.mpr fun (key,value) member => ?_
  obtain ⟨named,holds⟩ := plain _ member
  rw [writeField]
  exact (quoted_printable named).append (.cons rfl holds.printable)

-- Nothing in a printable text needs an escape.
theorem asciiWrite_printable {value : Json} (spelled : Printable value.write) : asciiWrite value = value.write := by
  have same : ∀ written : Text, Printable written → written.flatMap asciiEscape = written := by
    intro written clean
    induction written with
    | nil => rfl
    | cons point rest ih =>
      obtain ⟨here,others⟩ := List.forall_mem_cons.mp clean
      simp only [printable,decide_eq_true_eq] at here
      rw [List.flatMap_cons,ih others,asciiEscape,if_pos (by omega)]
      rfl
  exact same _ spelled

theorem Printable.bytes {value : Text} (spelled : Printable value) : Base64.Bytes value := by
  intro point member
  have here := spelled point member
  simp only [printable,decide_eq_true_eq] at here
  omega

end Writing

section Reading
variable {wire : CursorWire} (lawful : wire.Lawful)
include lawful

theorem runCursorValues_plain (workspaceId : Uuid) (state : Option RunState) (createdAt : Time) (id : Uuid) :
    ∀ item ∈ [Json.integer 1,.text (wire.uuidText workspaceId),stateJson state,.text (wire.isoformat createdAt),
      .text (wire.uuidText id)], Plain item := by
  have filtered : Plain (stateJson state) := by
    cases state with
    | none => exact .null
    | some state => exact .text (printable_text (by cases state <;> decide))
  simp only [List.forall_mem_cons]
  exact ⟨.integer 1,.text (lawful.uuidPrintable _),filtered,.text (lawful.timePrintable _),
    .text (lawful.uuidPrintable _),nofun⟩

theorem runCursor_values (workspaceId : Uuid) (state : Option RunState) (createdAt : Time) (id : Uuid) :
    (Base64.decode (runCursor wire workspaceId state createdAt id)).bind wire.loads =
      some (runCursorValues wire workspaceId state createdAt id) := by
  have plain := runCursorValues_plain lawful workspaceId state createdAt id
  have spelled := list_printable plain
  have bytes : Base64.Bytes (asciiWrite (runCursorValues wire workspaceId state createdAt id)) := by
    unfold runCursorValues
    rw [asciiWrite_printable spelled]
    exact spelled.bytes
  rw [runCursor,Base64.decode_encode _ bytes,Option.bind_some]
  exact lawful.loadsList _ plain

omit lawful in
theorem sameState_iff {state other : Option RunState} : sameState (stateJson other) state = true ↔ other = state := by
  rcases other with _ | one <;> rcases state with _ | two
  · simp [stateJson,sameState]
  · simp [stateJson,sameState]
  · simp [stateJson,sameState]
  · cases one <;> cases two <;> simp [stateJson,sameState] <;> decide

theorem uuidText_injective {one two : Uuid} (same : wire.uuidText one = wire.uuidText two) : one = two :=
  Option.some.inj ((lawful.uuid one).symm.trans (same ▸ lawful.uuid two))

-- A cursor gives back its position to the query it was issued for, and to no other.
theorem readRunCursor_runCursor (workspaceId other : Uuid) (state filter : Option RunState) (createdAt : Time) (id : Uuid) :
    readRunCursor wire other filter (runCursor wire workspaceId state createdAt id) =
      if workspaceId = other ∧ state = filter then some (createdAt,id) else none := by
  have values := runCursor_values lawful workspaceId state createdAt id
  obtain ⟨bytes,decoded,loaded⟩ := Option.bind_eq_some_iff.mp values
  have workspace : wire.uuidText workspaceId = wire.uuidText other ↔ workspaceId = other :=
    ⟨uuidText_injective lawful,congrArg _⟩
  unfold readRunCursor
  rw [decoded]
  simp only [Option.bind_eq_bind,Option.bind_some,loaded,runCursorValues,workspace,sameState_iff,true_and,
    lawful.time,lawful.uuid,Option.pure_def]

omit lawful in
theorem eventPayload_plain (run : Printable runId) (event : Printable eventId) :
    ∀ field ∈ [(text "event",Json.text eventId),(text "run",.text runId),(text "v",.integer 1)],
      Printable field.1 ∧ Plain field.2 := by
  simp only [List.forall_mem_cons]
  exact ⟨⟨printable_text (by decide),.text event⟩,⟨printable_text (by decide),.text run⟩,
    ⟨printable_text (by decide),.integer 1⟩,nofun⟩

-- The keys of the payload are in order already.
omit lawful in
theorem eventPayload_sorted (runId eventId : Text) :
    asciiDumps (.object [(text "event",.text eventId),(text "run",.text runId),(text "v",.integer 1)]) =
      asciiWrite (.object [(text "event",.text eventId),(text "run",.text runId),(text "v",.integer 1)]) := by
  have one : text "event" ≤ text "run" := by decide
  have two : text "run" ≤ text "v" := by decide
  simp [asciiDumps,asciiWrite,dumps,Json.sortKeys,sortValues,sortValue,sortFields,one,two]

omit lawful in
theorem urlDigit_digit {number : Nat} (small : number < 64) : urlDigit (Base64.digit number) = true := by
  interval_cases number <;> rfl

omit lawful in
theorem encodeBare_urlDigits (valid : Base64.Bytes bytes) : (Base64.encodeBare bytes).all urlDigit = true := by
  refine List.all_eq_true.mpr fun point member => ?_
  obtain ⟨number,small,rfl⟩ := Base64.encodeBare_digits bytes valid point member
  exact urlDigit_digit small

omit lawful in
theorem encodeBare_dotless (valid : Base64.Bytes bytes) : 46 ∉ Base64.encodeBare bytes := by
  intro member
  have digit := List.all_eq_true.mp (encodeBare_urlDigits valid) 46 member
  exact absurd digit (by decide)

omit lawful in
theorem decodePart_encodeBare (valid : Base64.Bytes bytes) (filled : bytes ≠ []) :
    decodePart (Base64.encodeBare bytes) = some bytes := by
  have written : Base64.encodeBare bytes ≠ [] := by
    intro blank
    exact filled (Base64.encodeBare_injective valid (show Base64.Bytes [] from nofun) blank)
  unfold decodePart
  rw [if_pos ⟨written,encodeBare_urlDigits valid⟩,Base64.decodeBare_encodeBare bytes valid]
  simp

omit lawful in
theorem decodePart_some (decoded : decodePart value = some bytes) : Base64.encodeBare bytes = value := by
  unfold decodePart at decoded
  split at decoded
  · obtain ⟨found,_,checked⟩ := Option.bind_eq_some_iff.mp decoded
    split at checked
    · rename_i same
      cases Option.some.inj checked
      exact same
    · cases checked
  · cases decoded

-- What the codec signs it reads back, for the run it was signed for only.
theorem decodeEventCursor_encode {runId eventId : Text} (run : Printable runId) (event : Printable eventId) (other : Text) :
    decodeEventCursor wire other (encodeEventCursor wire runId eventId) =
      if runId = other then some eventId else none := by
  have plain := eventPayload_plain run event
  have spelled := object_printable plain
  have distinct : ([(text "event",Json.text eventId),(text "run",.text runId),(text "v",.integer 1)].map Prod.fst).Nodup := by
    simp only [List.map_cons,List.map_nil]
    decide
  have loaded := lawful.loadsObject _ distinct plain
  rw [encodeEventCursor,eventPayload_sorted]
  generalize payloadIs : asciiWrite (.object [(text "event",.text eventId),(text "run",.text runId),(text "v",.integer 1)]) =
    payload at loaded
  have bytes : Base64.Bytes payload := by
    rw [←payloadIs,asciiWrite_printable spelled]
    exact spelled.bytes
  have filled : payload ≠ [] := by
    rw [←payloadIs,asciiWrite_printable spelled]
    simp [Json.write]
  obtain ⟨signed,signs⟩ := lawful.signed payload
  have parts : (signedParts wire payload).splitOn 46 =
      [text "v1",Base64.encodeBare payload,Base64.encodeBare (wire.signature payload)] := by
    rw [signedParts,List.splitOn_append_cons_self_of_not_mem (by decide),
      List.splitOn_append_cons_self_of_not_mem (encodeBare_dotless bytes),
      List.splitOn_eq_singleton (encodeBare_dotless signed)]
  have keys : (text "run" == text "event") = false ∧ (text "v" == text "event") = false ∧
      (text "v" == text "run") = false := by decide
  unfold decodeEventCursor
  rw [parts]
  simp [decodePart_encodeBare bytes filled,decodePart_encodeBare signed signs,loaded,readEventPayload,versionOne,
    List.lookup_cons,keys]

omit lawful in
-- An accepted cursor is the only spelling of its payload, with the signature of it.
theorem decodeEventCursor_canonical (decoded : decodeEventCursor wire runId cursor = some eventId) :
    ∃ payload, cursor = signedParts wire payload ∧ (wire.loads payload).bind (readEventPayload runId) = some eventId := by
  unfold decodeEventCursor at decoded
  split at decoded
  · rename_i version body signed parts
    split at decoded
    · rename_i current
      obtain ⟨payload,read,decoded⟩ := Option.bind_eq_some_iff.mp decoded
      obtain ⟨signature,readSigned,decoded⟩ := Option.bind_eq_some_iff.mp decoded
      split at decoded
      · rename_i same
        refine ⟨payload,?_,decoded⟩
        have whole : [46].intercalate (cursor.splitOn 46) = cursor := List.intercalate_splitOn 46
        rw [parts] at whole
        rw [signedParts,←same,decodePart_some read,decodePart_some readSigned,←current]
        simpa [List.intercalate] using whole.symm
      · cases decoded
    · cases decoded
  · cases decoded

-- The codec reads back what it signed, for its own run only; and a cursor that it accepts
-- is spelled in one way, which its payload and the signature of it determine.
theorem event_cursor_exact :
    (∀ runId eventId other, Printable runId → Printable eventId →
      decodeEventCursor wire other (encodeEventCursor wire runId eventId) =
        if runId = other then some eventId else none) ∧
    (∀ runId cursor eventId, decodeEventCursor wire runId cursor = some eventId →
      ∃ payload, cursor = signedParts wire payload ∧
        (wire.loads payload).bind (readEventPayload runId) = some eventId) :=
  ⟨fun _ _ other run event => decodeEventCursor_encode lawful run event other,
    fun _ _ _ decoded => decodeEventCursor_canonical decoded⟩

end Reading

section Samples

def padded (base width number : Nat) : List Nat :=
  Nat.digits base number ++ List.replicate (width - (Nat.digits base number).length) 0

theorem padded_value (base width number : Nat) : Nat.ofDigits base (padded base width number) = number := by
  rw [padded,Nat.ofDigits_append_replicate_zero,Nat.ofDigits_digits]

theorem padded_small {base width number : Nat} (large : 1 < base) : ∀ digit ∈ padded base width number, digit < base := by
  intro digit member
  rcases List.mem_append.mp member with written | filled
  · exact Nat.digits_lt_base large written
  · rw [List.eq_of_mem_replicate filled]
    omega

-- `str(UUID(...))`: 32 hexadecimal digits in five groups.
def hexDigits (id : Uuid) : Text := ((padded 16 32 id).map hexPoint).reverse

def hexUuid (id : Uuid) : Text :=
  (hexDigits id).take 8 ++ 45 :: (((hexDigits id).drop 8).take 4 ++ 45 :: ((((hexDigits id).drop 8).drop 4).take 4 ++
    45 :: (((((hexDigits id).drop 8).drop 4).drop 4).take 4 ++ 45 :: ((((hexDigits id).drop 8).drop 4).drop 4).drop 4)))

def unhex (point : Nat) : Nat := if point < 58 then point - 48 else point - 87

def parseHex (value : Text) : Option Uuid :=
  some (Nat.ofDigits 16 ((value.filter (· ≠ 45)).reverse.map unhex))

theorem hexPoint_small {digit : Nat} (small : digit < 16) :
    unhex (hexPoint digit) = digit ∧ hexPoint digit ≠ 45 ∧ printable (hexPoint digit) = true := by
  interval_cases digit <;> decide

theorem hexDigits_points (id : Uuid) : ∀ point ∈ hexDigits id, point ≠ 45 ∧ printable point = true := by
  intro point member
  obtain ⟨digit,inside,rfl⟩ := List.mem_map.mp (List.mem_reverse.mp member)
  exact (hexPoint_small (padded_small (by decide) digit inside)).2

theorem hexUuid_printable (id : Uuid) : Printable (hexUuid id) := by
  have piece {part : Text} (inside : ∀ point ∈ part, point ∈ hexDigits id) : Printable part := fun point member =>
    (hexDigits_points id point (inside point member)).2
  refine (piece fun _ => List.mem_of_mem_take).append (.cons rfl (.append (piece ?_) (.cons rfl (.append (piece ?_)
    (.cons rfl (.append (piece ?_) (.cons rfl (piece ?_))))))))
  · exact fun _ member => List.mem_of_mem_drop (List.mem_of_mem_take member)
  · exact fun _ member => List.mem_of_mem_drop (List.mem_of_mem_drop (List.mem_of_mem_take member))
  · exact fun _ member => List.mem_of_mem_drop (List.mem_of_mem_drop (List.mem_of_mem_drop (List.mem_of_mem_take member)))
  · exact fun _ member => List.mem_of_mem_drop (List.mem_of_mem_drop (List.mem_of_mem_drop (List.mem_of_mem_drop member)))

theorem read_padded {write read : Nat → Nat} {base width : Nat} (large : 1 < base)
    (inverse : ∀ digit < base, read (write digit) = digit) (number : Nat) :
    Nat.ofDigits base (((padded base width number).map write).map read) = number := by
  have same : ((padded base width number).map write).map read = padded base width number := by
    rw [List.map_map]
    exact (List.map_congr_left fun digit inside => inverse digit (padded_small large digit inside)).trans (List.map_id _)
  rw [same,padded_value]

theorem parseHex_hexUuid (id : Uuid) : parseHex (hexUuid id) = some id := by
  have bare {part : Text} (inside : ∀ point ∈ part, point ∈ hexDigits id) : part.filter (· ≠ 45) = part :=
    List.filter_eq_self.mpr fun point member => by simpa using (hexDigits_points id point (inside point member)).1
  have dash (rest : Text) : (45 :: rest).filter (· ≠ 45) = rest.filter (· ≠ 45) := by simp
  have whole : (hexUuid id).filter (· ≠ 45) = hexDigits id := by
    simp only [hexUuid,List.filter_append,dash]
    rw [bare fun _ => List.mem_of_mem_take,bare fun _ member => List.mem_of_mem_drop (List.mem_of_mem_take member),
      bare fun _ member => List.mem_of_mem_drop (List.mem_of_mem_drop (List.mem_of_mem_take member)),
      bare fun _ member => List.mem_of_mem_drop (List.mem_of_mem_drop (List.mem_of_mem_drop (List.mem_of_mem_take member))),
      bare fun _ member => List.mem_of_mem_drop (List.mem_of_mem_drop (List.mem_of_mem_drop (List.mem_of_mem_drop member))),
      List.take_append_drop,List.take_append_drop,List.take_append_drop,List.take_append_drop]
  rw [parseHex,whole,hexDigits,List.reverse_reverse,read_padded (by decide) fun digit small => (hexPoint_small small).1]

-- `isoformat` in the first second of 1970, with its microseconds.
def microPoints (time : Time) : Text := ((padded 10 6 time).map (48 + ·)).reverse

def microTime (time : Time) : Text := text "1970-01-01T00:00:00." ++ (microPoints time ++ text "+00:00")

def readMicroTime (value : Text) : Option Time :=
  some (Nat.ofDigits 10 (((value.drop 20).take (value.length - 26)).reverse.map (· - 48)))

theorem microPoints_printable (time : Time) : Printable (microPoints time) := by
  intro point member
  obtain ⟨digit,inside,rfl⟩ := List.mem_map.mp (List.mem_reverse.mp member)
  have small := padded_small (by decide) digit inside
  simp only [printable,decide_eq_true_eq]
  omega

theorem readMicroTime_microTime (time : Time) : readMicroTime (microTime time) = some time := by
  have head : (text "1970-01-01T00:00:00.").length = 20 := rfl
  have tail : (text "+00:00").length = 6 := rfl
  have size : (microTime time).length - 26 = (microPoints time).length := by
    simp only [microTime,List.length_append,head,tail]
    omega
  have middle : ((microTime time).drop 20).take ((microTime time).length - 26) = microPoints time := by
    rw [size,microTime,←head,List.drop_left,List.take_left]
  rw [readMicroTime,middle,microPoints,List.reverse_reverse,
    read_padded (by decide) fun digit _ => Nat.add_sub_cancel_left 48 digit]

-- `json.loads` of a list or an object that was written of such values.
inductive Flat : Json → Prop where
  | list (plain : ∀ item ∈ items, Plain item) : Flat (.list items)
  | object (plain : ∀ field ∈ fields, Printable field.1 ∧ Plain field.2) : Flat (.object fields)

theorem Flat.written {value : Json} (flat : Flat value) : asciiWrite value = value.write := by
  cases flat with
  | list plain => exact asciiWrite_printable (list_printable plain)
  | object plain => exact asciiWrite_printable (object_printable plain)

open Classical in
noncomputable def writtenJson (source : Text) : Option Json :=
  if written : ∃ value, Flat value ∧ asciiWrite value = source then some written.choose else none

theorem writtenJson_flat {value : Json} (flat : Flat value) : writtenJson (asciiWrite value) = some value := by
  have written : ∃ other, Flat other ∧ asciiWrite other = asciiWrite value := ⟨value,flat,rfl⟩
  have chosen := written.choose_spec
  rw [writtenJson,dif_pos written]
  exact congrArg some (write_injective ((chosen.1.written.symm.trans chosen.2).trans flat.written))

-- HMAC-SHA256 under the key of the codec, for two events of one run.
def sampleSignature (payload : Text) : Text :=
  if payload = text "\x7b\"event\":\"00000000-0000-0000-0000-00000000001f\",\"run\":\"00000000-0000-0000-0000-000000000005\",\"v\":1\x7d" then
    [252,135,137,250,39,198,202,170,220,38,158,240,45,2,189,169,145,38,176,118,12,195,225,11,178,21,137,144,209,99,55,58]
  else if payload = text "\x7b\"event\":\"00000000-0000-0000-0000-000000000021\",\"run\":\"00000000-0000-0000-0000-000000000005\",\"v\":1\x7d" then
    [236,144,246,157,99,130,13,173,140,45,142,81,139,80,158,91,110,188,247,27,149,3,134,172,75,216,118,34,126,152,3,213]
  else List.replicate 32 0

noncomputable def sampleWire : CursorWire :=
  ⟨hexUuid,parseHex,microTime,readMicroTime,writtenJson,sampleSignature⟩

theorem sampleWire_lawful : sampleWire.Lawful where
  uuidPrintable := hexUuid_printable
  uuid := parseHex_hexUuid
  timePrintable time := (printable_text (by decide)).append ((microPoints_printable time).append (printable_text (by decide)))
  time := readMicroTime_microTime
  loadsList items plain := writtenJson_flat (.list plain)
  loadsObject fields _ plain := writtenJson_flat (.object plain)
  signed payload := by
    change Base64.Bytes (sampleSignature payload) ∧ sampleSignature payload ≠ []
    unfold sampleSignature
    split
    · exact ⟨by decide,nofun⟩
    · split
      · exact ⟨by decide,nofun⟩
      · exact ⟨by decide,nofun⟩

theorem event_cursor_exact_sample :
    decodeEventCursor sampleWire (hexUuid 5) (encodeEventCursor sampleWire (hexUuid 5) (hexUuid 31)) = some (hexUuid 31) ∧
    decodeEventCursor sampleWire (hexUuid 6) (encodeEventCursor sampleWire (hexUuid 5) (hexUuid 31)) = none := by
  obtain ⟨reads,_⟩ := event_cursor_exact sampleWire_lawful
  have apart : hexUuid 5 ≠ hexUuid 6 := by
    intro same
    exact absurd (uuidText_injective sampleWire_lawful (same : sampleWire.uuidText 5 = sampleWire.uuidText 6)) (by decide)
  exact ⟨by rw [reads _ _ _ (hexUuid_printable 5) (hexUuid_printable 31),if_pos rfl],
    by rw [reads _ _ _ (hexUuid_printable 5) (hexUuid_printable 31),if_neg apart]⟩

end Samples

end EngineeringPlatform.Agent
