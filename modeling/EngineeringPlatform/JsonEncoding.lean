import EngineeringPlatform.StreamProbes
import Mathlib.Algebra.BigOperators.Group.List.Basic
-- How `json.loads` reads bytes: the encoding is guessed from the first of them.
namespace EngineeringPlatform.ModelGateway
open EventStream PythonText

inductive JsonEncoding where
  | utf8
  | utf16le
  | utf16be
  | utf32le
  | utf32be
  deriving DecidableEq

def JsonEncoding.is16 : JsonEncoding → Bool
  | .utf16le => true
  | .utf16be => true
  | _ => false

-- `detect_encoding`
def detectEncoding (data : Bytes) : JsonEncoding :=
  if data.take 4 = [0x00,0x00,0xFE,0xFF] then .utf32be
  else if data.take 4 = [0xFF,0xFE,0x00,0x00] then .utf32le
  else if data.take 2 = [0xFE,0xFF] then .utf16be
  else if data.take 2 = [0xFF,0xFE] then .utf16le
  else if data.take 3 = byteOrderMark then .utf8
  else match data with
  | [first,second] => if first = 0 then .utf16be else if second = 0 then .utf16le else .utf8
  | first :: second :: third :: fourth :: _ =>
    if first = 0 then if second = 0 then .utf32be else .utf16be
    else if second = 0 then if third = 0 ∧ fourth = 0 then .utf32le else .utf16le
    else .utf8
  | _ => .utf8

def byte (value : Nat) : UInt8 := UInt8.ofNat value

-- A surrogate passes, as a character of three bytes.
def utf8Spelling (point : Nat) : Bytes :=
  if point < 0x80 then [byte point]
  else if point < 0x800 then [byte (0xC0 + point / 64),byte (0x80 + point % 64)]
  else if point < 0x10000 then
    [byte (0xE0 + point / 4096),byte (0x80 + point / 64 % 64),byte (0x80 + point % 64)]
  else [byte (0xF0 + point / 262144),byte (0x80 + point / 4096 % 64),byte (0x80 + point / 64 % 64),byte (0x80 + point % 64)]

def unitsLe (unit : Nat) : Bytes := [byte (unit % 256),byte (unit / 256)]

def utf16Units (point : Nat) : List Nat :=
  if point < 0x10000 then [point] else [0xD800 + (point - 0x10000) / 1024,0xDC00 + (point - 0x10000) % 1024]

def utf32leSpelling (point : Nat) : Bytes :=
  [byte (point % 256),byte (point / 256 % 256),byte (point / 65536 % 256),byte (point / 16777216)]

def JsonEncoding.spelling : JsonEncoding → Nat → Bytes
  | .utf8,point => utf8Spelling point
  | .utf16le,point => (utf16Units point).flatMap unitsLe
  | .utf16be,point => (utf16Units point).flatMap fun unit => (unitsLe unit).reverse
  | .utf32le,point => utf32leSpelling point
  | .utf32be,point => (utf32leSpelling point).reverse

def textWeight (value : Text) : Nat := (value.map encodedLength).sum

-- The UTF-8 size of all strings in a value, keys among them.
mutual
def Json.weight : Json → Nat
  | .text value => textWeight value
  | .list items => itemsWeight items
  | .object fields => fieldsWeight fields
  | _ => 0
termination_by structural value => value
def itemsWeight : List Json → Nat
  | [] => 0
  | item :: later => item.weight + itemsWeight later
termination_by structural items => items
def fieldsWeight : List (Text × Json) → Nat
  | [] => 0
  | field :: later => fieldWeight field + fieldsWeight later
termination_by structural fields => fields
def fieldWeight : Text × Json → Nat
  | (key,value) => textWeight key + value.weight
termination_by structural field => field
end

-- What is relied on of `json.loads`: it reads the text its bytes spell in the guessed
-- encoding, behind a byte order mark if any, and no string of a document is longer
-- than the part of the text that writes it.
structure ReadsJson (loads : Bytes → Option Json) : Prop where
  spelled : ∀ data value, loads data = some value → ∃ mark source,
    data = mark ++ source.flatMap (detectEncoding data).spelling ∧ value.weight ≤ textWeight source

theorem utf8Spelling_length (point : Nat) : (utf8Spelling point).length = encodedLength point := by
  unfold utf8Spelling encodedLength
  split
  · rfl
  · split
    · rfl
    · split <;> rfl

theorem spelling_length {encoding : JsonEncoding} (narrow : encoding.is16 = false) (point : Nat) :
    encodedLength point ≤ (encoding.spelling point).length := by
  have short : encodedLength point ≤ 4 := by
    unfold encodedLength
    split <;> [omega; (split <;> [omega; (split <;> omega)])]
  cases encoding with
  | utf8 => exact (utf8Spelling_length point).ge
  | utf16le => cases narrow
  | utf16be => cases narrow
  | utf32le => exact short
  | utf32be => exact short

-- Only in UTF-16 is a text shorter than in UTF-8.
theorem spelled_length {encoding : JsonEncoding} (narrow : encoding.is16 = false) (source : Text) :
    textWeight source ≤ (source.flatMap encoding.spelling).length := by
  induction source with
  | nil => exact Nat.le_refl 0
  | cons point rest ih =>
    have here := spelling_length narrow point
    unfold textWeight at ih ⊢
    rw [List.flatMap_cons,List.length_append,List.map_cons,List.sum_cons]
    omega

theorem utf8Length_weight {value : Text} {size : Nat} (encoded : utf8Length value = some size) : size = textWeight value := by
  unfold utf8Length at encoded
  split at encoded
  · cases encoded
  · exact (Option.some.inj encoded).symm

theorem at_weight (fields : Fields) (key : String) : (Json.at fields key).weight ≤ fieldsWeight fields := by
  unfold Json.at
  induction fields with
  | nil => exact Nat.le_refl 0
  | cons field later ih =>
    obtain ⟨name,value⟩ := field
    rw [List.lookup_cons,fieldsWeight,fieldWeight]
    split
    · rw [Option.getD_some]
      omega
    · omega

theorem asObject_weight {value : Json} {fields : Fields} (read : value.asObject = some fields) :
    fieldsWeight fields = value.weight := by
  cases value <;> cases read
  rw [Json.weight]

theorem asList_weight {value : Json} {items : List Json} (read : value.asList = some items) :
    itemsWeight items = value.weight := by
  cases value <;> cases read
  rw [Json.weight]

theorem optionalText_weight {value : Json} {content : Text} (read : optionalText value = some content) :
    textWeight content ≤ value.weight := by
  cases value <;> cases read
  · exact Nat.zero_le _
  · rw [Json.weight]

end EngineeringPlatform.ModelGateway
