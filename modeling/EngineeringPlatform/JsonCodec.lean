import EngineeringPlatform.IdentityPolicy
import EngineeringPlatform.Trimming
-- Validated models and their JSON: what a model writes it reads back.
namespace JsonCodec
open EngineeringPlatform.Identity
universe u
variable {α : Type u}

abbrev Fields := List (String × JsonValue)

structure Codec (α : Type u) where
  encode : α → JsonValue
  decode : JsonValue → Option α
  present : ∀ value, encode value ≠ .null
  reads : ∀ value, decode (encode value) = some value

def required (fields : Fields) (key : String) (codec : Codec α) : Option α := (fields.lookup key).bind codec.decode

def defaulted (fields : Fields) (key : String) (value : α) (codec : Codec α) : Option α :=
  match fields.lookup key with
  | some found => codec.decode found
  | none => some value

def Codec.encodeOption (codec : Codec α) : Option α → JsonValue
  | some value => codec.encode value
  | none => .null

def Codec.decodeOption (codec : Codec α) : JsonValue → Option (Option α)
  | .null => some none
  | value => (codec.decode value).map some

-- A field that may be null and defaults to it.
def nullable (fields : Fields) (key : String) (codec : Codec α) : Option (Option α) :=
  match fields.lookup key with
  | some found => codec.decodeOption found
  | none => some none

theorem Codec.readsOption (codec : Codec α) (value : Option α) : codec.decodeOption (codec.encodeOption value) = some value := by
  cases value with
  | none => rfl
  | some value =>
    have present := codec.present value
    have read := codec.reads value
    change codec.decodeOption (codec.encode value) = _
    cases written : codec.encode value with
    | null => exact absurd written present
    | _ => rw [written] at read; exact congrArg (Option.map some) read

attribute [simp] Codec.reads Codec.readsOption

def string (check : String → Option α) (write : α → String) (reads : ∀ value, check (write value) = some value) : Codec α where
  encode value := .text (write value)
  decode
    | .text value => check value
    | _ => none
  present _ := nofun
  reads := reads

def boolean : Codec Bool where
  encode := .boolean
  decode
    | .boolean value => some value
    | _ => none
  present _ := nofun
  reads _ := rfl

-- An int of at least `least`.
def integer (least : Int) : Codec {value : Int // least ≤ value} where
  encode value := .integer value
  decode
    | .integer value => if within : least ≤ value then some ⟨value,within⟩ else none
    | _ => none
  present _ := nofun
  reads value := dif_pos value.2

def literalInteger (only : Int) : Codec Unit where
  encode _ := .integer only
  decode
    | .integer value => if value = only then some () else none
    | _ => none
  present _ := nofun
  reads _ := if_pos rfl

def literal (only : String) : Codec Unit :=
  string (fun value => if value = only then some () else none) (fun _ => only) fun _ => if_pos rfl

-- An enumeration by the values of its members.
def enumeration (members : List α) (name : α → String)
    (reads : ∀ value, members.find? (fun member => name member = name value) = some value) : Codec α :=
  string (fun value => members.find? fun member => name member = value) name reads

-- A model that forbids other fields than its own.
def model (keys : List String) (write : α → Fields) (read : Fields → Option α)
    (named : ∀ value, ∀ field ∈ write value, field.1 ∈ keys) (reads : ∀ value, read (write value) = some value) : Codec α where
  encode value := .object (write value)
  decode
    | .object fields => if fields.all (fun field => field.1 ∈ keys) then read fields else none
    | _ => none
  present _ := nofun
  reads value := (if_pos (List.all_eq_true.mpr fun field member => decide_eq_true (named value field member))).trans (reads value)

-- Unicode White_Space, which is what `strip_whitespace` strips.
def isWhiteSpace (char : Char) : Bool :=
  let point := char.toNat
  (9 ≤ point ∧ point ≤ 13) ∨ point = 0x20 ∨ point = 0x85 ∨ point = 0xA0 ∨ point = 0x1680 ∨
    (0x2000 ≤ point ∧ point ≤ 0x200A) ∨ point = 0x2028 ∨ point = 0x2029 ∨ point = 0x202F ∨ point = 0x205F ∨ point = 0x3000

def stripped (chars : List Char) : List Char := (chars.dropWhile isWhiteSpace).rdropWhile isWhiteSpace

theorem stripped_stripped (chars : List Char) : stripped (stripped chars) = stripped chars := Trimming.trim_trim

structure NonEmptyStr where
  value : String
  trimmed : stripped value.toList = value.toList
  filled : value ≠ ""

def nonEmpty : Codec NonEmptyStr :=
  string (fun value =>
      let value := String.ofList (stripped value.toList)
      if filled : value ≠ "" then some ⟨value,by simp [value,stripped_stripped],filled⟩ else none)
    NonEmptyStr.value fun value => by
      have same : String.ofList (stripped value.value.toList) = value.value := by rw [value.trimmed,String.ofList_toList]
      simp [same,value.filled]

-- A str that matches a pattern.
def pattern (holds : String → Bool) : Codec {value : String // holds value = true} :=
  string (fun value => if matched : holds value = true then some ⟨value,matched⟩ else none) Subtype.val fun value => dif_pos value.2

def secret : Codec String := string some id fun _ => rfl
end JsonCodec
