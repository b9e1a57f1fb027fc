import EngineeringPlatform.PythonText
import EngineeringPlatform.ModelChecks
namespace EngineeringPlatform.ModelGateway
open PythonText

-- What `json.loads` returns. Of a float nothing is read but whether it is zero.
inductive Json where
  | null
  | boolean (value : Bool)
  | integer (value : Int)
  | float (zero : Bool)
  | text (value : Text)
  | list (items : List Json)
  | object (fields : List (Text × Json))

abbrev Fields := List (Text × Json)

-- `dict.get`: a missing key reads as None.
def Json.at (fields : Fields) (key : String) : Json := (fields.lookup (PythonText.text key)).getD .null

def Json.isNull : Json → Bool
  | .null => true
  | _ => false

def Json.truthy : Json → Bool
  | .null => false
  | .boolean value => value
  | .integer value => value ≠ 0
  | .float zero => ¬zero
  | .text value => value ≠ []
  | .list items => ¬items.isEmpty
  | .object fields => ¬fields.isEmpty

def Json.is (literal : String) : Json → Bool
  | .text value => value = PythonText.text literal
  | _ => false

-- Each `raise ValueError` of a parser, whatever its text.
def accept (holds : Bool) : Option Unit := if holds then some () else none

def Json.asObject : Json → Option Fields
  | .object fields => some fields
  | _ => none

def Json.asList : Json → Option (List Json)
  | .list items => some items
  | _ => none

theorem asObject_some {value : Json} : value.asObject = some fields ↔ value = .object fields := by
  cases value <;> simp [Json.asObject]

theorem asList_some {value : Json} : value.asList = some items ↔ value = .list items := by
  cases value <;> simp [Json.asList]

theorem is_blank {value : Json} : value.is "" = true ↔ value = .text [] := by
  cases value <;> simp [Json.is,text]

theorem isNull_true {value : Json} : value.isNull = true ↔ value = .null := by
  cases value <;> simp [Json.isNull]

def opensSecretKey : Text → Bool
  | s :: k :: dash :: _ => lowered s = 115 ∧ lowered k = 107 ∧ dash = 45
  | _ => false

def providerRequestId : Json → Option Text
  | .text value =>
    if identifier asciiAlphanumeric (fun point => asciiAlphanumeric point ∨ [46,95,58,45].contains point) 128 value ∧
        ¬opensSecretKey value then some value
    else none
  | _ => none

def wordCharacter (point : Nat) : Bool := asciiAlphanumeric point ∨ point = 95

-- `\bsk-[a-z0-9_-]+`, behind a character. No other form of a credential can be
-- written in the characters of a model id.
def holdsSecretKey (behind : Option Nat) : Text → Bool
  | [] => false
  | point :: rest =>
    (¬behind.any wordCharacter ∧ opensSecretKey (point :: rest) ∧
      ((rest.drop 2).head?.any fun next => wordCharacter next ∨ next = 45)) ∨ holdsSecretKey (some point) rest

def providerModelId : Json → Option Text
  | .text value =>
    if identifier asciiAlphanumeric (fun point => asciiAlphanumeric point ∨ [46,95,47,45].contains point) 128 value ∧
        ¬holdsSecretKey none value then some value
    else none
  | _ => none

def usageCount : Json → Option (Option Nat)
  | .null => some none
  | .integer value => if 0 ≤ value ∧ value ≤ 2147483647 then some (some value.toNat) else none
  | _ => none

def probeUsage (value : Json) : Option ProbeUsage := do
  let fields ← value.asObject
  pure ⟨← usageCount (Json.at fields "prompt_tokens"),← usageCount (Json.at fields "completion_tokens"),
    ← usageCount (Json.at fields "total_tokens")⟩

end EngineeringPlatform.ModelGateway
