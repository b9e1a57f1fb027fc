import EngineeringPlatform.PythonText
namespace EngineeringPlatform

-- Platform identifiers are UUIDs: 128-bit values which the code compares,
-- stores and renders. A time is an instant of the injected clock.
abbrev Uuid := Nat
abbrev Time := Nat

def blankCharacter (character : Char) : Bool := PythonText.whiteSpace character.toNat

-- `not text.strip()`, and what `strip()` leaves.
def blank (text : String) : Bool := text.toList.all blankCharacter

def strip (text : String) : String :=
  String.ofList ((text.toList.dropWhile blankCharacter).reverse.dropWhile blankCharacter).reverse

def shaDigit (character : Char) : Bool := character.isDigit || ('a' ≤ character && character ≤ 'f')

-- _COMMIT_SHA
def commitSha (text : String) : Bool := text.toList.length = 40 && text.toList.all shaDigit

-- _SHA256, _is_canonical_sha256
def canonicalSha256 (text : String) : Bool :=
  text.toList.take 7 = "sha256:".toList && text.toList.length = 71 && (text.toList.drop 7).all shaDigit

end EngineeringPlatform
