import EngineeringPlatform.PythonText
-- `_non_secret`: the pattern of a credential, searched for in any text.
namespace EngineeringPlatform.ModelGateway
open PythonText

-- Without case, four letters beyond ASCII are taken for an ASCII one.
def sameLetter (letter point : Nat) : Bool :=
  lowered point = letter ∨ (letter = 115 ∧ point = 0x17F) ∨ (letter = 107 ∧ point = 0x212A) ∨
    (letter = 105 ∧ (point = 0x130 ∨ point = 0x131))

-- What is left behind a literal in small letters.
def caseless : Text → Text → Option Text
  | [],rest => some rest
  | letter :: literal,point :: rest => if sameLetter letter point then caseless literal rest else none
  | _ :: _,[] => none

def keyCharacter (point : Nat) : Bool :=
  asciiAlphanumeric point ∨ [95,45,0x130,0x131,0x17F,0x212A].contains point

-- `sk-[a-z0-9_-]+`
def secretKey (value : Text) : Bool := (caseless (text "sk-") value).any fun rest => rest.head?.any keyCharacter

-- `bearer\s+\S+`
def bearer (value : Text) : Bool :=
  (caseless (text "bearer") value).any fun rest => rest.head?.any whiteSpace ∧ ¬onlySpace rest

-- Two words, with a `[_-]?` between them.
def joinedWords (first second : String) (value : Text) : Option Text := do
  let rest ← caseless (text first) value
  caseless (text second) (if rest.head?.any fun point => point = 95 ∨ point = 45 then rest.tail else rest)

-- `\s*[:=]`
def assigned (rest : Text) : Bool := (rest.dropWhile whiteSpace).head?.any fun point => point = 58 ∨ point = 61

-- `-----BEGIN .*PRIVATE KEY-----`, on one line.
def privateKey (value : Text) : Bool :=
  (caseless (text "-----begin ") value).any fun rest =>
    (rest.takeWhile (· ≠ 10)).tails.any fun tail => (caseless (text "private key-----") tail).isSome

variable (word : Nat → Bool)

def credentialAt (behind : Option Nat) (value : Text) : Bool :=
  (behind.any word ≠ value.head?.any word ∧
    (secretKey value ∨ bearer value ∨ (joinedWords "api" "key" value).any assigned ∨
      (joinedWords "access" "token" value).any assigned)) ∨ privateKey value

def holdsCredential (behind : Option Nat) : Text → Bool
  | [] => false
  | point :: rest => credentialAt word behind (point :: rest) ∨ holdsCredential (some point) rest

def nonSecret (value : Text) : Option Text := if holdsCredential word none value then none else some value

theorem nonSecret_some : nonSecret word value = some kept ↔ holdsCredential word none value = false ∧ value = kept := by
  unfold nonSecret
  split <;> simp_all

example : nonSecret asciiAlphanumeric (text "Access-Token = x") = none := by decide

end EngineeringPlatform.ModelGateway
