import Mathlib.Algebra.GroupWithZero.Nat
import Mathlib.Data.List.Basic
-- Python's str, by its code points. Unlike a String it can hold a lone surrogate,
-- which has no encoding.
namespace PythonText

abbrev Text := List Nat

instance textLawful : LawfulBEq Text := inferInstance

def text (literal : String) : Text := literal.toList.map Char.toNat

def whiteSpace (point : Nat) : Bool :=
  (9 ≤ point ∧ point ≤ 13) ∨ (28 ≤ point ∧ point ≤ 32) ∨ point = 0x85 ∨ point = 0xA0 ∨ point = 0x1680 ∨
    (0x2000 ≤ point ∧ point ≤ 0x200A) ∨ point = 0x2028 ∨ point = 0x2029 ∨ point = 0x202F ∨ point = 0x205F ∨
    point = 0x3000

-- `strip()` leaves nothing.
def onlySpace (value : Text) : Bool := value.all whiteSpace

def surrogate (point : Nat) : Bool := 0xD800 ≤ point ∧ point ≤ 0xDFFF

def encodedLength (point : Nat) : Nat :=
  if point < 0x80 then 1 else if point < 0x800 then 2 else if point < 0x10000 then 3 else 4

-- The length of `encode("utf-8")`, which a surrogate makes raise.
def utf8Length (value : Text) : Option Nat :=
  if value.any surrogate then none else some (value.map encodedLength).sum

def asciiDigit (point : Nat) : Bool := 48 ≤ point ∧ point ≤ 57
def asciiUpper (point : Nat) : Bool := 65 ≤ point ∧ point ≤ 90
def asciiLower (point : Nat) : Bool := 97 ≤ point ∧ point ≤ 122
def asciiAlphanumeric (point : Nat) : Bool := asciiDigit point ∨ asciiUpper point ∨ asciiLower point
def lowered (point : Nat) : Nat := if asciiUpper point then point + 32 else point

-- The texts of a class of first characters, a class of others and a greatest length.
def identifier (first other : Nat → Bool) (longest : Nat) : Text → Bool
  | [] => false
  | point :: rest => first point ∧ rest.all other ∧ rest.length < longest

-- `str(number)`
def decimal (number : Nat) : Text := text number.repr

theorem text_injective {one two : String} (same : text one = text two) : one = two :=
  String.ext (List.map_injective_iff.mpr (fun _ _ => Char.toNat_inj.mp) same)

theorem repr_injective {n m : Nat} (same : n.repr = m.repr) : n = m := by
  have digits : Nat.toDigits 10 n = Nat.toDigits 10 m := by
    rw [←Nat.toList_repr,←Nat.toList_repr,same]
  rw [←Nat.ofDigitChars_toDigits (n := n) (by decide) (Nat.le_refl 10),digits,
    Nat.ofDigitChars_toDigits (by decide) (Nat.le_refl 10)]

theorem decimal_injective {n m : Nat} (same : decimal n = decimal m) : n = m := repr_injective (text_injective same)

theorem decimal_digit {number point : Nat} (member : point ∈ decimal number) : asciiDigit point = true := by
  obtain ⟨char,written,rfl⟩ := List.mem_map.mp member
  rw [Nat.toList_repr] at written
  have digit := Nat.isDigit_of_mem_toDigits (by decide) (Nat.le_refl 10) written
  simpa [asciiDigit,Char.isDigit,UInt32.le_iff_toNat_le] using digit

end PythonText
