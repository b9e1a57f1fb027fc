import EngineeringPlatform.PythonText
import Mathlib.Data.List.DropRight
import Mathlib.Tactic.IntervalCases
-- Base64 in the alphabet that is safe in URLs. A byte is a number below 256; a text is
-- the list of its code points.
namespace Base64
open PythonText

def digit (sextet : Nat) : Nat :=
  if sextet < 26 then 65 + sextet
  else if sextet < 52 then 71 + sextet
  else if sextet < 62 then sextet - 4
  else if sextet = 62 then 45
  else 95

-- The decoder takes the digits of both alphabets.
def sextet (point : Nat) : Option Nat :=
  if asciiUpper point then some (point - 65)
  else if asciiLower point then some (point - 71)
  else if asciiDigit point then some (point + 4)
  else if point = 43 ∨ point = 45 then some 62
  else if point = 47 ∨ point = 95 then some 63
  else none

def pad : Nat := 61

def encode : List Nat → Text
  | a :: b :: c :: rest =>
    digit (a / 4) :: digit (a % 4 * 16 + b / 16) :: digit (b % 16 * 4 + c / 64) :: digit (c % 64) :: encode rest
  | [a,b] => [digit (a / 4),digit (a % 4 * 16 + b / 16),digit (b % 16 * 4),pad]
  | [a] => [digit (a / 4),digit (a % 4 * 16),pad,pad]
  | [] => []

-- Groups of four digits; only the last group may be padded.
def decode : Text → Option (List Nat)
  | [] => some []
  | p :: q :: r :: t :: rest =>
    if r = pad ∧ t = pad ∧ rest = [] then do
      let a ← sextet p
      let b ← sextet q
      some [a * 4 + b / 16]
    else if t = pad ∧ rest = [] then do
      let a ← sextet p
      let b ← sextet q
      let c ← sextet r
      some [a * 4 + b / 16,b % 16 * 16 + c / 4]
    else do
      let a ← sextet p
      let b ← sextet q
      let c ← sextet r
      let d ← sextet t
      let later ← decode rest
      some ((a * 4 + b / 16) :: (b % 16 * 16 + c / 4) :: (c % 4 * 64 + d) :: later)
  | _ => none

theorem sextet_digit {value : Nat} (small : value < 64) : sextet (digit value) = some value := by
  interval_cases value <;> rfl

theorem digit_pad {value : Nat} (small : value < 64) : digit value ≠ pad := by
  interval_cases value <;> decide

def Bytes (bytes : List Nat) : Prop := ∀ byte ∈ bytes, byte < 256

instance decidableBytes (bytes : List Nat) : Decidable (Bytes bytes) :=
  inferInstanceAs (Decidable (∀ byte ∈ bytes, byte < 256))

theorem decode_encode (bytes : List Nat) (valid : Bytes bytes) : decode (encode bytes) = some bytes := by
  fun_induction encode bytes with
  | case1 a b c rest ih =>
    simp only [Bytes,List.forall_mem_cons] at valid
    obtain ⟨a8,b8,c8,rest8⟩ := valid
    have last : digit (c % 64) ≠ pad := digit_pad (by omega)
    unfold decode
    rw [if_neg (by simp [last]),if_neg (by simp [last]),sextet_digit (by omega),sextet_digit (by omega),
      sextet_digit (by omega),sextet_digit (by omega),ih rest8]
    simp only [Option.bind_eq_bind,Option.bind_some,Option.some.injEq,List.cons.injEq,and_true]
    omega
  | case2 a b =>
    simp only [Bytes,List.forall_mem_cons] at valid
    obtain ⟨a8,b8,_⟩ := valid
    have third : digit (b % 16 * 4) ≠ pad := digit_pad (by omega)
    unfold decode
    rw [if_neg (by simp [third]),if_pos (by simp),sextet_digit (by omega),sextet_digit (by omega),
      sextet_digit (by omega)]
    simp only [Option.bind_eq_bind,Option.bind_some,Option.some.injEq,List.cons.injEq,and_true]
    omega
  | case3 a =>
    simp only [Bytes,List.forall_mem_cons] at valid
    obtain ⟨a8,_⟩ := valid
    unfold decode
    rw [if_pos (by simp),sextet_digit (by omega),sextet_digit (by omega)]
    simp only [Option.bind_eq_bind,Option.bind_some,Option.some.injEq,List.cons.injEq,and_true]
    omega
  | case4 => simp [decode]

-- Without its padding, which the length of the digits determines.
def encodeBare (bytes : List Nat) : Text := (encode bytes).rdropWhile (· = pad)

def decodeBare (digits : Text) : Option (List Nat) :=
  decode (digits ++ List.replicate ((4 - digits.length % 4) % 4) pad)

def Digits (value : Text) : Prop := ∀ point ∈ value, ∃ number < 64, digit number = point

theorem Digits.cons {number : Nat} {rest : Text} (small : number < 64) (others : Digits rest) :
    Digits (digit number :: rest) :=
  List.forall_mem_cons.mpr ⟨⟨number,small,rfl⟩,others⟩

theorem Digits.nil : Digits [] := nofun

theorem Digits.unpadded {value : Text} (digits : Digits value) : pad ∉ value := by
  intro member
  obtain ⟨number,small,same⟩ := digits pad member
  exact digit_pad small same

theorem encode_padded (bytes : List Nat) (valid : Bytes bytes) :
    ∃ digits padding, encode bytes = digits ++ List.replicate padding pad ∧ Digits digits ∧ padding < 4 ∧
      (digits.length + padding) % 4 = 0 := by
  fun_induction encode bytes with
  | case1 a b c rest ih =>
    simp only [Bytes,List.forall_mem_cons] at valid
    obtain ⟨a8,b8,c8,rest8⟩ := valid
    obtain ⟨digits,padding,whole,spelled,short,aligned⟩ := ih rest8
    refine ⟨digit (a / 4) :: digit (a % 4 * 16 + b / 16) :: digit (b % 16 * 4 + c / 64) :: digit (c % 64) :: digits,
      padding,by rw [whole]; rfl,?_,short,by simp only [List.length_cons]; omega⟩
    exact .cons (by omega) (.cons (by omega) (.cons (by omega) (.cons (by omega) spelled)))
  | case2 a b =>
    simp only [Bytes,List.forall_mem_cons] at valid
    obtain ⟨a8,b8,_⟩ := valid
    exact ⟨[digit (a / 4),digit (a % 4 * 16 + b / 16),digit (b % 16 * 4)],1,rfl,
      .cons (by omega) (.cons (by omega) (.cons (by omega) .nil)),by decide,by simp⟩
  | case3 a =>
    simp only [Bytes,List.forall_mem_cons] at valid
    obtain ⟨a8,_⟩ := valid
    exact ⟨[digit (a / 4),digit (a % 4 * 16)],2,rfl,.cons (by omega) (.cons (by omega) .nil),by decide,by simp⟩
  | case4 => exact ⟨[],0,rfl,.nil,by decide,rfl⟩

theorem rdropWhile_padding {digits : Text} (free : pad ∉ digits) (padding : Nat) :
    (digits ++ List.replicate padding pad).rdropWhile (· = pad) = digits := by
  induction padding with
  | zero =>
    rw [List.replicate_zero,List.append_nil]
    refine List.rdropWhile_eq_self_iff.mpr fun filled => ?_
    have last := List.getLast_mem filled
    simpa using fun same : digits.getLast filled = pad => free (same ▸ last)
  | succ padding ih =>
    rw [List.replicate_succ',←List.append_assoc,List.rdropWhile_concat_pos _ _ _ (by simp)]
    exact ih

theorem encodeBare_digits (bytes : List Nat) (valid : Bytes bytes) : Digits (encodeBare bytes) := by
  obtain ⟨digits,padding,whole,spelled,_⟩ := encode_padded bytes valid
  rw [encodeBare,whole,rdropWhile_padding spelled.unpadded]
  exact spelled

theorem decodeBare_encodeBare (bytes : List Nat) (valid : Bytes bytes) : decodeBare (encodeBare bytes) = some bytes := by
  obtain ⟨digits,padding,whole,spelled,short,aligned⟩ := encode_padded bytes valid
  have bare : encodeBare bytes = digits := by
    rw [encodeBare,whole]
    exact rdropWhile_padding spelled.unpadded padding
  have same : (4 - digits.length % 4) % 4 = padding := by omega
  rw [bare,decodeBare,same,←whole]
  exact decode_encode bytes valid

theorem encodeBare_injective {one two : List Nat} (first : Bytes one) (second : Bytes two)
    (same : encodeBare one = encodeBare two) : one = two :=
  Option.some.inj ((decodeBare_encodeBare one first).symm.trans (same ▸ decodeBare_encodeBare two second))

end Base64
