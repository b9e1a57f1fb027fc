import EngineeringPlatform.NonSecret
import Mathlib.Data.List.Infix
-- What is done to a text that holds no credential leaves it without one: cutting off its
-- end, stripping its blanks, writing it in small letters.
namespace EngineeringPlatform.ModelGateway
open PythonText

section Prefixes
variable {value rest : Text}

theorem caseless_append (found : caseless literal value = some rest) (more : Text) :
    caseless literal (value ++ more) = some (rest ++ more) := by
  induction literal generalizing value with
  | nil =>
    cases found
    rfl
  | cons letter literal ih =>
    cases value with
    | nil => cases found
    | cons point value =>
      unfold caseless at found
      split at found
      · rename_i same
        exact (if_pos same).trans (ih found)
      · cases found

theorem head_append {holds : Nat → Bool} (first : rest.head?.any holds = true) (more : Text) :
    (rest ++ more).head?.any holds = true := by
  cases rest with
  | nil => cases first
  | cons point rest => exact first

theorem secretKey_append (found : secretKey value = true) (more : Text) : secretKey (value ++ more) = true := by
  obtain ⟨rest,opened,key⟩ := (Option.any_eq_true _ _).mp found
  exact (Option.any_eq_true _ _).mpr ⟨_,caseless_append opened more,head_append key more⟩

theorem bearer_append (found : bearer value = true) (more : Text) : bearer (value ++ more) = true := by
  obtain ⟨rest,opened,blank⟩ := (Option.any_eq_true _ _).mp found
  obtain ⟨blank,filled⟩ := of_decide_eq_true blank
  refine (Option.any_eq_true _ _).mpr ⟨_,caseless_append opened more,decide_eq_true ⟨head_append blank more,fun empty => filled ?_⟩⟩
  unfold onlySpace at empty ⊢
  rw [List.all_append,Bool.and_eq_true] at empty
  exact empty.1

theorem joinedWords_append (found : joinedWords first second value = some rest) (filled : text second ≠ []) (more : Text) :
    joinedWords first second (value ++ more) = some (rest ++ more) := by
  obtain ⟨middle,opened,closed⟩ := Option.bind_eq_some_iff.mp found
  refine Option.bind_eq_some_iff.mpr ⟨_,caseless_append opened more,?_⟩
  cases middle with
  | nil =>
    cases word : text second with
    | nil => exact absurd word filled
    | cons letter literal =>
      rw [word] at closed
      cases closed
  | cons point middle =>
    have same : (if ((point :: middle) ++ more).head?.any fun point => point = 95 ∨ point = 45 then ((point :: middle) ++ more).tail
        else (point :: middle) ++ more) =
        (if (point :: middle).head?.any fun point => point = 95 ∨ point = 45 then (point :: middle).tail
          else point :: middle) ++ more := by
      by_cases joint : ((point :: middle).head?.any fun point => point = 95 ∨ point = 45) = true
      · rw [if_pos joint]
        exact if_pos joint
      · rw [if_neg joint]
        exact if_neg joint
    rw [same]
    exact caseless_append closed more

theorem assigned_append (found : assigned rest = true) (more : Text) : assigned (rest ++ more) = true := by
  unfold assigned at found ⊢
  rw [List.dropWhile_append]
  split
  · rename_i empty
    rw [List.isEmpty_iff.mp empty] at found
    cases found
  · exact head_append found more

theorem privateKey_append (found : privateKey value = true) (more : Text) : privateKey (value ++ more) = true := by
  obtain ⟨rest,opened,line⟩ := (Option.any_eq_true _ _).mp found
  refine (Option.any_eq_true _ _).mpr ⟨_,caseless_append opened more,?_⟩
  obtain ⟨tail,part,closed⟩ := List.any_eq_true.mp line
  obtain ⟨later,whole⟩ : ∃ later, (rest ++ more).takeWhile (· ≠ 10) = rest.takeWhile (· ≠ 10) ++ later := by
    rw [List.takeWhile_append]
    split
    · rename_i all
      rw [List.takeWhile_prefix _ |>.eq_of_length all]
      exact ⟨_,rfl⟩
    · exact ⟨[],(List.append_nil _).symm⟩
  obtain ⟨before,parted⟩ := (List.mem_tails _ _).mp part
  obtain ⟨left,ended⟩ := Option.isSome_iff_exists.mp closed
  refine List.any_eq_true.mpr ⟨tail ++ later,(List.mem_tails _ _).mpr ⟨before,?_⟩,?_⟩
  · rw [whole,←parted,List.append_assoc]
  · rw [caseless_append ended later]
    rfl

variable {word : Nat → Bool}

theorem credentialAt_append {behind : Option Nat} (found : credentialAt word behind (point :: value) = true) (more : Text) :
    credentialAt word behind (point :: value ++ more) = true := by
  unfold credentialAt at found ⊢
  rcases of_decide_eq_true found with ⟨edge,kinds⟩ | key
  · refine decide_eq_true (.inl ⟨edge,?_⟩)
    rcases kinds with secret | token | named | access
    · exact .inl (secretKey_append secret more)
    · exact .inr (.inl (bearer_append token more))
    · obtain ⟨rest,joined,set⟩ := (Option.any_eq_true _ _).mp named
      exact .inr (.inr (.inl ((Option.any_eq_true _ _).mpr ⟨_,joinedWords_append joined (by decide) more,assigned_append set more⟩)))
    · obtain ⟨rest,joined,set⟩ := (Option.any_eq_true _ _).mp access
      exact .inr (.inr (.inr ((Option.any_eq_true _ _).mpr ⟨_,joinedWords_append joined (by decide) more,assigned_append set more⟩)))
  · exact decide_eq_true (.inr (privateKey_append key more))

theorem holdsCredential_append {behind : Option Nat} (found : holdsCredential word behind value = true) (more : Text) :
    holdsCredential word behind (value ++ more) = true := by
  induction value generalizing behind with
  | nil => cases found
  | cons point rest ih =>
    rcases of_decide_eq_true found with here | later
    · exact decide_eq_true (.inl (credentialAt_append here more))
    · exact decide_eq_true (.inr (ih later))

end Prefixes

section Blanks
variable {word : Nat → Bool}

theorem holdsCredential_behind {behind other : Option Nat} (same : behind.any word = other.any word) (value : Text) :
    holdsCredential word behind value = holdsCredential word other value := by
  cases value with
  | nil => rfl
  | cons point rest =>
    unfold holdsCredential credentialAt
    rw [same]

-- Nothing that is no part of a word hides what stands behind it.
theorem holdsCredential_behind_blanks {blanks : Text} (blank : ∀ point ∈ blanks, word point = false) {behind : Option Nat}
    (edge : behind.any word = false) (found : holdsCredential word none value = true) :
    holdsCredential word behind (blanks ++ value) = true := by
  induction blanks generalizing behind with
  | nil => exact (holdsCredential_behind edge value).trans found
  | cons point rest ih =>
    have free : word point = false := blank point List.mem_cons_self
    exact decide_eq_true (.inr (ih (fun point member => blank point (List.mem_cons_of_mem _ member)) free))

end Blanks

section Letters
variable {word : Nat → Bool}

theorem sameLetter_lowered (letter point : Nat) : sameLetter letter (lowered point) = sameLetter letter point := by
  unfold sameLetter lowered asciiUpper
  simp only [decide_eq_true_eq]
  split
  · rename_i upper
    refine decide_eq_decide.mpr ?_
    rw [if_neg (by omega)]
    omega
  · rfl

theorem caseless_lowered (literal value : Text) :
    caseless literal (value.map lowered) = (caseless literal value).map (List.map lowered) := by
  induction literal generalizing value with
  | nil => rfl
  | cons letter literal ih =>
    cases value with
    | nil => rfl
    | cons point value =>
      unfold caseless
      rw [List.map_cons]
      dsimp only
      rw [sameLetter_lowered]
      split
      · exact ih value
      · rfl

theorem whiteSpace_lowered (point : Nat) : whiteSpace (lowered point) = whiteSpace point := by
  unfold lowered
  split
  · rename_i upper
    simp only [asciiUpper,decide_eq_true_eq] at upper
    unfold whiteSpace
    refine decide_eq_decide.mpr ?_
    omega
  · rfl

theorem keyCharacter_lowered (point : Nat) : keyCharacter (lowered point) = keyCharacter point := by
  unfold lowered
  split
  · rename_i upper
    have letters : ∀ point < 91, 65 ≤ point → keyCharacter (point + 32) = keyCharacter point := by decide
    simp only [asciiUpper,decide_eq_true_eq] at upper
    exact letters point (by omega) upper.1
  · rfl

theorem head_lowered {holds : Nat → Bool} (same : ∀ point, holds (lowered point) = holds point) (value : Text) :
    (value.map lowered).head?.any holds = value.head?.any holds := by
  cases value with
  | nil => rfl
  | cons point rest => exact same point

theorem secretKey_lowered (value : Text) : secretKey (value.map lowered) = secretKey value := by
  unfold secretKey
  rw [caseless_lowered,Option.any_map]
  congr 1
  funext rest
  exact head_lowered keyCharacter_lowered rest

theorem bearer_lowered (value : Text) : bearer (value.map lowered) = bearer value := by
  have blanks (rest : Text) : onlySpace (rest.map lowered) = onlySpace rest := by
    unfold onlySpace
    rw [List.all_map]
    congr 1
    funext point
    exact whiteSpace_lowered point
  unfold bearer
  rw [caseless_lowered,Option.any_map]
  congr 1
  funext rest
  rw [head_lowered whiteSpace_lowered,blanks]

-- A mark stays what it is, and no letter becomes one.
theorem mark_lowered {mark : Nat} (small : mark < 65) (point : Nat) : lowered point = mark ↔ point = mark := by
  unfold lowered
  split
  · rename_i upper
    simp only [asciiUpper,decide_eq_true_eq] at upper
    omega
  · rfl

theorem joint_lowered (point : Nat) : (lowered point = 95 ∨ lowered point = 45) ↔ (point = 95 ∨ point = 45) := by
  unfold lowered
  split
  · rename_i upper
    simp only [asciiUpper,decide_eq_true_eq] at upper
    omega
  · rfl

theorem joinedWords_lowered (first second : String) (value : Text) :
    joinedWords first second (value.map lowered) = (joinedWords first second value).map (List.map lowered) := by
  unfold joinedWords
  rw [caseless_lowered]
  cases caseless (text first) value with
  | none => rfl
  | some rest =>
    change caseless (text second) _ = Option.map _ (caseless (text second) _)
    rw [←caseless_lowered,head_lowered fun point => decide_eq_decide.mpr (joint_lowered point)]
    split
    · rw [List.map_tail]
    · rfl

theorem assigned_lowered (rest : Text) : assigned (rest.map lowered) = assigned rest := by
  unfold assigned
  rw [List.dropWhile_map,head_lowered fun point => decide_eq_decide.mpr
    (or_congr (mark_lowered (by decide) point) (mark_lowered (by decide) point))]
  rw [show whiteSpace ∘ lowered = whiteSpace from funext whiteSpace_lowered]

theorem privateKey_lowered (value : Text) : privateKey (value.map lowered) = privateKey value := by
  unfold privateKey
  rw [caseless_lowered,Option.any_map]
  congr 1
  funext rest
  rw [List.takeWhile_map,List.map_tails,List.any_map]
  have line : ((fun point : Nat => decide (point ≠ 10)) ∘ lowered) = fun point => decide (point ≠ 10) := by
    funext point
    exact decide_eq_decide.mpr (not_congr (mark_lowered (by decide) point))
  rw [line]
  congr 1
  funext tail
  dsimp only [Function.comp]
  rw [caseless_lowered,Option.isSome_map]

variable (small : ∀ point, word (lowered point) = word point)
include small

theorem credentialAt_lowered (behind : Option Nat) (value : Text) :
    credentialAt word (behind.map lowered) (value.map lowered) = credentialAt word behind value := by
  have edge : (behind.map lowered).any word = behind.any word := by
    cases behind with
    | none => rfl
    | some point => exact small point
  have named (first second : String) : (joinedWords first second (value.map lowered)).any assigned =
      (joinedWords first second value).any assigned := by
    rw [joinedWords_lowered,Option.any_map]
    congr 1
    funext rest
    exact assigned_lowered rest
  unfold credentialAt
  rw [edge,head_lowered small,secretKey_lowered,bearer_lowered,named,named,privateKey_lowered]

theorem holdsCredential_lowered (behind : Option Nat) (value : Text) :
    holdsCredential word (behind.map lowered) (value.map lowered) = holdsCredential word behind value := by
  induction value generalizing behind with
  | nil => rfl
  | cons point rest ih =>
    have here := credentialAt_lowered small behind (point :: rest)
    have later := ih (some point)
    rw [List.map_cons] at here ⊢
    unfold holdsCredential
    rw [here]
    exact congrArg (fun found : Bool => decide (credentialAt word behind (point :: rest) = true ∨ found = true)) later

end Letters
end EngineeringPlatform.ModelGateway
