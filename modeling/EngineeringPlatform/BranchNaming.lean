import EngineeringPlatform.Checked
import EngineeringPlatform.PythonText
import EngineeringPlatform.Trimming
namespace EngineeringPlatform.SourceControl
open Checked PythonText Trimming

-- What a branch name takes from Python's Unicode tables: NFKC, `str.lower` and
-- `str.isalnum` of one character.
structure UnicodeText where
  nfkc : Text → Text
  lower : Text → Text
  isAlnum : Nat → Bool

structure InvalidBranchName where
  message : String
  deriving DecidableEq

def requirementTypes : List Text := [text "feat",text "fix",text "refactor",text "chore"]
def maxSlugCodePoints : Nat := 48
def hyphen : Nat := 45
def slash : Nat := 47
def isHyphen (point : Nat) : Bool := point = hyphen

-- One character of the title: what has been joined so far, and whether a separator is
-- due before the next one.
def slugStep (isAlnum : Nat → Bool) : Text × Bool → Nat → Text × Bool
  | (characters,pending),character =>
    if isAlnum character then
      ((if pending ∧ characters ≠ [] then characters ++ [hyphen] else characters) ++ [character],false)
    else (characters,true)

def slugOf (unicode : UnicodeText) (title : Text) : Text :=
  let (characters,_) := (unicode.lower (unicode.nfkc title)).foldl (slugStep unicode.isAlnum) ([],false)
  trim isHyphen (characters.take maxSlugCodePoints)

def branchName (requirementType : Text) (workItemNumber : Nat) (slug : Text) : Text :=
  requirementType ++ text "/wi-" ++ decimal workItemNumber ++ text "-" ++ slug

def buildTaskBranchName (unicode : UnicodeText) (requirementType : Text) (workItemNumber : Nat) (title : Text) :
    Except InvalidBranchName Text := do
  let normalizedType := unicode.lower (trim whiteSpace requirementType)
  require (normalizedType ∈ requirementTypes) ⟨"requirement type is not branch-safe"⟩
  require (0 < workItemNumber) ⟨"work item number must be positive"⟩
  let slug := slugOf unicode title
  pure (branchName normalizedType workItemNumber (if slug = [] then normalizedType else slug))

-- The rules of `git check-ref-format` on a name of several components.
def forbidden (point : Nat) : Bool := point < 32 ∨ point = 127 ∨ (text " ~^:?*[\\").contains point

structure LegalComponent (component : Text) : Prop where
  filled : component ≠ []
  opens : component.head? ≠ some 46
  closes : component.getLast? ≠ some 46
  unlocked : ¬text ".lock" <:+ component

structure LegalRef (name : Text) : Prop where
  components : ∀ component ∈ name.splitOn slash, LegalComponent component
  characters : ∀ point ∈ name, forbidden point = false
  dots : ¬text ".." <:+: name
  reflog : ¬text "@\x7b" <:+: name
  named : name ≠ text "@"

-- A character without a part in any of those rules.
def ordinary (point : Nat) : Bool := ¬forbidden point ∧ ¬(text "./@\x7b").contains point

-- What is relied on of the tables: an alphanumeric character is legal in a ref and is
-- no separator, and lower case letters stay.
structure UnicodeText.Sound (unicode : UnicodeText) : Prop where
  alnum : ∀ point, unicode.isAlnum point = true → ordinary point = true ∧ point ≠ hyphen
  lower : ∀ value, value.all asciiLower = true → unicode.lower value = value

-- What the loop has joined: alphanumeric characters, and separators between them.
def Joined (isAlnum : Nat → Bool) (characters : Text) : Prop :=
  ∀ point ∈ characters, isAlnum point = true ∨ point = hyphen

theorem slugStep_joined (joined : Joined isAlnum state.1) : Joined isAlnum (slugStep isAlnum state character).1 := by
  obtain ⟨characters,pending⟩ := state
  unfold slugStep
  dsimp only
  split
  · rename_i alphanumeric
    intro point member
    rcases List.mem_append.mp member with earlier | here
    · split at earlier
      · rcases List.mem_append.mp earlier with old | separator
        · exact joined point old
        · exact .inr (List.mem_singleton.mp separator)
      · exact joined point earlier
    · exact .inl (List.mem_singleton.mp here ▸ alphanumeric)
  · exact joined

theorem slugSteps_joined (title : Text) (joined : Joined isAlnum state.1) :
    Joined isAlnum (title.foldl (slugStep isAlnum) state).1 := by
  induction title generalizing state with
  | nil => exact joined
  | cons character rest ih => exact ih (slugStep_joined joined)

-- A slug as the name holds it.
structure Slug (slug : Text) : Prop where
  filled : slug ≠ []
  short : slug.length ≤ maxSlugCodePoints
  edges : Solid isHyphen slug
  members : ∀ point ∈ slug, ordinary point = true

theorem slugOf_slug {unicode : UnicodeText} (sound : unicode.Sound) (title : Text) :
    slugOf unicode title = [] ∨ Slug (slugOf unicode title) := by
  have joined : Joined unicode.isAlnum ((unicode.lower (unicode.nfkc title)).foldl (slugStep unicode.isAlnum) ([],false)).1 :=
    slugSteps_joined _ nofun
  refine or_iff_not_imp_left.mpr fun present => ⟨present,?_,trim_solid,fun point member => ?_⟩
  · exact trim_length_le.trans (List.length_take_le _ _)
  · rcases joined point (List.mem_of_mem_take (List.IsInfix.subset trim_inside member)) with alphanumeric | separator
    · exact (sound.alnum point alphanumeric).1
    · rw [separator]
      decide

theorem requirementType_slug (listed : requirementType ∈ requirementTypes) : Slug requirementType := by
  simp only [requirementTypes,List.mem_cons,List.not_mem_nil,or_false] at listed
  rcases listed with rfl | rfl | rfl | rfl <;>
    exact ⟨by decide,by decide,trim_eq_self.mp (by decide),by decide⟩

theorem ordinary_plain {point : Nat} (plain : ordinary point = true) :
    forbidden point = false ∧ point ≠ 46 ∧ point ≠ slash ∧ point ≠ 64 := by
  simp only [ordinary,decide_eq_true_eq,Bool.not_eq_true] at plain
  refine ⟨plain.1,?_,?_,?_⟩ <;>
    · rintro rfl
      exact absurd plain.2 (by decide)

theorem decimal_ordinary {number point : Nat} (member : point ∈ decimal number) :
    ordinary point = true ∧ point ≠ hyphen := by
  have digits : ∀ point < 58, asciiDigit point = true → ordinary point = true ∧ point ≠ hyphen := by decide
  have digit := decimal_digit member
  simp only [asciiDigit,decide_eq_true_eq] at digit
  exact digits point (by omega) (decimal_digit member)

theorem ordinary_component (filled : component ≠ []) (plain : ∀ point ∈ component, ordinary point = true) :
    LegalComponent component := by
  refine ⟨filled,fun first => ?_,fun last => ?_,fun locked => ?_⟩
  · exact (ordinary_plain (plain 46 (List.mem_of_mem_head? first))).2.1 rfl
  · exact (ordinary_plain (plain 46 (List.mem_of_mem_getLast? last))).2.1 rfl
  · exact (ordinary_plain (plain 46 (locked.subset (by decide)))).2.1 rfl

-- Two filled components of ordinary characters make a legal name.
theorem ordinary_ref (first : component ≠ []) (second : other ≠ []) (plain : ∀ point ∈ component, ordinary point = true)
    (plain' : ∀ point ∈ other, ordinary point = true) : LegalRef (component ++ slash :: other) := by
  have single (part : Text) (plain : ∀ point ∈ part, ordinary point = true) : slash ∉ part :=
    fun member => (ordinary_plain (plain slash member)).2.2.1 rfl
  have characters (point : Nat) (member : point ∈ component ++ slash :: other) : ordinary point = true ∨ point = slash := by
    rcases List.mem_append.mp member with here | later
    · exact .inl (plain point here)
    · rcases List.mem_cons.mp later with separator | there
      · exact .inr separator
      · exact .inl (plain' point there)
  have absent (point : Nat) (special : ordinary point = false) (apart : point ≠ slash) : point ∉ component ++ slash :: other := by
    intro member
    rcases characters point member with plain | separator
    · rw [special] at plain
      cases plain
    · exact apart separator
  refine ⟨?_,fun point member => ?_,fun dots => ?_,fun reflog => ?_,fun named => ?_⟩
  · rw [List.splitOn_append_cons_self_of_not_mem (single component plain),List.splitOn_eq_singleton (single other plain')]
    intro part member
    rcases List.mem_cons.mp member with rfl | last
    · exact ordinary_component first plain
    · cases List.mem_singleton.mp last
      exact ordinary_component second plain'
  · rcases characters point member with plain | separator
    · exact (ordinary_plain plain).1
    · rw [separator]
      decide
  · exact absent 46 (by decide) (by decide) (dots.subset (by decide))
  · exact absent 64 (by decide) (by decide) (reflog.subset (by decide))
  · exact absent 64 (by decide) (by decide) (named ▸ by decide)

-- What a name of a work item is.
structure BranchNamed (requirementType : Text) (workItemNumber : Nat) (name : Text) : Prop where
  parts : ∃ slug, name = branchName requirementType workItemNumber slug ∧ Slug slug
  legal : LegalRef name

theorem branchName_named (listed : requirementType ∈ requirementTypes) (slug : Slug value) :
    BranchNamed requirementType workItemNumber (branchName requirementType workItemNumber value) := by
  refine ⟨⟨value,rfl,slug⟩,?_⟩
  have whole : branchName requirementType workItemNumber value =
      requirementType ++ slash :: (text "wi-" ++ decimal workItemNumber ++ text "-" ++ value) := by
    simp only [branchName,List.append_assoc]
    rfl
  rw [whole]
  refine ordinary_ref (requirementType_slug listed).filled nofun (requirementType_slug listed).members fun point member => ?_
  simp only [List.mem_append] at member
  rcases member with ((opening | digit) | separator) | rest
  · exact (by decide : ∀ point ∈ text "wi-", ordinary point = true) point opening
  · exact (decimal_ordinary digit).1
  · exact (by decide : ∀ point ∈ text "-", ordinary point = true) point separator
  · exact slug.members point rest

-- The number of a name can be read back from it.
theorem branchName_number (listed : requirementType ∈ requirementTypes) (listed' : requirementType' ∈ requirementTypes)
    (same : branchName requirementType workItemNumber slug = branchName requirementType' workItemNumber' slug') :
    workItemNumber = workItemNumber' := by
  have apart (type : Text) (listed : type ∈ requirementTypes) : slash ∉ type :=
    fun member => (ordinary_plain ((requirementType_slug listed).members slash member)).2.2.1 rfl
  have digits (number : Nat) : hyphen ∉ decimal number := fun member => (decimal_ordinary member).2 rfl
  simp only [branchName,List.append_assoc] at same
  obtain ⟨_,rest⟩ := cut_unique (apart _ listed) (apart _ listed') same
  have later := List.append_cancel_left rest
  exact decimal_injective (cut_unique (digits workItemNumber) (digits workItemNumber') later).1

theorem buildTaskBranchName_ok :
    buildTaskBranchName unicode requirementType workItemNumber title = .ok name ↔
      unicode.lower (trim whiteSpace requirementType) ∈ requirementTypes ∧ 0 < workItemNumber ∧
      branchName (unicode.lower (trim whiteSpace requirementType)) workItemNumber
        (if slugOf unicode title = [] then unicode.lower (trim whiteSpace requirementType) else slugOf unicode title) = name := by
  simp only [buildTaskBranchName,require_bind_ok,pure_ok]

theorem buildTaskBranchName_named {unicode : UnicodeText} (sound : unicode.Sound)
    (built : buildTaskBranchName unicode requirementType workItemNumber title = .ok name) :
    BranchNamed (unicode.lower (trim whiteSpace requirementType)) workItemNumber name := by
  obtain ⟨listed,_,rfl⟩ := buildTaskBranchName_ok.mp built
  refine branchName_named listed ?_
  split
  · exact requirementType_slug listed
  · rename_i filled
    exact (slugOf_slug sound title).resolve_left filled

-- Every type of a requirement is read as itself.
theorem requirementType_lower {unicode : UnicodeText} (sound : unicode.Sound) (listed : requirementType ∈ requirementTypes) :
    unicode.lower (trim whiteSpace requirementType) = requirementType := by
  simp only [requirementTypes,List.mem_cons,List.not_mem_nil,or_false] at listed
  rcases listed with rfl | rfl | rfl | rfl <;> exact sound.lower _ (by decide)

theorem task_branch_names {unicode : UnicodeText} (sound : unicode.Sound) :
    (∀ requirementType ∈ requirementTypes, ∀ workItemNumber title, 0 < workItemNumber →
      ∃ name, buildTaskBranchName unicode requirementType workItemNumber title = .ok name ∧
        BranchNamed requirementType workItemNumber name) ∧
    (∀ requirementType workItemNumber title, unicode.lower (trim whiteSpace requirementType) ∉ requirementTypes →
      buildTaskBranchName unicode requirementType workItemNumber title = .error ⟨"requirement type is not branch-safe"⟩) ∧
    (∀ requirementType workItemNumber title name,
      buildTaskBranchName unicode requirementType workItemNumber title = .ok name →
      ∃ listed ∈ requirementTypes, BranchNamed listed workItemNumber name) ∧
    (∀ requirementType workItemNumber title name requirementType' workItemNumber' title' name',
      buildTaskBranchName unicode requirementType workItemNumber title = .ok name →
      buildTaskBranchName unicode requirementType' workItemNumber' title' = .ok name' →
      workItemNumber ≠ workItemNumber' → name ≠ name') := by
  refine ⟨fun requirementType listed workItemNumber title positive => ?_,fun requirementType workItemNumber title other => ?_,
    fun requirementType workItemNumber title name built => ?_,?_⟩
  · have normalized := requirementType_lower sound listed
    have listed' : unicode.lower (trim whiteSpace requirementType) ∈ requirementTypes := normalized.symm ▸ listed
    have built := (@buildTaskBranchName_ok unicode requirementType workItemNumber title _).mpr ⟨listed',positive,rfl⟩
    have named := buildTaskBranchName_named sound built
    rw [normalized] at built named
    exact ⟨_,built,named⟩
  · unfold buildTaskBranchName
    dsimp only
    rw [require,if_neg other]
    rfl
  · exact ⟨_,(buildTaskBranchName_ok.mp built).1,buildTaskBranchName_named sound built⟩
  · intro requirementType workItemNumber title name requirementType' workItemNumber' title' name' built built' apart same
    obtain ⟨listed,_,rfl⟩ := buildTaskBranchName_ok.mp built
    obtain ⟨listed',_,rfl⟩ := buildTaskBranchName_ok.mp built'
    exact apart (branchName_number listed listed' same)

def asciiText : UnicodeText := ⟨id,List.map lowered,asciiAlphanumeric⟩

theorem asciiText_sound : asciiText.Sound := by
  refine ⟨fun point alphanumeric => ?_,fun value letters => ?_⟩
  · have ascii : ∀ point < 123, asciiAlphanumeric point = true → ordinary point = true ∧ point ≠ hyphen := by decide
    refine ascii point ?_ alphanumeric
    simp only [asciiText,asciiAlphanumeric,asciiDigit,asciiUpper,asciiLower,decide_eq_true_eq] at alphanumeric
    omega
  · refine (List.map_congr_left fun point member => ?_).trans (List.map_id value)
    have letter := List.all_eq_true.mp letters point member
    simp only [asciiLower,decide_eq_true_eq] at letter
    simp only [lowered,asciiUpper,decide_eq_true_eq,id_eq]
    rw [if_neg (by omega)]

example : buildTaskBranchName asciiText (text "fix") 7 (text ".. @\x7b lock.lock") = .ok (text "fix/wi-7-lock-lock") := by decide

theorem task_branch_names_sample :
    ∃ name, buildTaskBranchName asciiText (text "feat") 42 (text "GitLab: HMAC / Webhook") = .ok name ∧
      BranchNamed (text "feat") 42 name :=
  (task_branch_names asciiText_sound).1 (text "feat") (by decide) 42 (text "GitLab: HMAC / Webhook") (by decide)

end EngineeringPlatform.SourceControl
