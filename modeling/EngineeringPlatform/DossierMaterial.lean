import EngineeringPlatform.CanonicalCodec
import EngineeringPlatform.ExternalReference
import EngineeringPlatform.SecretFree
-- The declared material of a validation dossier: the checks of its texts, which rewrite
-- what they accept.
namespace EngineeringPlatform.Dossiers
open CanonicalCodec CanonicalJson Checked ModelGateway PythonText Security Trimming UrlParse

-- What is taken from elsewhere: `\w`, `unquote`, the tables of `urlsplit`, `str(UUID(value))`,
-- the ints a text spells, and timestamps, with the instant of one in microseconds.
structure Materials where
  word : Nat → Bool
  unquote : Text → Text
  tables : Tables
  uuid : Text → Option Text
  spelled : Text → Option Int
  instant : Text → Option Int
  timestamp : Int → Text

-- `datetime.min` and `datetime.max` in UTC.
def earliest : Int := -62135596800000000
def latest : Int := 253402300799999999

def supported (instant : Int) : Bool := earliest ≤ instant ∧ instant ≤ latest

-- Unicode White_Space, which `strip_whitespace` strips.
def stripSpace (point : Nat) : Bool := whiteSpace point ∧ ¬(28 ≤ point ∧ point ≤ 31)

structure Materials.Lawful (m : Materials) : Prop where
  wordCase : ∀ point, m.word (lowered point) = m.word point
  wordSpace : ∀ point, stripSpace point = true → m.word point = false
  -- `unquote` leaves what is no escape, and an escape does not reach over a mark.
  plain : ∀ before after, (∀ point ∈ before, point < 128 ∧ point ≠ 37) → m.unquote (before ++ after) = before ++ m.unquote after
  marked : ∀ before point after, ending point = true →
    m.unquote (before ++ point :: after) = m.unquote before ++ point :: m.unquote after
  uuid : ∀ raw value, m.uuid raw = some value → m.uuid value = some value ∧ value.length = 36
  instant : ∀ time, supported time = true → m.instant (m.timestamp time) = some time

def control (point : Nat) : Bool := point < 32 ∨ point = 127

-- A str that is accepted where one is asked for.
def plainText (value : Text) : Option Text := if value.any surrogate then none else some value

def nonEmptyText (value : Text) : Option Text := (plainText value).filter (· ≠ [])

def sha256 (value : Text) : Option Text :=
  if value.length = 64 ∧ value.all fun point => asciiDigit point ∨ (97 ≤ point ∧ point ≤ 102) then some value else none

section
variable (m : Materials)

-- `_text`
def metadata (value : Text) : Option Text := if value.any control then none else nonSecret m.word value

def stripped (longest : Nat) (value : Text) : Option Text := do
  let value ← metadata m value
  let value ← plainText value
  let kept := trim stripSpace value
  if 1 ≤ kept.length ∧ kept.length ≤ longest then some kept else none

def materialTitle : Text → Option Text := stripped m 120
def materialNote : Text → Option Text := stripped m 500
def externalVersion : Text → Option Text := stripped m 128

-- `[A-Za-z0-9][A-Za-z0-9-]{0,31}:.+`
def urnPath (path : Text) : Bool :=
  match cut isColon path with
  | (space,_ :: rest) =>
    space.head?.any asciiAlphanumeric ∧ (space.all fun point => asciiAlphanumeric point ∨ point = 45) ∧ space.length ≤ 32 ∧
      rest ≠ [] ∧ rest.all (· ≠ 10)
  | _ => false

def referable (parts : SplitResult) : Bool :=
  if parts.scheme = text "https" then
    parts.hostname m.tables ≠ none ∧ parts.username = none ∧ parts.password = none ∧ parts.port.isSome
  else parts.scheme = text "urn" ∧ urnPath parts.path

-- `_reference`
def reference (value : Text) : Option Text := do
  let _ ← metadata m (m.unquote value)
  let _ ← (some value).filter fun value => !(value.any whiteSpace || value.contains 92)
  let _ ← (urlsplit m.tables value).filter (referable m)
  (sanitizeExternalReference m.tables value).toOption

def sourceReference (value : Text) : Option Text := do
  let value ← plainText value
  if 5 ≤ value.length ∧ value.length ≤ 2048 then reference m value else none

def dossierId (value : Text) : Option Text := if value.length = 36 then m.uuid value else none

-- `_utc_time`
def utcTime (instant : Int) : Option Int := if supported instant then some instant else none

end

theorem plainText_some : plainText value = some kept ↔ value.any surrogate = false ∧ value = kept := by
  unfold plainText
  split <;> simp_all

theorem sha256_settles : Settles sha256 := by
  intro raw value accepted
  unfold sha256 at accepted
  split at accepted
  · rename_i digits
    cases accepted
    exact if_pos digits
  · cases accepted

theorem plainText_settles : Settles plainText := by
  intro raw value accepted
  obtain ⟨plain,rfl⟩ := plainText_some.mp accepted
  exact accepted

theorem nonEmptyText_settles : Settles nonEmptyText := by
  intro raw value accepted
  obtain ⟨plain,filled⟩ := Option.filter_eq_some_iff.mp accepted
  exact Option.filter_eq_some_iff.mpr ⟨plainText_settles raw value plain,filled⟩

section
variable {m : Materials} (lawful : m.Lawful)

theorem metadata_some : metadata m value = some kept ↔
    value.any control = false ∧ holdsCredential m.word none value = false ∧ value = kept := by
  unfold metadata
  split
  · simp_all
  · rw [nonSecret_some]
    simp_all

theorem any_inside {holds : Nat → Bool} {part whole : Text} (inside : part ⊆ whole) (none : whole.any holds = false) :
    part.any holds = false := by
  rw [List.any_eq_false] at none ⊢
  exact fun point member => none point (inside member)

theorem trim_parts (value : Text) : ∃ before after, value = before ++ trim stripSpace value ++ after ∧
    ∀ point ∈ before, stripSpace point = true := by
  obtain ⟨after,parts⟩ := List.rdropWhile_prefix stripSpace (l := value.dropWhile stripSpace)
  refine ⟨value.takeWhile stripSpace,after,?_,fun point member => List.mem_takeWhile_imp member⟩
  rw [List.append_assoc]
  exact ((congrArg (value.takeWhile stripSpace ++ ·) parts).trans List.takeWhile_append_dropWhile).symm

include lawful

-- Stripping lays no credential bare.
theorem trim_secretFree {value : Text} (free : holdsCredential m.word none value = false) :
    holdsCredential m.word none (trim stripSpace value) = false := by
  obtain ⟨before,after,parts,blank⟩ := trim_parts value
  by_contra found
  have edge : (none : Option Nat).any m.word = false := rfl
  have within := holdsCredential_append (holdsCredential_behind_blanks
    (fun point member => lawful.wordSpace point (blank point member)) edge (by simpa using found)) after
  rw [←parts,free] at within
  cases within

theorem stripped_settles (longest : Nat) : Settles (stripped m longest) := by
  intro raw value accepted
  obtain ⟨_,checked,accepted⟩ := Option.bind_eq_some_iff.mp accepted
  obtain ⟨controls,free,rfl⟩ := metadata_some.mp checked
  obtain ⟨_,plain,accepted⟩ := Option.bind_eq_some_iff.mp accepted
  obtain ⟨surrogates,rfl⟩ := plainText_some.mp plain
  dsimp only at accepted
  split at accepted
  · rename_i sized
    cases accepted
    have inside : trim stripSpace raw ⊆ raw := trim_inside.subset
    have checked : metadata m (trim stripSpace raw) = some (trim stripSpace raw) :=
      metadata_some.mpr ⟨any_inside inside controls,trim_secretFree lawful free,rfl⟩
    have plain : plainText (trim stripSpace raw) = some (trim stripSpace raw) :=
      plainText_some.mpr ⟨any_inside inside surrogates,rfl⟩
    refine Option.bind_eq_some_iff.mpr ⟨_,checked,Option.bind_eq_some_iff.mpr ⟨_,plain,?_⟩⟩
    dsimp only
    rw [trim_trim]
    exact if_pos sized
  · cases accepted

theorem dossierId_settles : Settles (dossierId m) := by
  intro raw value accepted
  unfold dossierId at accepted
  split at accepted
  · obtain ⟨again,length⟩ := lawful.uuid raw value accepted
    exact (if_pos length).trans again
  · cases accepted

end
section
variable {m : Materials}

theorem referable_scheme {parts : SplitResult} (named : referable m parts = true) :
    parts.scheme = text "https" ∧ (parts.hostname m.tables ≠ none ∧ parts.username = none ∧ parts.password = none) ∨
      parts.scheme = text "urn" ∧ urnPath parts.path = true := by
  unfold referable at named
  split at named
  · rename_i web
    have holds := of_decide_eq_true named
    exact .inl ⟨web,holds.1,holds.2.1,holds.2.2.1⟩
  · exact .inr (of_decide_eq_true named)

-- A name space begins with a letter or a digit, so no authority stands before it.
theorem urnPath_opens {path : Text} (named : urnPath path = true) :
    ¬Opens (· = slash) path ∧ path.take 2 ≠ twoSlashes ∧ 3 ≤ path.length := by
  unfold urnPath at named
  have whole := @cut_append _ isColon path
  rcases parted : cut isColon path with ⟨space,_ | ⟨point,rest⟩⟩
  · rw [parted] at named
    cases named
  · rw [parted] at named whole
    obtain ⟨first,_,_,filled,_⟩ := of_decide_eq_true named
    cases space with
    | nil => cases first
    | cons letter space =>
      have letter' : letter ≠ slash := by
        rintro rfl
        cases first
      rw [←whole]
      refine ⟨fun opens => letter' (of_decide_eq_true (opens letter rfl)),fun begins => letter' (List.cons.inj begins).1,?_⟩
      cases rest with
      | nil => exact absurd rfl filled
      | cons => simp only [List.cons_append,List.length_cons,List.length_append]; omega

-- What an accepted reference is: a scheme, an authority with a path, and what is dropped.
structure Referred (m : Materials) (value : Text) (parts : SplitResult) (opening body behind : Text) : Prop where
  whole : value = opening ++ colon :: (body ++ behind)
  characters : opening.all schemeCharacter = true
  behind : Opens ending behind
  scheme : parts.scheme = opening.map lowered
  written : urlunsplit parts = parts.scheme ++ colon :: body
  sanitized : Sanitized m.tables parts
  referable : referable m parts = true
  long : 5 ≤ (urlunsplit parts).length

theorem cleaned_reference (lawful : m.Lawful) {value : Text} (controls : (m.unquote value).any control = false)
    (solid : value.any whiteSpace = false) : cleaned value = value := by
  refine cleaned_of_clean (fun point first => ?_) fun point member => ?_
  · by_contra low
    have low : point ≤ 32 := by simpa [controlOrSpace] using low
    obtain ⟨rest,rfl⟩ : ∃ rest, value = point :: rest := by
      cases value with
      | nil => cases first
      | cons head rest =>
        cases first
        exact ⟨rest,rfl⟩
    have kept := lawful.plain [point] rest fun other member => by
      cases List.mem_singleton.mp member
      omega
    have printed := List.any_eq_false.mp controls point (by
      change point ∈ m.unquote ([point] ++ rest)
      rw [kept]
      exact List.mem_cons_self)
    have filled := List.any_eq_false.mp solid point List.mem_cons_self
    simp only [control,whiteSpace,decide_eq_true_eq] at printed filled
    omega
  · have filled := List.any_eq_false.mp solid point member
    simp only [whiteSpace,decide_eq_true_eq] at filled
    simp only [unsafeByte,decide_eq_false_iff_not]
    omega

theorem trim_solid_text {value : Text} (solid : value.any whiteSpace = false) : trim whiteSpace value = value := by
  have free := List.any_eq_false.mp solid
  refine trim_eq_self.mpr ⟨fun point first => ?_,fun point last => ?_⟩
  · simpa using free point (List.mem_of_mem_head? first)
  · simpa using free point (List.mem_of_getLast? last)

-- What stands before the path of an accepted reference is written again as it was.
theorem referred_authority (split : Split value parsed opening rooting behind) (named : referable m parsed = true) :
    authority parsed.scheme parsed.netloc parsed.path = rooting ∧ (parsed.netloc ≠ [] → Opens (· = slash) parsed.path) := by
  have kind := split.authority
  rcases referable_scheme named with ⟨_,host,_⟩ | ⟨urn,path⟩
  · have present : parsed.netloc ≠ [] := hostname_netloc host
    generalize parsed.netloc = netloc at kind present ⊢
    cases kind with
    | written rooted => exact ⟨if_pos present,fun _ => rooted⟩
    | absent => exact absurd rfl present
  · obtain ⟨closed,other,_⟩ := urnPath_opens path
    rw [urn]
    generalize parsed.netloc = netloc at kind ⊢
    cases kind with
    | written rooted => exact absurd rooted closed
    | absent =>
      refine ⟨?_,fun present => absurd rfl present⟩
      unfold authority
      rw [if_neg (by decide),if_neg other,if_neg fun used => absurd used.2.1 (by decide)]

theorem sanitized_reference (bare : parsed.scheme = text "urn" → parsed.netloc = [])
    (trimmed : trim whiteSpace value = value) (read : urlsplit m.tables value = some parsed)
    (accepted : sanitizeExternalReference m.tables value = .ok out) :
    out = urlunsplit ⟨parsed.scheme,parsed.netloc,parsed.path,[],[]⟩ := by
  unfold sanitizeExternalReference at accepted
  dsimp only at accepted
  rw [trimmed] at accepted
  obtain ⟨_,accepted⟩ := require_bind_ok.mp accepted
  obtain ⟨_,again,accepted⟩ := orRaise_bind_ok.mp accepted
  cases read.symm.trans again
  split at accepted
  · obtain ⟨_,accepted⟩ := require_bind_ok.mp accepted
    exact (pure_ok.mp accepted).symm
  · rename_i other
    split at accepted
    · rename_i urn
      rw [bare urn.1]
      exact (pure_ok.mp accepted).symm
    · cases accepted

theorem reference_referred (lawful : m.Lawful) (accepted : reference m value = some out) :
    ∃ parts opening body behind, Referred m value parts opening body behind ∧ out = urlunsplit parts ∧
      value.any whiteSpace = false ∧ value.contains 92 = false ∧ (m.unquote value).any control = false ∧
      holdsCredential m.word none (m.unquote value) = false := by
  obtain ⟨_,checked,accepted⟩ := Option.bind_eq_some_iff.mp accepted
  obtain ⟨controls,free,_⟩ := metadata_some.mp checked
  obtain ⟨_,marked,accepted⟩ := Option.bind_eq_some_iff.mp accepted
  have unmarked := (Option.filter_eq_some_iff.mp marked).2
  cases (Option.filter_eq_some_iff.mp marked).1
  obtain ⟨solid,slashed⟩ := Bool.or_eq_false_iff.mp ((Bool.not_eq_true' _).mp unmarked)
  obtain ⟨parsed,found,accepted⟩ := Option.bind_eq_some_iff.mp accepted
  obtain ⟨read,named⟩ := Option.filter_eq_some_iff.mp found
  have schemed : parsed.scheme = text "http" ∨ parsed.scheme = text "https" ∨ parsed.scheme = text "urn" :=
    (referable_scheme named).elim (fun web => .inr (.inl web.1)) fun urn => .inr (.inr urn.1)
  obtain ⟨letter,characters,small⟩ := scheme_written schemed
  have filled : parsed.scheme ≠ [] := fun empty => by simp [empty] at letter
  obtain ⟨valid,opening,rooting,behind,split⟩ := urlsplit_split read filled
  rw [cleaned_reference lawful controls solid] at split
  obtain ⟨authority,rooted⟩ := referred_authority split named
  have clean := split.clean (cleaned_reference lawful controls solid ▸ cleaned_clean value)
  have written : Written ⟨parsed.scheme,parsed.netloc,parsed.path,[],[]⟩ :=
    ⟨letter,characters,small,split.netloc,split.path,rooted,clean,rfl,rfl⟩
  have bare (urn : parsed.scheme = text "urn") : parsed.netloc = [] := by
    rcases referable_scheme named with ⟨web,_⟩ | ⟨_,path⟩
    · exact absurd (web.symm.trans urn) (by decide)
    · by_contra present
      exact (urnPath_opens path).1 (rooted present)
  have kind : (parsed.scheme = text "http" ∨ parsed.scheme = text "https") ∧ parsed.hostname m.tables ≠ none ∧
        parsed.username = none ∧ parsed.password = none ∨
      parsed.scheme = text "urn" ∧ parsed.netloc = [] ∧ parsed.path ≠ [] := by
    rcases referable_scheme named with ⟨web,host⟩ | ⟨urn,path⟩
    · exact .inl ⟨.inr web,host⟩
    · refine .inr ⟨urn,bare urn,fun empty => ?_⟩
      have long := (urnPath_opens path).2.2
      rw [empty] at long
      cases long
  have long : 5 ≤ (urlunsplit ⟨parsed.scheme,parsed.netloc,parsed.path,[],[]⟩).length := by
    rw [urlunsplit_written written]
    simp only [List.length_append,List.length_cons]
    rcases referable_scheme named with ⟨web,_⟩ | ⟨urn,path⟩
    · have five : parsed.scheme.length = 5 := congrArg List.length web
      omega
    · have three : parsed.scheme.length = 3 := congrArg List.length urn
      have path := (urnPath_opens path).2.2
      omega
  refine ⟨⟨parsed.scheme,parsed.netloc,parsed.path,[],[]⟩,opening,rooting ++ parsed.path,behind,?_,?_,solid,slashed,controls,free⟩
  · refine ⟨split.whole,split.characters,split.tail,split.scheme,?_,⟨written,valid,kind⟩,named,long⟩
    rw [urlunsplit_written written]
    dsimp only
    rw [authority]
  · exact sanitized_reference bare (trim_solid_text solid) read (toOption_some.mp accepted)

section
variable {value body behind opening : Text} {parts : SplitResult} (lawful : m.Lawful)

theorem plain_scheme (characters : opening.all schemeCharacter = true) :
    ∀ point ∈ opening ++ [colon], point < 128 ∧ point ≠ 37 ∧ control point = false ∧ whiteSpace point = false ∧
      surrogate point = false ∧ point ≠ 92 := by
  intro point member
  rcases List.mem_append.mp member with scheme | mark
  · have plain := List.all_eq_true.mp characters point scheme
    simp only [schemeCharacter,asciiAlphanumeric,asciiDigit,asciiUpper,asciiLower,decide_eq_true_eq] at plain
    simp only [control,whiteSpace,surrogate,decide_eq_false_iff_not]
    omega
  · cases List.mem_singleton.mp mark
    decide

theorem lowered_lowered (point : Nat) : lowered (lowered point) = lowered point := by
  by_cases upper : asciiUpper point = true
  · have small : ¬asciiUpper (point + 32) = true := by
      simp only [asciiUpper,decide_eq_true_eq] at upper ⊢
      omega
    unfold lowered
    rw [if_pos upper,if_neg small]
  · unfold lowered
    rw [if_neg upper,if_neg upper]

theorem scheme_lowered (characters : opening.all schemeCharacter = true) : (opening.map lowered).all schemeCharacter = true := by
  rw [List.all_map]
  refine List.all_eq_true.mpr fun point member => ?_
  have plain := List.all_eq_true.mp characters point member
  simp only [schemeCharacter,asciiAlphanumeric,asciiDigit,asciiUpper,asciiLower,decide_eq_true_eq] at plain
  simp only [Function.comp,schemeCharacter,asciiAlphanumeric,asciiDigit,asciiUpper,asciiLower,decide_eq_true_eq,lowered]
  split <;> omega

include lawful

-- What is dropped is unquoted by itself.
theorem unquote_parts (referred : Referred m value parts opening body behind) :
    ∃ dropped, m.unquote value = opening ++ colon :: (m.unquote body ++ dropped) := by
  have opened := lawful.plain (opening ++ [colon]) (body ++ behind) fun point member =>
    ⟨(plain_scheme referred.characters point member).1,(plain_scheme referred.characters point member).2.1⟩
  rw [List.append_assoc,List.append_assoc] at opened
  have whole : m.unquote value = opening ++ colon :: m.unquote (body ++ behind) := by rw [referred.whole]; exact opened
  cases behind with
  | nil => exact ⟨[],by rw [whole,List.append_nil,List.append_nil]⟩
  | cons point rest => exact ⟨point :: m.unquote rest,by rw [whole,lawful.marked body point rest (referred.behind point rfl)]⟩

theorem unquote_written (referred : Referred m value parts opening body behind) :
    m.unquote (urlunsplit parts) = opening.map lowered ++ colon :: m.unquote body := by
  rw [referred.written,referred.scheme]
  have opened := lawful.plain (opening.map lowered ++ [colon]) body fun point member =>
    ⟨(plain_scheme (scheme_lowered referred.characters) point member).1,
      (plain_scheme (scheme_lowered referred.characters) point member).2.1⟩
  rwa [List.append_assoc,List.append_assoc] at opened

theorem written_secretFree (referred : Referred m value parts opening body behind)
    (free : holdsCredential m.word none (m.unquote value) = false) :
    holdsCredential m.word none (m.unquote (urlunsplit parts)) = false := by
  obtain ⟨dropped,whole⟩ := unquote_parts lawful referred
  have small : (opening.map lowered ++ colon :: m.unquote body).map lowered = (opening ++ colon :: m.unquote body).map lowered := by
    rw [List.map_append,List.map_append,List.map_map]
    congr 1
    exact List.map_congr_left fun point _ => lowered_lowered point
  have same := holdsCredential_lowered lawful.wordCase none (opening.map lowered ++ colon :: m.unquote body)
  rw [small,holdsCredential_lowered lawful.wordCase none (opening ++ colon :: m.unquote body)] at same
  rw [unquote_written lawful referred,←same]
  by_contra found
  have longer := holdsCredential_append (by simpa using found) dropped
  rw [List.append_assoc,List.cons_append,←whole,free] at longer
  cases longer

theorem written_printed (referred : Referred m value parts opening body behind)
    (printed : (m.unquote value).any control = false) : (m.unquote (urlunsplit parts)).any control = false := by
  obtain ⟨dropped,whole⟩ := unquote_parts lawful referred
  rw [unquote_written lawful referred,List.append_cons,List.any_append,Bool.or_eq_false_iff]
  refine ⟨List.any_eq_false.mpr fun point member => ?_,any_inside (fun point member => ?_) printed⟩
  · have plain := plain_scheme (scheme_lowered referred.characters) point member
    simp [plain.2.2.1]
  · rw [whole]
    exact List.mem_append_right _ (List.mem_cons_of_mem _ (List.mem_append_left _ member))

omit lawful in
-- Each character of what is written is one of the scheme or stood in the reference.
theorem written_member (referred : Referred m value parts opening body behind) {point : Nat} (member : point ∈ urlunsplit parts) :
    (whiteSpace point = false ∧ surrogate point = false ∧ point ≠ 92) ∨ point ∈ value := by
  rw [referred.written,referred.scheme,List.append_cons] at member
  rcases List.mem_append.mp member with scheme | inside
  · have plain := plain_scheme (scheme_lowered referred.characters) point scheme
    exact .inl plain.2.2.2
  · refine .inr ?_
    rw [referred.whole]
    exact List.mem_append_right _ (List.mem_cons_of_mem _ (List.mem_append_left _ inside))

omit lawful in
theorem written_length (referred : Referred m value parts opening body behind) : (urlunsplit parts).length ≤ value.length := by
  rw [referred.written,referred.scheme,referred.whole]
  simp only [List.length_append,List.length_cons,List.length_map]
  omega

theorem reference_again (referred : Referred m value parts opening body behind) (solid : value.any whiteSpace = false)
    (slashed : value.contains 92 = false) (printed : (m.unquote value).any control = false)
    (free : holdsCredential m.word none (m.unquote value) = false) :
    reference m (urlunsplit parts) = some (urlunsplit parts) := by
  have solid' : (urlunsplit parts).any whiteSpace = false := List.any_eq_false.mpr fun point member => by
    rcases written_member referred member with plain | inside
    · simp [plain.1]
    · exact List.any_eq_false.mp solid point inside
  have slashed' : (urlunsplit parts).contains 92 = false := by
    rw [List.contains_eq_any_beq,List.any_eq_false] at slashed ⊢
    intro point member
    rcases written_member referred member with plain | inside
    · simpa using Ne.symm plain.2.2
    · exact slashed point inside
  have read := urlsplit_urlunsplit m.tables referred.sanitized.toWritten
  rw [if_pos referred.sanitized.valid] at read
  have closed : endsInSpace (urlunsplit parts) = false := by
    unfold endsInSpace
    cases last : (urlunsplit parts).getLast? with
    | none => rfl
    | some point => simpa using List.any_eq_false.mp solid' point (List.mem_of_getLast? last)
  refine Option.bind_eq_some_iff.mpr ⟨_,metadata_some.mpr ⟨written_printed lawful referred printed,
    written_secretFree lawful referred free,rfl⟩,?_⟩
  refine Option.bind_eq_some_iff.mpr ⟨_,Option.filter_eq_some_iff.mpr ⟨rfl,by rw [solid',slashed']; rfl⟩,?_⟩
  refine Option.bind_eq_some_iff.mpr ⟨parts,Option.filter_eq_some_iff.mpr ⟨read,referred.referable⟩,?_⟩
  exact toOption_some.mpr (sanitizeExternalReference_again referred.sanitized closed)

theorem sourceReference_settles : Settles (sourceReference m) := by
  intro raw value accepted
  obtain ⟨_,plain,accepted⟩ := Option.bind_eq_some_iff.mp accepted
  obtain ⟨surrogates,rfl⟩ := plainText_some.mp plain
  split at accepted
  · rename_i sized
    obtain ⟨parts,opening,body,behind,referred,rfl,solid,slashed,printed,free⟩ := reference_referred lawful accepted
    have plain : plainText (urlunsplit parts) = some (urlunsplit parts) := by
      refine plainText_some.mpr ⟨List.any_eq_false.mpr fun point member => ?_,rfl⟩
      rcases written_member referred member with plain | inside
      · simp [plain.2.1]
      · exact List.any_eq_false.mp surrogates point inside
    refine Option.bind_eq_some_iff.mpr ⟨_,plain,?_⟩
    rw [if_pos ⟨referred.long,(written_length referred).trans sized.2⟩]
    exact reference_again lawful referred solid slashed printed free
  · cases accepted

end
end
end EngineeringPlatform.Dossiers
