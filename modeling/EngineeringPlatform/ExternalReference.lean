import EngineeringPlatform.Checked
import EngineeringPlatform.UrlParse
namespace EngineeringPlatform.Security
open Checked PythonText Trimming UrlParse

-- The `ValueError`s of a reference; `unreadable` is the one of `urlsplit`.
inductive ReferenceError where
  | message (text : String)
  | unreadable
  deriving DecidableEq

def sanitizeExternalReference (tables : Tables) (value : Text) : Except ReferenceError Text := do
  let normalized := trim whiteSpace value
  require (normalized ≠ []) (.message "external reference is required")
  let parsed ← orRaise (urlsplit tables normalized) .unreadable
  if parsed.scheme = text "http" ∨ parsed.scheme = text "https" then
    require (parsed.hostname tables ≠ none ∧ parsed.username = none ∧ parsed.password = none)
      (.message "external URL is invalid")
    pure (urlunsplit ⟨parsed.scheme,parsed.netloc,parsed.path,[],[]⟩)
  else if parsed.scheme = text "urn" ∧ parsed.path ≠ [] then
    pure (urlunsplit ⟨parsed.scheme,[],parsed.path,[],[]⟩)
  else .error (.message "external reference must use https, http, or urn")

-- The text of a reference in front of its query and its fragment.
def referenced (value : Text) : Text := (cut ending (cleaned (trim whiteSpace value))).1

def endsInSpace (value : Text) : Bool := value.getLast?.any whiteSpace

-- Nothing is left of a reference that could carry a credential.
structure Stable (tables : Tables) (reference : Text) : Prop where
  split : ∃ parts, urlsplit tables reference = some parts ∧ parts.username = none ∧ parts.password = none ∧
    parts.query = [] ∧ parts.fragment = []
  query : question ∉ reference
  fragment : hash ∉ reference

-- What a reference is sanitised to: its parts, as they are written.
structure Sanitized (tables : Tables) (parts : SplitResult) : Prop extends Written parts where
  valid : netlocValid tables parts.netloc = true
  kind : (parts.scheme = text "http" ∨ parts.scheme = text "https") ∧ parts.hostname tables ≠ none ∧
      parts.username = none ∧ parts.password = none ∨
    parts.scheme = text "urn" ∧ parts.netloc = [] ∧ parts.path ≠ []

theorem scheme_written (known : scheme = text "http" ∨ scheme = text "https" ∨ scheme = text "urn") :
    scheme.head?.any asciiLetter = true ∧ scheme.all schemeCharacter = true ∧ scheme.map lowered = scheme := by
  rcases known with rfl | rfl | rfl <;> decide

theorem endsInSpace_append (start : Text) (filled : rest ≠ []) : endsInSpace (start ++ rest) = endsInSpace rest := by
  unfold endsInSpace
  rw [List.getLast?_append,List.getLast?_eq_some_getLast filled]
  rfl

theorem sanitized_length (split : Split url parts opening rooting behind) (same : written.length ≤ rooting.length) :
    (parts.scheme ++ colon :: (written ++ parts.path)).length ≤ url.length := by
  rw [split.whole,split.scheme]
  simp only [List.length_append,List.length_cons,List.length_map]
  omega

-- A dropped authority is not made up for by a longer one.
theorem authority_short (kind : Authority netloc path rooting) :
    (authority (text "urn") [] path).length ≤ rooting.length := by
  unfold authority
  rw [if_neg (by decide)]
  split
  · rename_i begins
    cases kind with
    | written => simp [twoSlashes]
    | absent other => exact absurd begins other
  · rw [if_neg fun used => absurd used.2.1 (by decide)]
    exact Nat.zero_le _

-- An accepted reference is what is left of the parts it was split into.
theorem sanitizeExternalReference_ok (accepted : sanitizeExternalReference tables value = .ok reference) :
    ∃ parts, Sanitized tables parts ∧ reference = urlunsplit parts ∧
      endsInSpace reference = endsInSpace (referenced value) ∧ reference.length ≤ (trim whiteSpace value).length ∧
      ∃ parsed, urlsplit tables (trim whiteSpace value) = some parsed ∧ parts.scheme = parsed.scheme ∧
        (parsed.scheme = text "urn" ∨ parts.netloc = parsed.netloc) := by
  unfold sanitizeExternalReference at accepted
  obtain ⟨_,accepted⟩ := require_bind_ok.mp accepted
  obtain ⟨parsed,read,accepted⟩ := orRaise_bind_ok.mp accepted
  have short : (cleaned (trim whiteSpace value)).length ≤ (trim whiteSpace value).length := cleaned_length _
  split at accepted
  · rename_i web
    obtain ⟨⟨named,user,password⟩,accepted⟩ := require_bind_ok.mp accepted
    cases pure_ok.mp accepted
    have schemed : parsed.scheme ≠ [] := by
      rcases web with same | same <;>
        · rw [same]
          decide
    obtain ⟨valid,opening,rooting,behind,split⟩ := urlsplit_split read schemed
    obtain ⟨letter,characters,small⟩ := scheme_written (web.imp_right .inl)
    have present : parsed.netloc ≠ [] := hostname_netloc named
    have rooted : rooting = twoSlashes ++ parsed.netloc ∧ Opens (· = slash) parsed.path := by
      have kind := split.authority
      generalize parsed.netloc = netloc at kind present
      cases kind with
      | written rooted => exact ⟨rfl,rooted⟩
      | absent => exact absurd rfl present
    have clean := split.clean (cleaned_clean _)
    have written : Written ⟨parsed.scheme,parsed.netloc,parsed.path,[],[]⟩ :=
      ⟨letter,characters,small,split.netloc,split.path,fun _ => rooted.2,clean,rfl,rfl⟩
    have authority : authority parsed.scheme parsed.netloc parsed.path = rooting := (if_pos present).trans rooted.1.symm
    refine ⟨_,⟨written,valid,.inl ⟨web,named,user,password⟩⟩,rfl,?_,?_,parsed,read,rfl,.inr rfl⟩
    · rw [urlunsplit_written written]
      unfold referenced
      rw [split.ended]
      dsimp only
      have filled : twoSlashes ++ parsed.netloc ++ parsed.path ≠ [] := by simp [twoSlashes]
      rw [authority,rooted.1,List.append_cons,endsInSpace_append _ filled,List.append_cons opening,
        endsInSpace_append _ filled]
    · rw [urlunsplit_written written]
      exact (sanitized_length split (Nat.le_of_eq (congrArg List.length authority))).trans short
  · split at accepted
    · rename_i stable
      cases pure_ok.mp accepted
      have schemed : parsed.scheme ≠ [] := by
        rw [stable.1]
        decide
      obtain ⟨_,opening,rooting,behind,split⟩ := urlsplit_split read schemed
      obtain ⟨letter,characters,small⟩ := scheme_written (.inr (.inr stable.1))
      have clean := split.clean (cleaned_clean _)
      have written : Written ⟨parsed.scheme,[],parsed.path,[],[]⟩ :=
        ⟨letter,characters,small,nofun,split.path,fun absurd => (absurd rfl).elim,⟨nofun,clean.2⟩,rfl,rfl⟩
      have valid : netlocValid tables [] = true := by simp [netlocValid,normalizes]
      refine ⟨_,⟨written,valid,.inr ⟨stable.1,rfl,stable.2⟩⟩,rfl,?_,?_,parsed,read,rfl,.inl stable.1⟩
      · rw [urlunsplit_written written]
        unfold referenced
        rw [split.ended]
        dsimp only
        rw [List.append_cons,←List.append_assoc,endsInSpace_append _ stable.2,List.append_cons opening,←List.append_assoc,
          endsInSpace_append _ stable.2]
      · rw [urlunsplit_written written]
        refine (sanitized_length split ?_).trans short
        rw [stable.1]
        exact authority_short split.authority
    · cases accepted

theorem sanitized_stable (sanitized : Sanitized tables parts) : Stable tables (urlunsplit parts) := by
  have read := urlsplit_urlunsplit tables sanitized.toWritten
  rw [if_pos sanitized.valid] at read
  have free := written_free sanitized.toWritten
  refine ⟨⟨parts,read,?_,?_,sanitized.query,sanitized.fragment⟩,fun member => ?_,fun member => ?_⟩
  · rcases sanitized.kind with ⟨_,_,user,_⟩ | ⟨_,bare,_⟩
    · exact user
    · simp [SplitResult.username,bare]
  · rcases sanitized.kind with ⟨_,_,_,password⟩ | ⟨_,bare,_⟩
    · exact password
    · simp [SplitResult.password,bare]
  · exact absurd (free question member) (by decide)
  · exact absurd (free hash member) (by decide)

theorem sanitized_solid (sanitized : Sanitized tables parts) (solid : endsInSpace (urlunsplit parts) = false) :
    Solid whiteSpace (urlunsplit parts) := by
  refine ⟨fun point first => ?_,fun point last => ?_⟩
  · rw [urlunsplit_written sanitized.toWritten] at first
    have known : parts.scheme = text "http" ∨ parts.scheme = text "https" ∨ parts.scheme = text "urn" := by
      rcases sanitized.kind with ⟨web,_⟩ | ⟨stable,_⟩
      · exact web.imp_right .inl
      · exact .inr (.inr stable)
    rcases known with same | same | same <;>
      · rw [same] at first
        cases first
        decide
  · unfold endsInSpace at solid
    rwa [last] at solid

theorem sanitizeExternalReference_again (sanitized : Sanitized tables parts)
    (solid : endsInSpace (urlunsplit parts) = false) :
    sanitizeExternalReference tables (urlunsplit parts) = .ok (urlunsplit parts) := by
  have trimmed := trim_eq_self.mpr (sanitized_solid sanitized solid)
  have present : urlunsplit parts ≠ [] := by
    rw [urlunsplit_written sanitized.toWritten]
    simp
  have read := urlsplit_urlunsplit tables sanitized.toWritten
  rw [if_pos sanitized.valid] at read
  have same : urlunsplit ⟨parts.scheme,parts.netloc,parts.path,[],[]⟩ = urlunsplit parts := by
    have query := sanitized.query
    have fragment := sanitized.fragment
    cases parts
    cases query
    cases fragment
    rfl
  unfold sanitizeExternalReference
  dsimp only
  rw [trimmed]
  refine require_bind_ok.mpr ⟨present,orRaise_bind_ok.mpr ⟨parts,read,?_⟩⟩
  rcases sanitized.kind with ⟨web,named⟩ | ⟨stable,bare,path⟩
  · rw [if_pos web]
    exact require_bind_ok.mpr ⟨named,pure_ok.mpr same⟩
  · have other : ¬(parts.scheme = text "http" ∨ parts.scheme = text "https") := by
      rw [stable]
      decide
    have dropped : urlunsplit ⟨parts.scheme,[],parts.path,[],[]⟩ = urlunsplit parts := by rw [←same,bare]
    rw [if_neg other,if_pos ⟨stable,path⟩]
    exact pure_ok.mpr dropped

-- Whether a reference stays as it is depends on where its query or fragment was cut off.
theorem external_reference_stable (accepted : sanitizeExternalReference tables value = .ok reference) :
    Stable tables reference ∧
      (sanitizeExternalReference tables reference = .ok reference ↔ endsInSpace (referenced value) = false) := by
  obtain ⟨parts,sanitized,rfl,ends,_⟩ := sanitizeExternalReference_ok accepted
  refine ⟨sanitized_stable sanitized,fun again => ?_,fun solid => ?_⟩
  · obtain ⟨_,_,_,_,short,_⟩ := sanitizeExternalReference_ok again
    have whole : trim whiteSpace (urlunsplit parts) = urlunsplit parts := trim_inside.eq_of_length_le short
    rw [←ends]
    cases last : (urlunsplit parts).getLast? with
    | none => simp [endsInSpace,last]
    | some point => simp [endsInSpace,last,(trim_eq_self.mp whole).last point last]
  · exact sanitizeExternalReference_again sanitized (ends.trans solid)

-- No Unicode table is asked about a host in ASCII.
def asciiTables : Tables := ⟨id,List.map lowered,fun _ => false⟩

theorem external_reference_stable_sample :
    Stable asciiTables (text "https://jenkins.example.test/job") ∧
      sanitizeExternalReference asciiTables (text "https://jenkins.example.test/job") =
        .ok (text "https://jenkins.example.test/job") := by
  have accepted : sanitizeExternalReference asciiTables (text " https://jenkins.example.test/job?token=secret#console") =
      .ok (text "https://jenkins.example.test/job") := by decide
  obtain ⟨stable,again⟩ := external_reference_stable accepted
  exact ⟨stable,again.mpr (by decide)⟩

theorem external_reference_unstable :
    ¬ ∀ (value reference : Text), sanitizeExternalReference asciiTables value = .ok reference →
      Stable asciiTables reference ∧ sanitizeExternalReference asciiTables reference = .ok reference := by
  intro claim
  have accepted : sanitizeExternalReference asciiTables (text "https://jenkins.example.test/job ?token=secret") =
      .ok (text "https://jenkins.example.test/job ") := by decide
  have again : sanitizeExternalReference asciiTables (text "https://jenkins.example.test/job ") =
      .ok (text "https://jenkins.example.test/job") := by decide
  have unchanged := (claim _ _ accepted).2
  rw [again] at unchanged
  exact absurd unchanged (by decide)

end EngineeringPlatform.Security
