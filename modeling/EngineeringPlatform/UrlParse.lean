import EngineeringPlatform.PythonText
import EngineeringPlatform.Trimming
-- `urllib.parse` on a str: how a reference is split into its parts, and how parts are
-- put together again.
namespace UrlParse
open PythonText Trimming

-- What it takes from elsewhere: NFKC and `str.lower`, and which texts `ipaddress` reads
-- as an IPv6 address.
structure Tables where
  nfkc : Text → Text
  lower : Text → Text
  ipv6 : Text → Bool

structure SplitResult where
  scheme : Text
  netloc : Text
  path : Text
  query : Text
  fragment : Text
  deriving DecidableEq

def colon : Nat := 58
def slash : Nat := 47
def question : Nat := 63
def hash : Nat := 35
def at' : Nat := 64
def openBracket : Nat := 91
def closeBracket : Nat := 93

def isColon (point : Nat) : Bool := point = colon
def isQuestion (point : Nat) : Bool := point = question
def isHash (point : Nat) : Bool := point = hash
def delimiter (point : Nat) : Bool := point = slash ∨ point = question ∨ point = hash

-- `_WHATWG_C0_CONTROL_OR_SPACE` and `_UNSAFE_URL_BYTES_TO_REMOVE`
def controlOrSpace (point : Nat) : Bool := point ≤ 32
def unsafeByte (point : Nat) : Bool := point = 9 ∨ point = 10 ∨ point = 13

def schemeCharacter (point : Nat) : Bool := asciiAlphanumeric point ∨ point = 43 ∨ point = 45 ∨ point = 46
def asciiLetter (point : Nat) : Bool := asciiUpper point ∨ asciiLower point
def hexDigit (point : Nat) : Bool := asciiDigit point ∨ (65 ≤ point ∧ point ≤ 70) ∨ (97 ≤ point ∧ point ≤ 102)

def cleaned (value : Text) : Text := (value.dropWhile controlOrSpace).filter (!unsafeByte ·)

def cutScheme (url : Text) : Text × Text :=
  match cut isColon url with
  | (opening,_ :: rest) =>
    if opening.head?.any asciiLetter ∧ opening.all schemeCharacter then (opening.map lowered,rest) else ([],url)
  | (_,[]) => ([],url)

-- `_splitnetloc`, behind two slashes.
def cutNetloc : Text → Text × Text
  | one :: two :: rest => if one = slash ∧ two = slash then cut delimiter rest else ([],one :: two :: rest)
  | url => ([],url)

-- `partition` and `rpartition`, without the separator.
def partition (separator : Nat) (value : Text) : Text × Text :=
  let (before,after) := cut (· = separator) value
  (before,after.drop 1)

def behindLast (separator : Nat) (value : Text) : Text := (value.reverse.takeWhile (· ≠ separator)).reverse

-- `\Av[a-fA-F0-9]+\..+\Z`
def ipvFuture : Text → Bool
  | 118 :: rest =>
    match cut (!hexDigit ·) rest with
    | (_ :: _,46 :: _ :: _) => true
    | _ => false
  | _ => false

def bracketedHost (tables : Tables) (host : Text) : Bool :=
  if host.head? = some 118 then ipvFuture host else tables.ipv6 host

-- `_hostinfo`: the host and the text behind its colon.
def hostinfo (netloc : Text) : Text × Text :=
  let info := behindLast at' netloc
  if info.contains openBracket then
    let (host,behind) := partition closeBracket (partition openBracket info).2
    (host,(partition colon behind).2)
  else partition colon info

-- `_check_bracketed_netloc`: nothing stands before a bracket, nor between it and the port.
def bracketedNetloc (tables : Tables) (netloc : Text) : Bool :=
  let info := behindLast at' netloc
  let (before,bracketed) := partition openBracket info
  if info.contains openBracket then
    let (host,behind) := partition closeBracket bracketed
    before = [] ∧ behind.head?.all isColon ∧ bracketedHost tables host
  else bracketedHost tables (partition colon info).1

-- `_checknetloc`
def normalizes (tables : Tables) (netloc : Text) : Bool :=
  let reduced := netloc.filter fun point => ¬(point = at' ∨ point = colon ∨ point = hash ∨ point = question)
  let normalized := tables.nfkc reduced
  netloc.all (· < 128) ∨ reduced = normalized ∨
    normalized.all fun point => ¬(delimiter point ∨ point = at' ∨ point = colon)

def netlocValid (tables : Tables) (netloc : Text) : Bool :=
  netloc.contains openBracket = netloc.contains closeBracket ∧
    (netloc.contains openBracket → bracketedNetloc tables netloc) ∧ normalizes tables netloc

-- Without a result it raises ValueError.
def urlsplit (tables : Tables) (value : Text) : Option SplitResult :=
  let (scheme,url) := cutScheme (cleaned value)
  let (netloc,url) := cutNetloc url
  let (url,fragment) := cut isHash url
  let (path,query) := cut isQuestion url
  if netlocValid tables netloc then some ⟨scheme,netloc,path,query.drop 1,fragment.drop 1⟩ else none

namespace SplitResult
variable (parts : SplitResult)

-- The user and the password, where an `@` stands in the netloc.
def username : Option Text :=
  if parts.netloc.contains at' then some (partition colon (parts.netloc.reverse.dropWhile (· ≠ at')).tail.reverse).1 else none

def password : Option Text :=
  if parts.netloc.contains at' then
    let info := (parts.netloc.reverse.dropWhile (· ≠ at')).tail.reverse
    if info.contains colon then some (partition colon info).2 else none
  else none

-- A zone behind the address is not lowercased.
def hostname (tables : Tables) : Option Text :=
  let host := (hostinfo parts.netloc).1
  if host = [] then none
  else
    let (address,zone) := cut (· = 37) host
    some (tables.lower address ++ zone)

-- Without a result it raises ValueError.
def port : Option (Option Nat) :=
  let digits := (hostinfo parts.netloc).2
  if digits = [] then some none
  else if digits.all asciiDigit then
    let number := digits.foldl (fun number digit => number * 10 + (digit - 48)) 0
    if number ≤ 65535 then some (some number) else none
  else none

end SplitResult

def usesNetloc : List Text :=
  [text "",text "ftp",text "http",text "gopher",text "nntp",text "telnet",text "imap",text "wais",text "file",text "mms",
    text "https",text "shttp",text "snews",text "prospero",text "rtsp",text "rtsps",text "rtspu",text "rsync",text "svn",
    text "svn+ssh",text "sftp",text "nfs",text "git",text "git+ssh",text "ws",text "wss"]

def twoSlashes : Text := [slash,slash]

-- An empty authority is written before a path that begins with two slashes.
def authority (scheme netloc path : Text) : Text :=
  if netloc ≠ [] then twoSlashes ++ netloc
  else if path.take 2 = twoSlashes then twoSlashes
  else if scheme ≠ [] ∧ scheme ∈ usesNetloc ∧ path.head?.all (· = slash) then twoSlashes
  else []

def urlunsplit (parts : SplitResult) : Text :=
  let rooted := if parts.netloc ≠ [] ∧ parts.path.head?.any (· ≠ slash) then slash :: parts.path else parts.path
  (if parts.scheme = [] then [] else parts.scheme ++ [colon]) ++ authority parts.scheme parts.netloc parts.path ++ rooted ++
    (if parts.query = [] then [] else question :: parts.query) ++ (if parts.fragment = [] then [] else hash :: parts.fragment)

theorem schemeCharacter_plain {point : Nat} (plain : schemeCharacter point = true) :
    isColon point = false ∧ unsafeByte point = false ∧ controlOrSpace point = false := by
  simp only [schemeCharacter,asciiAlphanumeric,asciiDigit,asciiUpper,asciiLower,decide_eq_true_eq] at plain
  simp only [isColon,unsafeByte,controlOrSpace,decide_eq_false_iff_not]
  unfold colon
  omega

-- The query and the fragment begin here.
def ending (point : Nat) : Bool := point = question ∨ point = hash

theorem schemeCharacter_ending {point : Nat} (plain : schemeCharacter point = true) : ending point = false := by
  simp only [schemeCharacter,asciiAlphanumeric,asciiDigit,asciiUpper,asciiLower,decide_eq_true_eq] at plain
  simp only [ending,decide_eq_false_iff_not]
  unfold question hash
  omega

theorem netloc_ending (free : Free delimiter netloc) : Free ending netloc := by
  intro point member
  have plain := free point member
  simp only [delimiter,decide_eq_false_iff_not,not_or] at plain
  simp [ending,plain]

-- Parts without a query and a fragment that can be read back once they are written.
structure Written (parts : SplitResult) : Prop where
  letter : parts.scheme.head?.any asciiLetter = true
  characters : parts.scheme.all schemeCharacter = true
  small : parts.scheme.map lowered = parts.scheme
  netloc : Free delimiter parts.netloc
  path : Free ending parts.path
  rooted : parts.netloc ≠ [] → Opens (· = slash) parts.path
  clean : Free unsafeByte parts.netloc ∧ Free unsafeByte parts.path
  query : parts.query = []
  fragment : parts.fragment = []

theorem cleaned_of_clean (first : ∀ point, value.head? = some point → controlOrSpace point = false)
    (clean : Free unsafeByte value) : cleaned value = value := by
  unfold cleaned
  rw [dropWhile_eq_self.mpr first]
  exact List.filter_eq_self.mpr fun point member => by simp [clean point member]

theorem cleaned_clean (value : Text) : Free unsafeByte (cleaned value) := by
  intro point member
  simpa using (List.mem_filter.mp member).2

theorem cleaned_length (value : Text) : (cleaned value).length ≤ value.length :=
  (List.length_filter_le _ _).trans (List.dropWhile_sublist _).length_le

-- What stands between the scheme and the path.
inductive Authority : Text → Text → Text → Prop where
  | written : Opens (· = slash) path → Authority netloc path (twoSlashes ++ netloc)
  | absent : path.take 2 ≠ twoSlashes → Authority [] path []

theorem twoSlashes_opens {path : Text} (begins : path.take 2 = twoSlashes) : Opens (· = slash) path := by
  intro point first
  cases path with
  | nil => cases first
  | cons head rest =>
    cases first
    exact decide_eq_true (List.cons.inj begins).1

theorem twoSlashes_length {path : Text} (begins : path.take 2 = twoSlashes) : 2 ≤ path.length := by
  have two := congrArg List.length begins
  rw [List.length_take] at two
  change min 2 _ = 2 at two
  omega

theorem authority_kind (rooted : netloc ≠ [] → Opens (· = slash) path) :
    Authority netloc path (authority scheme netloc path) := by
  unfold authority
  split
  · rename_i present
    exact .written (rooted present)
  · rename_i none
    rw [Decidable.not_not.mp none]
    split
    · rename_i begins
      exact .written (twoSlashes_opens begins)
    · rename_i other
      split
      · rename_i used
        refine .written fun point first => ?_
        have head := used.2.2
        rw [first] at head
        exact head
      · exact .absent other

theorem cutNetloc_authority (kind : Authority netloc path rooting) (free : Free delimiter netloc) :
    cutNetloc (rooting ++ path) = (netloc,path) := by
  cases kind with
  | written rooted =>
    refine cut_of_parts free fun point first => ?_
    simp [delimiter,of_decide_eq_true (rooted point first)]
  | absent other =>
    match path with
    | [] => rfl
    | [_] => rfl
    | one :: two :: rest =>
      have apart : ¬(one = slash ∧ two = slash) := fun ⟨first,second⟩ => other (by rw [first,second]; rfl)
      exact if_neg apart

-- The authority brings no character of its own.
theorem Authority.free {stops : Nat → Bool} (kind : Authority netloc path rooting) (slashes : stops slash = false)
    (free : Free stops netloc) : Free stops rooting := by
  cases kind with
  | written =>
    refine Free.append (fun point member => ?_) free
    rcases List.mem_cons.mp member with rfl | later
    · exact slashes
    · rw [List.mem_singleton.mp later]
      exact slashes
  | absent => exact nofun

theorem urlunsplit_written (written : Written parts) :
    urlunsplit parts = parts.scheme ++ colon :: (authority parts.scheme parts.netloc parts.path ++ parts.path) := by
  have present : parts.scheme ≠ [] := fun empty => by simpa [empty] using written.letter
  have rooted : ¬(parts.netloc ≠ [] ∧ parts.path.head?.any (· ≠ slash) = true) := by
    rintro ⟨host,begins⟩
    cases first : parts.path.head? with
    | none => simp [first] at begins
    | some point =>
      rw [first,Option.any_some,of_decide_eq_true (written.rooted host point first)] at begins
      simp at begins
  unfold urlunsplit
  dsimp only
  rw [if_neg rooted,if_neg present,written.query,written.fragment,if_pos rfl,if_pos rfl]
  simp only [List.append_nil,List.append_assoc,List.cons_append,List.nil_append]

theorem written_free (written : Written parts) : Free ending (urlunsplit parts) := by
  rw [urlunsplit_written written]
  refine Free.append (fun point member => ?_) fun point member => ?_
  · exact schemeCharacter_ending (List.all_eq_true.mp written.characters point member)
  · rcases List.mem_cons.mp member with rfl | later
    · rfl
    · exact Free.append ((authority_kind written.rooted).free rfl (netloc_ending written.netloc)) written.path point later

theorem written_clean (written : Written parts) :
    Free unsafeByte (parts.scheme ++ colon :: (authority parts.scheme parts.netloc parts.path ++ parts.path)) := by
  refine Free.append (fun point member => ?_) fun point member => ?_
  · exact (schemeCharacter_plain (List.all_eq_true.mp written.characters point member)).2.1
  · rcases List.mem_cons.mp member with rfl | later
    · rfl
    · rcases List.mem_append.mp later with rooting | path
      · exact (authority_kind written.rooted).free rfl written.clean.1 point rooting
      · exact written.clean.2 point path

theorem cutScheme_written (written : Written parts) (rest : Text) :
    cutScheme (parts.scheme ++ colon :: rest) = (parts.scheme,rest) := by
  have free : Free isColon parts.scheme := fun point member =>
    (schemeCharacter_plain (List.all_eq_true.mp written.characters point member)).1
  have parted : cut isColon (parts.scheme ++ colon :: rest) = (parts.scheme,colon :: rest) :=
    cut_of_parts free fun point first => by cases first; rfl
  unfold cutScheme
  rw [parted]
  dsimp only
  rw [if_pos ⟨written.letter,written.characters⟩,written.small]

theorem urlsplit_urlunsplit (tables : Tables) (written : Written parts) :
    urlsplit tables (urlunsplit parts) = if netlocValid tables parts.netloc then some parts else none := by
  have kind : Authority parts.netloc parts.path (authority parts.scheme parts.netloc parts.path) := authority_kind written.rooted
  have opening (point : Nat) (first : (urlunsplit parts).head? = some point) : controlOrSpace point = false := by
    rw [urlunsplit_written written] at first
    cases scheme : parts.scheme with
    | nil => simpa [scheme] using written.letter
    | cons letter rest =>
      rw [scheme] at first
      have same : letter = point := Option.some.inj first
      rw [←same]
      have plain := List.all_eq_true.mp written.characters letter (by rw [scheme]; exact List.mem_cons_self)
      exact (schemeCharacter_plain plain).2.2
  have whole := cleaned_of_clean opening (urlunsplit_written written ▸ written_clean written)
  have noHash : cut isHash parts.path = (parts.path,[]) :=
    cut_of_free fun point member => by
      have plain := written.path point member
      simp only [ending,decide_eq_false_iff_not,not_or] at plain
      simp [isHash,plain.2]
  have noQuestion : cut isQuestion parts.path = (parts.path,[]) :=
    cut_of_free fun point member => by
      have plain := written.path point member
      simp only [ending,decide_eq_false_iff_not,not_or] at plain
      simp [isQuestion,plain.1]
  unfold urlsplit
  rw [whole,urlunsplit_written written,cutScheme_written written]
  dsimp only
  rw [cutNetloc_authority kind written.netloc]
  dsimp only
  rw [noHash]
  dsimp only
  rw [noQuestion]
  dsimp only
  have same : (⟨parts.scheme,parts.netloc,parts.path,List.drop 1 [],List.drop 1 []⟩ : SplitResult) = parts := by
    have query := written.query
    have fragment := written.fragment
    cases parts
    cases query
    cases fragment
    rfl
  rw [same]

theorem hostname_netloc {parts : SplitResult} (named : parts.hostname tables ≠ none) : parts.netloc ≠ [] := by
  intro empty
  refine named ?_
  unfold SplitResult.hostname
  rw [empty]
  rfl

-- What a split says of the text it was made from. Behind the path comes a query, a
-- fragment or nothing.
structure Split (url : Text) (parts : SplitResult) (opening rooting tail : Text) : Prop where
  whole : url = opening ++ colon :: (rooting ++ parts.path ++ tail)
  letter : opening.head?.any asciiLetter = true
  characters : opening.all schemeCharacter = true
  scheme : parts.scheme = opening.map lowered
  authority : Authority parts.netloc parts.path rooting
  netloc : Free delimiter parts.netloc
  path : Free ending parts.path
  tail : Opens ending tail

theorem cutNetloc_sound (url : Text) :
    ∃ rooting, url = rooting ++ (cutNetloc url).2 ∧ Free delimiter (cutNetloc url).1 ∧
      (rooting = twoSlashes ++ (cutNetloc url).1 ∧ Opens delimiter (cutNetloc url).2 ∨
        rooting = [] ∧ (cutNetloc url).1 = [] ∧ url.take 2 ≠ twoSlashes) := by
  match url with
  | [] => exact ⟨[],rfl,nofun,.inr ⟨rfl,rfl,nofun⟩⟩
  | [one] => exact ⟨[],rfl,nofun,.inr ⟨rfl,rfl,nofun⟩⟩
  | one :: two :: rest =>
    unfold cutNetloc
    dsimp only
    split
    · rename_i slashes
      refine ⟨twoSlashes ++ (cut delimiter rest).1,?_,cut_free rest,.inl ⟨rfl,cut_opens rest⟩⟩
      rw [List.append_assoc,cut_append,slashes.1,slashes.2]
      rfl
    · rename_i other
      refine ⟨[],rfl,nofun,.inr ⟨rfl,rfl,fun begins => other ?_⟩⟩
      obtain ⟨first,second⟩ := List.cons.inj begins
      exact ⟨first,(List.cons.inj second).1⟩

theorem cutScheme_sound (schemed : (cutScheme url).1 ≠ []) :
    ∃ opening, url = opening ++ colon :: (cutScheme url).2 ∧ opening.head?.any asciiLetter = true ∧
      opening.all schemeCharacter = true ∧ (cutScheme url).1 = opening.map lowered := by
  have whole := @cut_append _ isColon url
  have opens := @cut_opens _ isColon url
  unfold cutScheme at schemed ⊢
  rcases parted : cut isColon url with ⟨opening,_ | ⟨point,rest⟩⟩
  · rw [parted] at schemed
    exact absurd rfl schemed
  · rw [parted] at schemed whole opens
    dsimp only at schemed whole opens ⊢
    split at schemed
    · rename_i plain
      rw [if_pos plain]
      refine ⟨opening,?_,plain.1,plain.2,rfl⟩
      rw [←whole,of_decide_eq_true (opens point rfl)]
    · exact absurd rfl schemed

-- A path ends where the query or the fragment begins.
theorem cutPath_sound (url : Text) :
    ∃ tail, url = (cut isQuestion (cut isHash url).1).1 ++ tail ∧ Free ending (cut isQuestion (cut isHash url).1).1 ∧
      Opens ending tail := by
  refine ⟨(cut isQuestion (cut isHash url).1).2 ++ (cut isHash url).2,?_,fun point member => ?_,fun point first => ?_⟩
  · rw [←List.append_assoc,cut_append,cut_append]
  · have question := @cut_free _ isQuestion _ point member
    have unhashed : isHash point = false := by
      refine @cut_free _ isHash url point ?_
      rw [←@cut_append _ isQuestion (cut isHash url).1]
      exact List.mem_append_left _ member
    simp only [isQuestion,isHash,decide_eq_false_iff_not] at question unhashed
    simp [ending,question,unhashed]
  · rw [List.head?_append] at first
    cases questioned : (cut isQuestion (cut isHash url).1).2.head? with
    | some other =>
      rw [questioned] at first
      cases first
      have question := of_decide_eq_true (@cut_opens _ isQuestion (cut isHash url).1 point questioned)
      simp [ending,question]
    | none =>
      rw [questioned] at first
      have hashed := of_decide_eq_true (@cut_opens _ isHash url point first)
      simp [ending,hashed]

theorem urlsplit_split (read : urlsplit tables value = some parts) (schemed : parts.scheme ≠ []) :
    netlocValid tables parts.netloc = true ∧ ∃ opening rooting tail, Split (cleaned value) parts opening rooting tail := by
  unfold urlsplit at read
  dsimp only at read
  split at read
  · rename_i valid
    cases read
    obtain ⟨opening,whole,letter,characters,scheme⟩ := cutScheme_sound schemed
    obtain ⟨rooting,behind,free,kind⟩ := cutNetloc_sound (cutScheme (cleaned value)).2
    obtain ⟨tail,parted,path,opens⟩ := cutPath_sound (cutNetloc (cutScheme (cleaned value)).2).2
    refine ⟨valid,opening,rooting,tail,?_,letter,characters,scheme,?_,free,path,opens⟩
    · rw [List.append_assoc,←parted,←behind]
      exact whole
    · rcases kind with ⟨rfl,rest⟩ | ⟨rfl,absent,other⟩
      · refine .written fun point first => ?_
        have begins := rest point (by rw [parted,List.head?_append,first]; rfl)
        have plain := path point (List.mem_of_mem_head? first)
        simp only [ending,decide_eq_false_iff_not,not_or] at plain
        simpa [delimiter,plain] using begins
      · rw [absent]
        refine .absent fun begins => other ?_
        rw [behind,List.nil_append,parted,List.take_append_of_le_length (twoSlashes_length begins)]
        exact begins
  · cases read

-- What a reference has in front of its query is its scheme and the rest as written.
theorem Split.ended (split : Split url parts opening rooting behind) :
    (cut ending url).1 = opening ++ colon :: (rooting ++ parts.path) := by
  have opened : Free ending opening := fun point member =>
    schemeCharacter_ending (List.all_eq_true.mp split.characters point member)
  have rooted : Free ending rooting := split.authority.free rfl (netloc_ending split.netloc)
  have free : Free ending (opening ++ colon :: (rooting ++ parts.path)) :=
    Free.append opened fun point member => by
      rcases List.mem_cons.mp member with rfl | later
      · rfl
      · exact Free.append rooted split.path point later
  have parted : url = (opening ++ colon :: (rooting ++ parts.path)) ++ behind := by
    rw [split.whole]
    simp only [List.append_assoc,List.cons_append]
  rw [parted,cut_of_parts free split.tail]

theorem Split.clean (split : Split url parts opening rooting behind) (clean : Free unsafeByte url) :
    Free unsafeByte parts.netloc ∧ Free unsafeByte parts.path := by
  have inside : Free unsafeByte (rooting ++ parts.path) := fun point member => by
    refine clean point ?_
    rw [split.whole]
    exact List.mem_append_right _ (List.mem_cons_of_mem _ (List.mem_append_left _ member))
  refine ⟨fun point member => ?_,fun point member => inside point (List.mem_append_right _ member)⟩
  have kind := split.authority
  generalize parts.netloc = netloc at kind member
  cases kind with
  | written => exact inside point (List.mem_append_left _ (List.mem_append_right _ member))
  | absent => cases member

end UrlParse
