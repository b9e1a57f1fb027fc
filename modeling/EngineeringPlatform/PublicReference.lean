import EngineeringPlatform.ExternalReference
import EngineeringPlatform.NonSecret
import EngineeringPlatform.ProviderReplies
-- Which of the addresses a search returns are kept as references.
namespace EngineeringPlatform.ModelGateway
open Checked PythonText Trimming UrlParse Security

-- What `ipaddress.ip_address` returns; its text is the `str` of it.
structure Address where
  text : Text
  version : Nat
  isGlobal : Bool
  isMulticast : Bool
  isReserved : Bool
  deriving DecidableEq

-- What is taken from the standard library: the tables of `str`, the codec `idna`,
-- `unquote` and `ip_address`.
structure Web where
  nfkc : Text → Text
  lower : Text → Text
  word : Nat → Bool
  idna : Text → Option Text
  unquote : Text → Text
  ipAddress : Text → Option Address

def Web.tables (web : Web) : Tables where
  nfkc := web.nfkc
  lower := web.lower
  ipv6 host := (web.ipAddress host).any fun address => address.version = 6

def maxSourceUrlLength : Nat := 2048

def isAscii (point : Nat) : Bool := point < 128

def dot : Nat := 46

def labelEnd (point : Nat) : Bool := asciiLower point ∨ asciiDigit point
def labelCharacter (point : Nat) : Bool := labelEnd point ∨ point = 45

-- `[a-z0-9](?:[a-z0-9-]{0,61}[a-z0-9])?`
def domainLabel (label : Text) : Bool :=
  label.head?.any labelEnd ∧ label.getLast?.any labelEnd ∧ label.all labelCharacter ∧ label.length ≤ 63

def hexLower (point : Nat) : Bool := asciiDigit point ∨ (97 ≤ point ∧ point ≤ 102)

-- `(?:[0-9]+|0x[0-9a-f]+)`
def numericLabel (label : Text) : Bool :=
  (label ≠ [] ∧ label.all asciiDigit) ∨ (label.take 2 = text "0x" ∧ label.drop 2 ≠ [] ∧ (label.drop 2).all hexLower)

def privateLabels : List Text :=
  [text "localhost",text "local",text "internal",text "lan",text "home",text "invalid",text "test"]

def domainName (host : Text) : Bool :=
  let labels := host.splitOn dot
  2 ≤ labels.length ∧ host.length ≤ 253 ∧ labels.all domainLabel ∧ ¬labels.getLast?.any (privateLabels.contains ·) ∧
    ¬labels.all numericLabel

def Address.isPublic (address : Address) : Bool := address.isGlobal ∧ ¬address.isMulticast ∧ ¬address.isReserved

-- `decode("ascii")` raises for what is not ASCII.
def publicHost (web : Web) (host : Text) : Option Text := do
  let encoded ← web.idna host
  accept (encoded.all isAscii)
  let host := (web.lower encoded).rdropWhile (· = dot)
  match web.ipAddress host with
  | none =>
    accept (domainName host)
    pure host
  | some address =>
    accept address.isPublic
    pure (if address.version = 6 then openBracket :: address.text ++ [closeBracket] else address.text)

def publicReference (web : Web) : Json → Option Text
  | .text value => do
    accept (8 ≤ value.length ∧ value.length ≤ maxSourceUrlLength)
    let decoded := web.unquote value
    accept (¬value.any fun point => point ≤ 32 ∨ point = 127)
    accept (¬decoded.any fun point => point < 32 ∨ point = 127)
    let _ ← nonSecret web.word decoded
    let parts ← urlsplit web.tables value
    let host ← parts.hostname web.tables
    accept (parts.scheme = text "https" ∧ host ≠ [] ∧ parts.username = none ∧ parts.password = none)
    let port ← parts.port
    accept (port.all (· = 443))
    let host ← publicHost web host
    (sanitizeExternalReference web.tables
      (urlunsplit ⟨text "https",host,if parts.path = [] then [slash] else parts.path,parts.query,parts.fragment⟩)).toOption
  | _ => none

def zoneSign (point : Nat) : Bool := point = 37

def addressCharacter (point : Nat) : Bool := hexLower point ∨ point = colon ∨ point = dot

-- What is relied on of `str.lower` and of `ipaddress`: an address is written as it can be
-- read again, in digits, and a zone behind it has no part in whether it is public.
structure Addresses (web : Web) : Prop where
  lower : ∀ value, value.all isAscii = true → web.lower value = value.map lowered
  reread : ∀ host address, web.ipAddress host = some address → web.ipAddress address.text = some address
  four : ∀ host address, web.ipAddress host = some address → address.version ≠ 6 →
    address.text ≠ [] ∧ ∀ point ∈ address.text, asciiDigit point = true ∨ point = dot
  six : ∀ host address, web.ipAddress host = some address → address.version = 6 → ∃ written zone,
    address.text = written ++ zone ∧ written ≠ [] ∧ written.all addressCharacter = true ∧ Opens zoneSign zone
  zones : ∀ written zone zone' address address', written.all addressCharacter = true → Opens zoneSign zone →
    Opens zoneSign zone' → web.ipAddress (written ++ zone) = some address → web.ipAddress (written ++ zone') = some address' →
    address'.isPublic = address.isPublic

def PublicHost (web : Web) (host : Text) : Prop :=
  match web.ipAddress host with
  | none => domainName host = true
  | some address => address.isPublic = true

variable {web : Web}

theorem trim_behind {drop : Nat → Bool} {start rest : Text} (first : ∀ point, start.head? = some point → drop point = false)
    (solid : drop point = false) : ∃ kept, trim drop (start ++ point :: rest) = start ++ point :: kept := by
  have opening : (start ++ point :: rest).dropWhile drop = start ++ point :: rest := by
    refine dropWhile_eq_self.mpr fun head begins => ?_
    cases start with
    | nil =>
      cases begins
      exact solid
    | cons one more => exact first head begins
  refine ⟨rest.rdropWhile drop,?_⟩
  unfold trim
  rw [opening]
  unfold List.rdropWhile
  rw [List.reverse_append,List.reverse_cons,List.append_assoc,List.dropWhile_append]
  split
  · rename_i dropped
    have empty : rest.reverse.dropWhile drop = [] := List.isEmpty_iff.mp dropped
    rw [empty,List.singleton_append,List.dropWhile_cons_of_neg (by rw [solid]; exact Bool.false_ne_true),List.reverse_cons,
      List.reverse_reverse]
    rfl
  · simp only [List.reverse_append,List.reverse_cons,List.reverse_reverse,List.append_assoc,
      List.singleton_append]

-- Behind `https://`, what is in front of the first delimiter is the netloc.
theorem urlsplit_https {tables : Tables} (read : urlsplit tables (text "https://" ++ behind) = some parts) :
    parts.scheme = text "https" ∧ parts.netloc = (cut delimiter (behind.filter (!unsafeByte ·))).1 := by
  have whole : cleaned (text "https://" ++ behind) = text "https://" ++ behind.filter (!unsafeByte ·) := by
    unfold cleaned
    rw [dropWhile_eq_self.mpr (fun point first => by cases first; decide),List.filter_append]
    rfl
  have scheme : cutScheme (text "https://" ++ behind.filter (!unsafeByte ·)) =
      (text "https",slash :: slash :: behind.filter (!unsafeByte ·)) := by
    have parted : cut isColon (text "https" ++ colon :: slash :: slash :: behind.filter (!unsafeByte ·)) =
        (text "https",colon :: slash :: slash :: behind.filter (!unsafeByte ·)) :=
      cut_of_parts (by unfold Free; decide) fun point first => by cases first; rfl
    have same : text "https://" ++ behind.filter (!unsafeByte ·) =
        text "https" ++ colon :: slash :: slash :: behind.filter (!unsafeByte ·) := rfl
    unfold cutScheme
    rw [same,parted]
    rfl
  have netloc (rest : Text) : cutNetloc (slash :: slash :: rest) = cut delimiter rest := by
    simp only [cutNetloc,and_self,if_true]
  unfold urlsplit at read
  rw [whole,scheme] at read
  dsimp only at read
  rw [netloc] at read
  split at read
  · cases read
    exact ⟨rfl,rfl⟩
  · cases read

-- A host in the characters of names and numbers is a netloc as it stands.
theorem plain_netloc {tables : Tables} {host : Text} (plain : ∀ point ∈ host, labelCharacter point = true ∨ point = dot)
    (filled : host ≠ []) (small : tables.lower host = host) (rest : Text) :
    (cut delimiter ((host ++ slash :: rest).filter (!unsafeByte ·))).1 = host ∧
      ∀ parts : SplitResult, parts.netloc = host → parts.hostname tables = some host := by
  have apart (point : Nat) (member : point ∈ host) : delimiter point = false ∧ unsafeByte point = false ∧ point ≠ at' ∧
      point ≠ openBracket ∧ point ≠ colon ∧ point ≠ 37 := by
    have known := plain point member
    simp only [labelCharacter,labelEnd,asciiLower,asciiDigit,decide_eq_true_eq] at known
    simp only [delimiter,unsafeByte,decide_eq_false_iff_not]
    unfold dot at known
    unfold slash question UrlParse.hash at' openBracket colon
    omega
  have kept : (host ++ slash :: rest).filter (!unsafeByte ·) = host ++ slash :: rest.filter (!unsafeByte ·) := by
    rw [List.filter_append,List.filter_eq_self.mpr fun point member => by simp [(apart point member).2.1]]
    rfl
  refine ⟨?_,fun parts held => ?_⟩
  · rw [kept,cut_of_parts (fun point member => (apart point member).1) fun point first => by cases first; rfl]
  · have info : behindLast at' host = host := by
      unfold behindLast
      rw [List.takeWhile_eq_self_iff.mpr fun point member => by simpa using (apart point (List.mem_reverse.mp member)).2.2.1,
        List.reverse_reverse]
    have closed : host.contains openBracket = false := by
      simpa using fun member : openBracket ∈ host => (apart _ member).2.2.2.1 rfl
    have portless : cut (fun point => decide (point = colon)) host = (host,[]) :=
      cut_of_free fun point member => by simpa using (apart point member).2.2.2.2.1
    have zoneless : cut (fun point => decide (point = 37)) host = (host,[]) :=
      cut_of_free fun point member => by simpa using (apart point member).2.2.2.2.2
    unfold SplitResult.hostname hostinfo
    rw [held,info]
    dsimp only
    rw [closed]
    simp only [Bool.false_eq_true,if_false,UrlParse.partition,portless]
    rw [if_neg filled,zoneless]
    dsimp only
    rw [small,List.append_nil]

theorem cut_behind {stops : Nat → Bool} (free : Free stops before) (after : Text) :
    cut stops (before ++ after) = (before ++ (cut stops after).1,(cut stops after).2) := by
  have parted := cut_of_parts (Free.append free (cut_free after)) (@cut_opens _ stops after)
  rwa [List.append_assoc,cut_append] at parted

theorem cut_head {stops : Nat → Bool} {value : Text} (first : (cut stops value).1.head? = some point) :
    value.head? = some point ∧ stops point = false := by
  refine ⟨?_,cut_free value point (List.mem_of_mem_head? first)⟩
  rw [←@cut_append _ stops value,List.head?_append,first]
  rfl

theorem addressCharacter_plain {point : Nat} (digit : addressCharacter point = true) :
    delimiter point = false ∧ unsafeByte point = false ∧ point ≠ closeBracket ∧ point ≠ 37 ∧ point ≠ 118 := by
  simp only [addressCharacter,hexLower,asciiDigit,decide_eq_true_eq] at digit
  simp only [delimiter,unsafeByte,decide_eq_false_iff_not]
  unfold colon dot at digit
  unfold slash question UrlParse.hash closeBracket
  omega

-- An address in brackets is read back up to a zone, whatever was written for one.
theorem bracketed_netloc {tables : Tables} {parts : SplitResult} {written zone : Text} (digits : written.all addressCharacter = true)
    (filled : written ≠ []) (zoned : Opens zoneSign zone) (small : tables.lower written = written)
    (held : parts.netloc =
      (cut delimiter ((openBracket :: (written ++ zone) ++ [closeBracket] ++ slash :: rest).filter (!unsafeByte ·))).1)
    (anonymous : parts.username = none) (valid : netlocValid tables parts.netloc = true) :
    ∃ zone', Opens zoneSign zone' ∧ parts.hostname tables = some (written ++ zone') ∧ tables.ipv6 (written ++ zone') = true := by
  have plain (point : Nat) (member : point ∈ written) := addressCharacter_plain (List.all_eq_true.mp digits point member)
  have kept : (openBracket :: (written ++ zone) ++ [closeBracket] ++ slash :: rest).filter (!unsafeByte ·) =
      openBracket :: written ++ (zone.filter (!unsafeByte ·) ++ closeBracket :: slash :: rest.filter (!unsafeByte ·)) := by
    have same : written.filter (!unsafeByte ·) = written :=
      List.filter_eq_self.mpr fun point member => by simp [(plain point member).2.1]
    simp only [List.filter_append,List.filter_cons,List.cons_append,same,List.append_assoc]
    rfl
  have opened : Free delimiter (openBracket :: written) := fun point member => by
    rcases List.mem_cons.mp member with rfl | later
    · rfl
    · exact (plain point later).1
  rw [kept,cut_behind opened] at held
  generalize tailing : zone.filter (!unsafeByte ·) ++ closeBracket :: slash :: rest.filter (!unsafeByte ·) = tail at held
  dsimp only at held
  -- The zone begins where the written one did, or it is empty.
  have opens : Opens zoneSign (cut (fun point => decide (point = closeBracket)) (cut delimiter tail).1).1 := fun point first => by
    obtain ⟨begins,other⟩ := cut_head first
    obtain ⟨begins,_⟩ := cut_head begins
    cases zone with
    | nil =>
      rw [←tailing] at begins
      cases begins
      cases other
    | cons sign more =>
      have percent := of_decide_eq_true (zoned sign rfl)
      rw [percent] at tailing
      rw [←tailing] at begins
      cases begins
      rfl
  have nobody : parts.netloc.contains at' = false := by
    unfold SplitResult.username at anonymous
    split at anonymous
    · cases anonymous
    · rename_i absent
      exact Bool.eq_false_iff.mpr absent
  have info : behindLast at' parts.netloc = parts.netloc := by
    have absent : at' ∉ parts.netloc := by simpa using nobody
    unfold behindLast
    rw [List.takeWhile_eq_self_iff.mpr fun point member => by
      simpa using fun same : point = at' => absent (same ▸ List.mem_reverse.mp member),List.reverse_reverse]
  have begins : UrlParse.partition openBracket parts.netloc = ([],written ++ (cut delimiter tail).1) := by
    rw [held]
    rfl
  have bracketed : parts.netloc.contains openBracket = true := by
    rw [held]
    rfl
  have ended : (UrlParse.partition closeBracket (written ++ (cut delimiter tail).1)).1 =
      written ++ (cut (fun point => decide (point = closeBracket)) (cut delimiter tail).1).1 := by
    unfold UrlParse.partition
    rw [cut_behind fun point member => by simpa using (plain point member).2.2.1]
  generalize (cut (fun point => decide (point = closeBracket)) (cut delimiter tail).1).1 = zone' at opens ended
  have host : (hostinfo parts.netloc).1 = written ++ zone' := by
    unfold hostinfo
    rw [info]
    dsimp only
    rw [if_pos bracketed,begins,←ended]
  have present : written ++ zone' ≠ [] := by simp [filled]
  refine ⟨zone',opens,?_,?_⟩
  · have zoneless : Free (fun point => decide (point = 37)) written := fun point member => by
      simpa using (plain point member).2.2.2.1
    have parted : cut (fun point => decide (point = 37)) (written ++ zone') = (written,zone') := cut_of_parts zoneless opens
    unfold SplitResult.hostname
    rw [host]
    dsimp only
    rw [if_neg present,parted]
    dsimp only
    rw [small]
  · simp only [netlocValid,decide_eq_true_eq] at valid
    have checked := valid.2.1 bracketed
    unfold bracketedNetloc at checked
    rw [info] at checked
    dsimp only at checked
    rw [begins] at checked
    dsimp only at checked
    rw [if_pos bracketed] at checked
    simp only [decide_eq_true_eq,ended] at checked
    have known := checked.2.2
    have other : (written ++ zone').head? ≠ some 118 := by
      cases written with
      | nil => exact absurd rfl filled
      | cons first more => simpa using (plain first List.mem_cons_self).2.2.2.2
    unfold bracketedHost at known
    rwa [if_neg other] at known

theorem accept_some {holds : Bool} : accept holds = some done ↔ holds = true := by
  cases holds <;> simp [accept]

theorem bind_some {α β : Type} {first : Option α} {rest : α → Option β} {result : β} :
    (first >>= rest) = some result ↔ ∃ found, first = some found ∧ rest found = some result := by
  cases first <;> simp

-- A reference to a public host over https, and nothing beside it.
structure PublicUrl (web : Web) (url : Text) (parts : SplitResult) (host : Text) : Prop where
  read : urlsplit web.tables url = some parts
  scheme : parts.scheme = text "https"
  anonymous : parts.username = none ∧ parts.password = none
  bare : parts.query = [] ∧ parts.fragment = []
  named : parts.hostname web.tables = some host
  known : PublicHost web host

theorem urlunsplit_https (host path query fragment : Text) (filled : host ≠ []) (present : path ≠ []) :
    ∃ more, urlunsplit ⟨text "https",host,path,query,fragment⟩ = text "https://" ++ host ++ slash :: more := by
  cases path with
  | nil => exact absurd rfl present
  | cons point rest =>
    have prefix' : text "https://" = text "https" ++ [colon] ++ twoSlashes := rfl
    have schemed : text "https" ≠ [] := by decide
    rw [prefix']
    by_cases first : point = slash
    · refine ⟨rest ++ ((if query = [] then [] else question :: query) ++ if fragment = [] then [] else UrlParse.hash :: fragment),?_⟩
      simp [urlunsplit,authority,filled,first,schemed]
    · refine ⟨point :: rest ++ ((if query = [] then [] else question :: query) ++
        if fragment = [] then [] else UrlParse.hash :: fragment),?_⟩
      simp [urlunsplit,authority,filled,first,schemed]

theorem mem_intercalate {separator point : Nat} : ∀ {parts : List Text}, point ∈ [separator].intercalate parts →
    point = separator ∨ ∃ part ∈ parts, point ∈ part
  | [],member => by cases member
  | [part],member => .inr ⟨part,List.mem_cons_self,by rwa [List.intercalate_singleton] at member⟩
  | part :: next :: rest,member => by
    rw [List.intercalate_cons_cons,List.append_assoc] at member
    rcases List.mem_append.mp member with inside | later
    · exact .inr ⟨part,List.mem_cons_self,inside⟩
    · rcases List.mem_cons.mp later with same | later
      · exact .inl same
      · rcases mem_intercalate later with same | ⟨other,part',inside⟩
        · exact .inl same
        · exact .inr ⟨other,List.mem_cons_of_mem _ part',inside⟩

theorem domainName_plain (domain : domainName host = true) :
    (∀ point ∈ host, labelCharacter point = true ∨ point = dot) ∧ host ≠ [] := by
  simp only [domainName,decide_eq_true_eq] at domain
  obtain ⟨two,_,labels,_⟩ := domain
  refine ⟨fun point member => ?_,?_⟩
  · rw [←@List.intercalate_splitOn _ host _ _ dot] at member
    rcases mem_intercalate member with separator | ⟨label,part,inside⟩
    · exact .inr separator
    · have shaped := List.all_eq_true.mp labels label part
      simp only [domainLabel,decide_eq_true_eq] at shaped
      exact .inl (List.all_eq_true.mp shaped.2.2.1 point inside)
  · rintro rfl
    exact absurd two (by decide)

theorem lower_self (addresses : Addresses web) (ascii : ∀ point ∈ value, isAscii point = true ∧ lowered point = point) :
    web.tables.lower value = value := by
  refine (addresses.lower value (List.all_eq_true.mpr fun point member => (ascii point member).1)).trans ?_
  rw [List.map_congr_left fun point member => (ascii point member).2,List.map_id'']
  exact fun _ => rfl

theorem plain_small (addresses : Addresses web) (plain : ∀ point ∈ host, labelCharacter point = true ∨ point = dot) :
    web.tables.lower host = host := by
  refine lower_self addresses fun point member => ?_
  have known := plain point member
  simp only [labelCharacter,labelEnd,asciiLower,asciiDigit,decide_eq_true_eq] at known
  unfold dot at known
  simp only [isAscii,lowered,asciiUpper,decide_eq_true_eq]
  constructor
  · omega
  · exact if_neg (by omega)

theorem address_small (addresses : Addresses web) (digits : written.all addressCharacter = true) :
    web.tables.lower written = written := by
  refine lower_self addresses fun point member => ?_
  have known := List.all_eq_true.mp digits point member
  simp only [addressCharacter,hexLower,asciiDigit,decide_eq_true_eq] at known
  unfold colon dot at known
  simp only [isAscii,lowered,asciiUpper,decide_eq_true_eq]
  constructor
  · omega
  · exact if_neg (by omega)

-- How the host of a reference is read back when it was checked.
theorem publicHost_read {host checked : Text} (addresses : Addresses web) (accepted : publicHost web host = some checked)
    (parts : SplitResult) (rest : Text)
    (held : parts.netloc = (cut delimiter ((checked ++ slash :: rest).filter (!unsafeByte ·))).1)
    (anonymous : parts.username = none) (valid : netlocValid web.tables parts.netloc = true) :
    ∃ name, parts.hostname web.tables = some name ∧ PublicHost web name := by
  unfold publicHost at accepted
  simp only [bind_some,accept_some] at accepted
  obtain ⟨encoded,_,_,_,accepted⟩ := accepted
  split at accepted
  · rename_i unread
    simp only [bind_some,accept_some,pure,Option.some.injEq] at accepted
    obtain ⟨_,domain,rfl⟩ := accepted
    obtain ⟨plain,filled⟩ := domainName_plain domain
    obtain ⟨netloc,named⟩ := @plain_netloc web.tables _ plain filled (plain_small addresses plain) rest
    refine ⟨_,named parts (held.trans netloc),?_⟩
    unfold PublicHost
    rw [unread]
    exact domain
  · rename_i address found
    simp only [bind_some,accept_some,pure,Option.some.injEq] at accepted
    obtain ⟨_,shown,rfl⟩ := accepted
    have again := addresses.reread _ _ found
    split at held
    · rename_i six
      obtain ⟨written,zone,same,filled,digits,zoned⟩ := addresses.six _ _ found six
      rw [same] at held again
      obtain ⟨zone',zoned',named,read⟩ := bracketed_netloc digits filled zoned (address_small addresses digits) held anonymous valid
      refine ⟨_,named,?_⟩
      obtain ⟨other,found',_⟩ := (Option.any_eq_true _ _).mp read
      unfold PublicHost
      rw [found']
      exact (addresses.zones _ _ _ _ _ digits zoned zoned' again found').trans shown
    · rename_i four
      obtain ⟨filled,digits⟩ := addresses.four _ _ found four
      have plain (point : Nat) (member : point ∈ address.text) : labelCharacter point = true ∨ point = dot :=
        (digits point member).imp_left fun digit => by simp [labelCharacter,labelEnd,digit]
      obtain ⟨netloc,named⟩ := @plain_netloc web.tables _ plain filled (plain_small addresses plain) rest
      refine ⟨_,named parts (held.trans netloc),?_⟩
      unfold PublicHost
      rw [again]
      exact shown

theorem publicHost_filled {host checked : Text} (addresses : Addresses web) (accepted : publicHost web host = some checked) :
    checked ≠ [] := by
  unfold publicHost at accepted
  simp only [bind_some,accept_some] at accepted
  obtain ⟨encoded,_,_,_,accepted⟩ := accepted
  split at accepted
  · simp only [bind_some,accept_some,pure,Option.some.injEq] at accepted
    obtain ⟨_,domain,rfl⟩ := accepted
    exact (domainName_plain domain).2
  · rename_i address found
    simp only [bind_some,accept_some,pure,Option.some.injEq] at accepted
    obtain ⟨_,_,rfl⟩ := accepted
    split
    · exact List.cons_ne_nil _ _
    · rename_i four
      exact (addresses.four _ _ found four).1

theorem publicReference_public (addresses : Addresses web) {value : Json} (accepted : publicReference web value = some url) :
    ∃ parts host, PublicUrl web url parts host ∧ question ∉ url ∧ UrlParse.hash ∉ url := by
  cases value with
  | text value =>
    simp only [publicReference,bind_some,accept_some] at accepted
    obtain ⟨_,_,_,_,_,_,_,_,original,_,name,_,_,_,_,_,_,_,checked,host,accepted⟩ := accepted
    have sanitizing := toOption_some.mp accepted
    have present : (if original.path = [] then [slash] else original.path) ≠ [] := by
      split
      · exact List.cons_ne_nil _ _
      · assumption
    have filled := publicHost_filled addresses host
    obtain ⟨more,written⟩ := urlunsplit_https checked _ original.query original.fragment filled present
    rw [written] at sanitizing
    obtain ⟨parts,sanitized,rfl,_,_,parsed,read,schemes,netlocs⟩ := sanitizeExternalReference_ok sanitizing
    obtain ⟨kept,trimmed⟩ := @trim_behind slash whiteSpace (text "https://" ++ checked) more
      (fun point first => by cases first; decide) (by decide)
    rw [trimmed,List.append_assoc] at read
    obtain ⟨scheme,netloc⟩ := urlsplit_https read
    have https : parts.scheme = text "https" := schemes.trans scheme
    have held : parts.netloc = (cut delimiter ((checked ++ slash :: kept).filter (!unsafeByte ·))).1 := by
      rcases netlocs with other | same
      · rw [scheme] at other
        exact absurd other (by decide)
      · exact same.trans netloc
    have anonymous : parts.username = none ∧ parts.password = none := by
      rcases sanitized.kind with ⟨_,_,user,password⟩ | ⟨other,_⟩
      · exact ⟨user,password⟩
      · rw [https] at other
        exact absurd other (by decide)
    obtain ⟨known,named,shown⟩ := publicHost_read addresses host parts kept held anonymous.1 sanitized.valid
    have reading := urlsplit_urlunsplit web.tables sanitized.toWritten
    rw [if_pos sanitized.valid] at reading
    have stable := sanitized_stable sanitized
    exact ⟨parts,known,⟨reading,https,anonymous,⟨sanitized.query,sanitized.fragment⟩,named,shown⟩,stable.query,stable.fragment⟩
  | _ => cases accepted

end EngineeringPlatform.ModelGateway
