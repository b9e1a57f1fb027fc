import EngineeringPlatform.CanonicalJson
-- Validated models and canonical JSON: what a model accepts it accepts again, unchanged,
-- from its own text, in which the keys are sorted.
namespace CanonicalCodec
open CanonicalJson PythonText
universe u
variable {α β : Type u}

-- A check that may rewrite its value leaves what it has rewritten.
def Settles (check : α → Option α) : Prop := ∀ raw value, check raw = some value → check value = some value

-- `json.dumps` with its default: characters beyond ASCII are written as escapes.
def unicodeEscape (unit : Nat) : Text :=
  [92,117,hexPoint (unit / 4096),hexPoint (unit / 256 % 16),hexPoint (unit / 16 % 16),hexPoint (unit % 16)]

def asciiEscape (point : Nat) : Text :=
  if point < 127 then [point]
  else if point < 0x10000 then unicodeEscape point
  else unicodeEscape (0xD800 + (point - 0x10000) / 1024) ++ unicodeEscape (0xDC00 + (point - 0x10000) % 1024)

def asciiWrite (json : Json) : Text := json.write.flatMap asciiEscape

def asciiDumps (json : Json) : Text := (dumps json).flatMap asciiEscape

structure Codec (α : Type u) where
  encode : α → Json
  decode : Json → Option α
  settles : ∀ json value, decode json = some value → decode (encode value).sortKeys = some value

-- A value that is read back from what is written of it.
def Codec.Kept (codec : Codec α) (value : α) : Prop := codec.decode (codec.encode value).sortKeys = some value

def string (check : Text → Option Text) (settles : Settles check) : Codec Text where
  encode := .text
  decode
    | .text value => check value
    | _ => none
  settles json value read := by
    cases json with
    | text raw => exact settles raw value read
    | _ => cases read

theorem string_kept {check : Text → Option Text} {settles : Settles check} {value : Text} (checked : check value = some value) :
    (string check settles).Kept value := checked

-- An enumeration by the values of its members.
def enumeration (members : List α) (name : α → String)
    (named : ∀ value ∈ members, members.find? (fun member => text (name member) = text (name value)) = some value) : Codec α where
  encode value := .text (text (name value))
  decode
    | .text value => members.find? fun member => text (name member) = value
    | _ => none
  settles json value read := by
    cases json with
    | text raw => exact named value (List.mem_of_find?_eq_some read)
    | _ => cases read

variable {value : α} {codec : Codec α} {fields : Fields} {forbids : Bool}

theorem enumeration_kept {members : List α} {name : α → String} {named} (member : value ∈ members) :
    (enumeration members name named).Kept value := named value member

-- An int within bounds. Only a strict one takes no bool and no text for it.
def integer (strict : Bool) (spelled : Text → Option Int) (within : Int → Bool) : Codec Int where
  encode := .integer
  decode
    | .integer value => (some value).filter within
    | .boolean value => if strict then none else (some value.toInt).filter within
    | .text value => if strict then none else (spelled value).filter within
    | _ => none
  settles json value read := by
    have inside : within value = true := by
      cases json with
      | integer raw => exact (Option.filter_eq_some_iff.mp read).2
      | boolean raw =>
        dsimp only at read
        split at read
        · cases read
        · exact (Option.filter_eq_some_iff.mp read).2
      | text raw =>
        dsimp only at read
        split at read
        · cases read
        · exact (Option.filter_eq_some_iff.mp read).2
      | _ => cases read
    exact Option.filter_eq_some_iff.mpr ⟨rfl,inside⟩

theorem sortKeys_kind (json : Json) : json.sortKeys.kind = json.kind := by
  cases json <;> rfl

def decodeOptional (codec : Codec α) : Json → Option (Option α)
  | .null => some none
  | json => (codec.decode json).map some

theorem decodeOptional_present (codec : Codec α) {json : Json} (present : json.kind ≠ .null) :
    decodeOptional codec json = (codec.decode json).map some := by
  cases json with
  | null => exact absurd rfl present
  | _ => rfl

-- A field that may be null.
def optional (codec : Codec α) (present : ∀ value, (codec.encode value).kind ≠ .null) : Codec (Option α) where
  encode
    | some value => codec.encode value
    | none => .null
  decode := decodeOptional codec
  settles json value read := by
    by_cases null : json.kind = .null
    · cases json <;> cases null
      cases read
      rfl
    · rw [decodeOptional_present codec null] at read
      obtain ⟨inner,decoded,rfl⟩ := Option.map_eq_some_iff.mp read
      dsimp only
      rw [decodeOptional_present codec (by rw [sortKeys_kind]; exact present inner),codec.settles json inner decoded]
      rfl

theorem optional_kept {present} {value : Option α} (kept : ∀ inner ∈ value, codec.Kept inner) :
    (optional codec present).Kept value := by
  cases value with
  | none => rfl
  | some inner =>
    change decodeOptional codec (codec.encode inner).sortKeys = _
    rw [decodeOptional_present codec (by rw [sortKeys_kind]; exact present inner),kept inner rfl]
    rfl

theorem mapM_settles (codec : Codec α) {items : List Json} {values : List α} (read : items.mapM codec.decode = some values) :
    (sortItems (values.map codec.encode)).mapM codec.decode = some values ∧ values.length = items.length := by
  induction items generalizing values with
  | nil =>
    cases read
    exact ⟨rfl,rfl⟩
  | cons item rest ih =>
    rw [List.mapM_cons] at read
    obtain ⟨value,decoded,read⟩ := Option.bind_eq_some_iff.mp read
    obtain ⟨later,decodedLater,read⟩ := Option.bind_eq_some_iff.mp read
    cases read
    obtain ⟨again,length⟩ := ih decodedLater
    refine ⟨?_,congrArg Nat.succ length⟩
    rw [List.map_cons,sortItems,List.mapM_cons,codec.settles item value decoded,again]
    rfl

def list (codec : Codec α) (longest : Nat) : Codec (List α) where
  encode values := .list (values.map codec.encode)
  decode
    | .list items => if items.length ≤ longest then items.mapM codec.decode else none
    | _ => none
  settles json values read := by
    cases json with
    | list items =>
      dsimp only at read
      split at read
      · rename_i short
        obtain ⟨again,length⟩ := mapM_settles codec read
        refine (if_pos ?_).trans again
        rw [sortItems_map,List.length_map,List.length_map,length]
        exact short
      · cases read
    | _ => cases read

-- Some fields of a model. They are read by their keys, wherever they stand.
structure Shape (α : Type u) where
  keys : List Text
  distinct : keys.Nodup
  write : α → Fields
  written : ∀ value, (write value).map Prod.fst = keys
  read : (Text → Option Json) → Option α
  settles : ∀ lookup value, read lookup = some value → ∀ stored : Text → Option Json,
    (∀ key ∈ keys, stored key = ((write value).lookup key).map Json.sortKeys) → read stored = some value

def Shape.Kept (shape : Shape α) (value : α) : Prop := ∀ stored : Text → Option Json,
  (∀ key ∈ shape.keys, stored key = ((shape.write value).lookup key).map Json.sortKeys) → shape.read stored = some value

def field (key : String) (codec : Codec α) : Shape α where
  keys := [text key]
  distinct := List.nodup_singleton _
  write value := [(text key,codec.encode value)]
  written _ := rfl
  read lookup := (lookup (text key)).bind codec.decode
  settles lookup value read stored same := by
    obtain ⟨json,_,decoded⟩ := Option.bind_eq_some_iff.mp read
    rw [same _ List.mem_cons_self,List.lookup_cons_self]
    exact codec.settles json value decoded

-- A field with a default.
def defaulted (key : String) (codec : Codec α) (default : α)
    (stays : codec.decode (codec.encode default).sortKeys = some default) : Shape α where
  keys := [text key]
  distinct := List.nodup_singleton _
  write value := [(text key,codec.encode value)]
  written _ := rfl
  read lookup :=
    match lookup (text key) with
    | some json => codec.decode json
    | none => some default
  settles lookup value read stored same := by
    rw [same _ List.mem_cons_self,List.lookup_cons_self]
    dsimp only [Option.map]
    split at read
    · rename_i json _
      exact codec.settles json value read
    · cases read
      exact stays

theorem lookup_none (absent : key ∉ fields.map Prod.fst) : fields.lookup key = none :=
  List.lookup_eq_none_iff.mpr fun field member => by
    refine bne_iff_ne.mpr fun equal => absent ?_
    rw [equal]
    exact List.mem_map_of_mem member

theorem lookup_some (present : key ∈ fields.map Prod.fst) : ∃ value, fields.lookup key = some value := by
  cases found : fields.lookup key with
  | some value => exact ⟨value,rfl⟩
  | none =>
    obtain ⟨field,member,rfl⟩ := List.mem_map.mp present
    have other := List.lookup_eq_none_iff.mp found field member
    exact absurd rfl (bne_iff_ne.mp other)

namespace Shape

theorem apart_disjoint {keys others : List Text} (apart : keys.all (!others.contains ·) = true) : keys.Disjoint others := by
  intro key member other
  have absent := List.all_eq_true.mp apart key member
  simp only [Bool.not_eq_true',List.contains_eq_mem,decide_eq_false_iff_not] at absent
  exact absent other

section Stored
variable {one : Shape α} {other : Shape β} {first : α} {second : β} {stored : Text → Option Json}
  (same : ∀ key ∈ one.keys ++ other.keys, stored key = ((one.write first ++ other.write second).lookup key).map Json.sortKeys)
include same

theorem stored_first : ∀ key ∈ one.keys, stored key = ((one.write first).lookup key).map Json.sortKeys := by
  intro key member
  obtain ⟨json,found⟩ := lookup_some (one.written first ▸ member)
  rw [same key (List.mem_append_left _ member),List.lookup_append,found]
  rfl

theorem stored_second (apart : one.keys.all (!other.keys.contains ·) = true) :
    ∀ key ∈ other.keys, stored key = ((other.write second).lookup key).map Json.sortKeys := by
  intro key member
  have absent : key ∉ (one.write first).map Prod.fst := one.written first ▸ fun here => apart_disjoint apart here member
  rw [same key (List.mem_append_right _ member),List.lookup_append,lookup_none absent]
  rfl

end Stored

def and (one : Shape α) (other : Shape β) (apart : one.keys.all (!other.keys.contains ·) = true) : Shape (α × β) where
  keys := one.keys ++ other.keys
  distinct := List.Nodup.append one.distinct other.distinct (apart_disjoint apart)
  write value := one.write value.1 ++ other.write value.2
  written value := by rw [List.map_append,one.written,other.written]
  read lookup := do
    let first ← one.read lookup
    let second ← other.read lookup
    pure (first,second)
  settles lookup value read stored same := by
    obtain ⟨first,readFirst,read⟩ := Option.bind_eq_some_iff.mp read
    obtain ⟨second,readSecond,read⟩ := Option.bind_eq_some_iff.mp read
    cases read
    rw [one.settles lookup first readFirst stored (stored_first same),
      other.settles lookup second readSecond stored (stored_second same apart)]
    rfl

-- The fields of a structure.
def onto (shape : Shape α) (make : α → β) (parts : β → α) (whole : ∀ value, parts (make value) = value) : Shape β where
  keys := shape.keys
  distinct := shape.distinct
  write value := shape.write (parts value)
  written value := shape.written _
  read lookup := (shape.read lookup).map make
  settles lookup value read stored same := by
    obtain ⟨inner,readInner,rfl⟩ := Option.map_eq_some_iff.mp read
    rw [whole] at same
    rw [shape.settles lookup inner readInner stored same]
    rfl

def holding (shape : Shape α) (holds : α → Bool) : Shape α where
  keys := shape.keys
  distinct := shape.distinct
  write := shape.write
  written := shape.written
  read lookup := (shape.read lookup).filter holds
  settles lookup value read stored same := by
    obtain ⟨readInner,held⟩ := Option.filter_eq_some_iff.mp read
    exact Option.filter_eq_some_iff.mpr ⟨shape.settles lookup value readInner stored same,held⟩

def dump (shape : Shape α) (value : α) : Json := .object (shape.write value)

theorem dump_lookup (shape : Shape α) (value : α) (key : Text) :
    (sortFields (sortValues (shape.write value))).lookup key = ((shape.write value).lookup key).map Json.sortKeys := by
  have distinct : ((sortValues (shape.write value)).map Prod.fst).Nodup := by
    rw [sortValues_keys,shape.written]
    exact shape.distinct
  rw [sortFields_lookup distinct,sortValues_lookup]

theorem dump_keys (shape : Shape α) (value : α) (field : Text × Json)
    (member : field ∈ sortFields (sortValues (shape.write value))) : field.1 ∈ shape.keys := by
  rw [←shape.written value,←sortValues_keys]
  exact List.mem_map_of_mem ((List.perm_insertionSort _ _).mem_iff.mp member)

-- A model, which may forbid other fields than its own.
def decodeModel (shape : Shape α) (forbids : Bool) : Json → Option α
  | .object fields => if forbids ∧ fields.any (·.1 ∉ shape.keys) then none else shape.read fun key => fields.lookup key
  | _ => none

theorem decodeModel_known {shape : Shape α} (known : ∀ field ∈ fields, field.1 ∈ shape.keys) :
    shape.decodeModel forbids (.object fields) = shape.read fun key => fields.lookup key := by
  refine if_neg ?_
  rintro ⟨_,other⟩
  obtain ⟨field,member,foreign⟩ := List.any_eq_true.mp other
  exact of_decide_eq_true foreign (known field member)

theorem decodeModel_read {shape : Shape α} {json : Json} (decoded : shape.decodeModel forbids json = some value) :
    ∃ fields, json = .object fields ∧ shape.read (fun key => fields.lookup key) = some value := by
  cases json with
  | object fields =>
    by_cases foreign : forbids ∧ fields.any (·.1 ∉ shape.keys)
    · rw [decodeModel,if_pos foreign] at decoded
      cases decoded
    · rw [decodeModel,if_neg foreign] at decoded
      exact ⟨fields,rfl,decoded⟩
  | _ => cases decoded

def model (shape : Shape α) (forbids : Bool) : Codec α where
  encode := shape.dump
  decode := shape.decodeModel forbids
  settles json value decoded := by
    obtain ⟨fields,rfl,read⟩ := decodeModel_read decoded
    refine (decodeModel_known (shape.dump_keys value)).trans ?_
    exact shape.settles _ value read _ fun key _ => shape.dump_lookup value key

variable {one : Shape α} {other : Shape β} {lookup : Text → Option Json}

theorem field_kept (kept : codec.Kept value) : (field key codec).Kept value := by
  intro stored same
  have present : stored (text key) = some (codec.encode value).sortKeys := by
    rw [same _ List.mem_cons_self,field,List.lookup_cons_self]
    rfl
  change (stored (text key)).bind codec.decode = some value
  rw [present]
  exact kept

theorem defaulted_kept {default : α} {stays} (kept : codec.Kept value) :
    (defaulted key codec default stays).Kept value := by
  intro stored same
  have present : stored (text key) = some (codec.encode value).sortKeys := by
    rw [same _ List.mem_cons_self,defaulted,List.lookup_cons_self]
    rfl
  change (match stored (text key) with | some json => codec.decode json | none => some default) = some value
  rw [present]
  exact kept

theorem Kept.and {first : α} {second : β} {apart} (one' : one.Kept first) (other' : other.Kept second) :
    (one.and other apart).Kept (first,second) := by
  intro stored same
  change ((one.read stored).bind fun first => (other.read stored).bind fun second => some (first,second)) = _
  rw [one' stored (stored_first same),other' stored (stored_second same apart)]
  rfl

theorem Kept.onto {make : α → β} {parts : β → α} {whole} {value : β} (kept : one.Kept (parts value))
    (made : make (parts value) = value) : (one.onto make parts whole).Kept value := by
  intro stored same
  change (one.read stored).map make = _
  rw [kept stored same]
  exact congrArg some made

theorem Kept.model (kept : one.Kept value) : (one.model forbids).Kept value :=
  (decodeModel_known (one.dump_keys value)).trans (kept _ fun key _ => one.dump_lookup value key)

theorem and_read {first : α} {second : β} {apart} (read : (one.and other apart).read lookup = some (first,second)) :
    one.read lookup = some first ∧ other.read lookup = some second := by
  obtain ⟨_,readFirst,read⟩ := Option.bind_eq_some_iff.mp read
  obtain ⟨_,readSecond,read⟩ := Option.bind_eq_some_iff.mp read
  cases read
  exact ⟨readFirst,readSecond⟩

end Shape

-- A check that accepts the value of an optional field, where there is one.
def optionally (check : α → Option β) : Option α → Option (Option β)
  | some value => (check value).map some
  | none => some none

theorem optionally_settles {check : α → Option α} (settles : Settles check) : Settles (optionally check) := by
  intro raw value accepted
  cases raw with
  | none =>
    cases accepted
    rfl
  | some raw =>
    obtain ⟨kept,checked,rfl⟩ := Option.map_eq_some_iff.mp accepted
    exact Option.map_eq_some_iff.mpr ⟨kept,settles raw kept checked,rfl⟩

theorem optionally_some {check : α → Option α} {value : Option α} (accepted : optionally check value = some value) :
    ∀ inner ∈ value, check inner = some inner := by
  rintro inner rfl
  obtain ⟨kept,checked,same⟩ := Option.map_eq_some_iff.mp accepted
  cases same
  exact checked

section Reading
variable {check : Text → Option Text} {settles : Settles check} {lookup : Text → Option Json}

-- What is read through a check is left by it.
theorem field_checked {value : Text} (read : (field key (string check settles)).read lookup = some value) :
    check value = some value := by
  obtain ⟨json,_,decoded⟩ := Option.bind_eq_some_iff.mp read
  cases json with
  | text raw => exact settles raw value decoded
  | _ => cases decoded

theorem defaulted_checked {accepts : α → Option α} {present stays} {value : Option α}
    (decoded : ∀ json value, codec.decode json = some value → accepts value = some value)
    (read : (defaulted key (optional codec present) none stays).read lookup = some value) :
    optionally accepts value = some value := by
  change (match lookup (text key) with | some json => decodeOptional codec json | none => some none) = _ at read
  split at read
  · rename_i json _
    by_cases null : json.kind = .null
    · cases json <;> cases null
      cases read
      rfl
    · rw [decodeOptional_present codec null] at read
      obtain ⟨kept,here,rfl⟩ := Option.map_eq_some_iff.mp read
      exact congrArg (Option.map some) (decoded json kept here)
  · cases read
    rfl

theorem string_checked (json : Json) (value : Text) (decoded : (string check settles).decode json = some value) :
    check value = some value := by
  cases json with
  | text raw => exact settles raw value decoded
  | _ => cases decoded

end Reading

-- `fields | (key: value)` of two dicts.
def merged (fields : Fields) (key : Text) (value : Json) : Fields := fields.filter (·.1 ≠ key) ++ [(key,value)]

def mergedInto (key : Text) (value : Json) : Json → Option Json
  | .object fields => some (.object (merged fields key value))
  | _ => none

theorem mergedInto_dump (shape : Shape α) (model : α) (key : Text) (value : Json) :
    mergedInto key value (shape.dump model).sortKeys =
      some (.object (merged (sortFields (sortValues (shape.write model))) key value)) := rfl

theorem model_decode (shape : Shape α) (forbids : Bool) : (shape.model forbids).decode = shape.decodeModel forbids := rfl

theorem merged_lookup_same (fields : Fields) (key : Text) (value : Json) : (merged fields key value).lookup key = some value := by
  have absent : key ∉ (fields.filter (·.1 ≠ key)).map Prod.fst := by
    intro present
    obtain ⟨field,member,same⟩ := List.mem_map.mp present
    exact of_decide_eq_true (List.mem_filter.mp member).2 same
  unfold merged
  rw [List.lookup_append,lookup_none absent,List.lookup_cons_self]
  rfl

theorem merged_lookup_other {other : Text} (apart : other ≠ key) (fields : Fields) (value : Json) :
    (merged fields key value).lookup other = fields.lookup other := by
  have last : List.lookup other [(key,value)] = none := by
    rw [List.lookup_cons,beq_false_of_ne apart]
    rfl
  unfold merged
  rw [List.lookup_append,last,Option.or_none]
  induction fields with
  | nil => rfl
  | cons field rest ih =>
    obtain ⟨name,content⟩ := field
    rw [List.lookup_cons]
    by_cases kept : name = key
    · subst kept
      rw [List.filter_cons_of_neg (by simp),ih,beq_false_of_ne apart]
    · rw [List.filter_cons_of_pos (by simpa using kept),List.lookup_cons,ih]

end CanonicalCodec
