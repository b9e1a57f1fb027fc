import EngineeringPlatform.PythonText
import EngineeringPlatform.Trimming
import Mathlib.Data.List.Lex
import Mathlib.Data.List.Sort
import Mathlib.Tactic.IntervalCases
-- `json.dumps` with sorted keys, without blanks and with characters beyond ASCII as they
-- are: one text for each value.
namespace CanonicalJson
open PythonText Trimming

inductive Json where
  | null
  | boolean (value : Bool)
  | integer (value : Int)
  | text (value : Text)
  | list (items : List Json)
  | object (fields : List (Text × Json))

abbrev Fields := List (Text × Json)

def hexPoint (digit : Nat) : Nat := if digit < 10 then 48 + digit else 87 + digit

def escaped (point : Nat) : Text :=
  if point = 34 then [92,34]
  else if point = 92 then [92,92]
  else if point = 8 then [92,98]
  else if point = 12 then [92,102]
  else if point = 10 then [92,110]
  else if point = 13 then [92,114]
  else if point = 9 then [92,116]
  else if point < 32 then [92,117,48,48,hexPoint (point / 16),hexPoint (point % 16)]
  else [point]

def quoted (value : Text) : Text := 34 :: (value.flatMap escaped ++ [34])

def writeInteger (value : Int) : Text :=
  if value < 0 then 45 :: decimal value.natAbs else decimal value.natAbs

def joined : List Text → Text
  | [] => []
  | part :: rest => part ++ rest.flatMap (44 :: ·)

mutual
def Json.write : Json → Text
  | .null => PythonText.text "null"
  | .boolean true => PythonText.text "true"
  | .boolean false => PythonText.text "false"
  | .integer value => writeInteger value
  | .text value => quoted value
  | .list items => 91 :: (joined (writeItems items) ++ [93])
  | .object fields => 123 :: (joined (writeFields fields) ++ [125])
termination_by structural value => value

def writeItems : List Json → List Text
  | [] => []
  | item :: rest => item.write :: writeItems rest
termination_by structural items => items

def writeFields : Fields → List Text
  | [] => []
  | field :: rest => writeField field :: writeFields rest
termination_by structural fields => fields

def writeField : Text × Json → Text
  | (key,value) => quoted key ++ 58 :: value.write
termination_by structural field => field
end

def sortFields (fields : Fields) : Fields := fields.insertionSort fun one two => one.1 ≤ two.1

mutual
def Json.sortKeys : Json → Json
  | .list items => .list (sortItems items)
  | .object fields => .object (sortFields (sortValues fields))
  | value => value
termination_by structural value => value

def sortItems : List Json → List Json
  | [] => []
  | item :: rest => item.sortKeys :: sortItems rest
termination_by structural items => items

def sortValues : Fields → Fields
  | [] => []
  | field :: rest => sortValue field :: sortValues rest
termination_by structural fields => fields

def sortValue : Text × Json → Text × Json
  | (key,value) => (key,value.sortKeys)
termination_by structural field => field
end

def dumps (value : Json) : Text := value.sortKeys.write

-- What can stand behind a value inside a document.
def closer (point : Nat) : Bool := point = 44 ∨ point = 93 ∨ point = 125

def Closed (rest : Text) : Prop := Opens closer rest

-- Read back, one character of a string.
def unescaped : Text → Option (Nat × Text)
  | 92 :: 34 :: rest => some (34,rest)
  | 92 :: 92 :: rest => some (92,rest)
  | 92 :: 98 :: rest => some (8,rest)
  | 92 :: 102 :: rest => some (12,rest)
  | 92 :: 110 :: rest => some (10,rest)
  | 92 :: 114 :: rest => some (13,rest)
  | 92 :: 116 :: rest => some (9,rest)
  | 92 :: 117 :: 48 :: 48 :: high :: low :: rest =>
    some ((high - 48) * 16 + (if low < 58 then low - 48 else low - 87),rest)
  | point :: rest => some (point,rest)
  | [] => none

variable {point : Nat} {value other : Json} {write : α → Text} {fields : Fields}

theorem unescaped_plain (plain : point ≠ 92) (rest : Text) : unescaped (point :: rest) = some (point,rest) := by
  unfold unescaped
  split <;> simp_all

theorem unescaped_control (control : point < 32) (rest : Text) :
    unescaped ([92,117,48,48,hexPoint (point / 16),hexPoint (point % 16)] ++ rest) = some (point,rest) := by
  interval_cases point <;> rfl

theorem unescaped_escaped (point : Nat) (rest : Text) : unescaped (escaped point ++ rest) = some (point,rest) := by
  unfold escaped
  repeat' split
  all_goals try (subst_vars; rfl)
  · exact unescaped_control (by assumption) rest
  · exact unescaped_plain (by assumption) rest

theorem escaped_quote (point : Nat) : (escaped point).head? ≠ some 34 ∧ escaped point ≠ [] := by
  unfold escaped
  repeat' split
  all_goals try exact ⟨by decide,by decide⟩
  · exact ⟨nofun,nofun⟩
  · rename_i quote _ _ _ _ _ _ _
    exact ⟨fun same => quote (Option.some.inj same),nofun⟩

-- A string ends at its first quote that is no part of an escape.
theorem quoted_unique {value other : Text} (same : value.flatMap escaped ++ 34 :: x = other.flatMap escaped ++ 34 :: y) :
    value = other ∧ x = y := by
  have apart (point : Nat) (rest tail : Text) : escaped point ++ rest ≠ 34 :: tail := by
    intro impossible
    obtain ⟨quote,filled⟩ := escaped_quote point
    cases written : escaped point with
    | nil => exact filled written
    | cons first later =>
      rw [written] at impossible quote
      exact quote (congrArg some (List.cons.inj impossible).1)
  induction value generalizing other with
  | nil =>
    cases other with
    | nil => exact ⟨rfl,(List.cons.inj same).2⟩
    | cons point rest =>
      rw [List.flatMap_cons,List.append_assoc] at same
      exact absurd same.symm (apart _ _ _)
  | cons point rest ih =>
    cases other with
    | nil =>
      rw [List.flatMap_cons,List.append_assoc] at same
      exact absurd same (apart _ _ _)
    | cons point' rest' =>
      rw [List.flatMap_cons,List.flatMap_cons,List.append_assoc,List.append_assoc] at same
      have read := congrArg unescaped same
      rw [unescaped_escaped,unescaped_escaped] at read
      obtain ⟨here,later⟩ := Prod.mk.inj (Option.some.inj read)
      obtain ⟨rests,ends⟩ := ih later
      exact ⟨by rw [here,rests],ends⟩

theorem decimal_unique (closed : Closed x) (closed' : Closed y) (same : decimal n ++ x = decimal m ++ y) : n = m ∧ x = y := by
  have digits (number : Nat) : Free (!asciiDigit ·) (decimal number) := fun point member => by simp [decimal_digit member]
  have opens {rest : Text} (closed : Closed rest) : Opens (!asciiDigit ·) rest := by
    intro point first
    have close := closed point first
    simp only [closer,decide_eq_true_eq] at close
    rcases close with rfl | rfl | rfl <;> rfl
  have cuts := congrArg (cut (!asciiDigit ·)) same
  rw [cut_of_parts (digits n) (opens closed),cut_of_parts (digits m) (opens closed')] at cuts
  exact ⟨decimal_injective (Prod.mk.inj cuts).1,(Prod.mk.inj cuts).2⟩

theorem decimal_filled (number : Nat) : decimal number ≠ [] := by
  intro empty
  have digits : Nat.toDigits 10 number = [] := Nat.toList_repr ▸ List.map_eq_nil_iff.mp empty
  exact Nat.toDigits_ne_nil digits

-- The first character of a text tells which kind of value it writes.
inductive Kind where
  | null
  | boolean (value : Bool)
  | integer (negative : Bool)
  | text
  | list
  | object
  deriving DecidableEq

def Json.kind : Json → Kind
  | .null => .null
  | .boolean value => .boolean value
  | .integer value => .integer (value < 0)
  | .text _ => .text
  | .list _ => .list
  | .object _ => .object

def kindAt (point : Nat) : Option Kind :=
  if point = 110 then some .null
  else if point = 116 then some (.boolean true)
  else if point = 102 then some (.boolean false)
  else if point = 45 then some (.integer true)
  else if asciiDigit point then some (.integer false)
  else if point = 34 then some .text
  else if point = 91 then some .list
  else if point = 123 then some .object
  else none

theorem kindAt_digit (digit : asciiDigit point = true) : kindAt point = some (.integer false) := by
  simp only [asciiDigit,decide_eq_true_eq] at digit
  have digits : ∀ point < 58, 48 ≤ point → kindAt point = some (.integer false) := by decide
  exact digits point (by omega) digit.1

theorem write_kind (value : Json) : value.write.head?.bind kindAt = some value.kind := by
  cases value with
  | boolean value => cases value <;> rfl
  | integer value =>
    unfold Json.write writeInteger Json.kind
    split
    · rename_i negative
      simp only [negative,decide_true]
      rfl
    · rename_i positive
      simp only [positive,decide_false]
      cases written : decimal value.natAbs with
      | nil => exact absurd written (decimal_filled _)
      | cons point rest => exact kindAt_digit (decimal_digit (written ▸ List.mem_cons_self))
  | _ => rfl

theorem write_same_kind (same : value.write ++ x = other.write ++ y) : value.kind = other.kind := by
  have first (value : Json) (rest : Text) : (value.write ++ rest).head?.bind kindAt = some value.kind := by
    have kind := write_kind value
    cases written : value.write with
    | nil =>
      rw [written] at kind
      cases kind
    | cons point rest =>
      rw [written] at kind
      exact kind
  have kinds := first value x
  rw [same,first other y] at kinds
  exact (Option.some.inj kinds).symm

theorem writeInteger_unique {value other : Int} (closed : Closed x) (closed' : Closed y)
    (sign : (value < 0) = (other < 0)) (same : writeInteger value ++ x = writeInteger other ++ y) :
    value = other ∧ x = y := by
  unfold writeInteger at same
  split at same
  · rename_i negative
    rw [if_pos (sign ▸ negative)] at same
    obtain ⟨size,rest⟩ := decimal_unique closed closed' (List.cons.inj same).2
    have negative' : other < 0 := sign ▸ negative
    exact ⟨by omega,rest⟩
  · rename_i positive
    rw [if_neg (sign ▸ positive)] at same
    obtain ⟨size,rest⟩ := decimal_unique closed closed' same
    have positive' : ¬other < 0 := sign ▸ positive
    exact ⟨by omega,rest⟩

-- What is written is read in one way, whatever stands behind it.
def Unique (write : α → Text) (value : α) : Prop :=
  ∀ (other : α) (x y : Text), Closed x → Closed y → write value ++ x = write other ++ y → value = other ∧ x = y

theorem closed_cons (close : closer point = true) (rest : Text) : Closed (point :: rest) := by
  intro first same
  cases same
  exact close

theorem tail_closed (close : closer bracket = true) (items : List α) (rest : Text) :
    Closed ((items.map write).flatMap (44 :: ·) ++ bracket :: rest) := by
  cases items with
  | nil => exact closed_cons close _
  | cons item rest => exact closed_cons rfl _

-- The parts behind the first one, up to the closing bracket.
theorem tail_unique {items others : List α} (close : closer bracket = true) (apart : bracket ≠ 44)
    (unique : ∀ item ∈ items, Unique write item)
    (same : (items.map write).flatMap (44 :: ·) ++ bracket :: x = (others.map write).flatMap (44 :: ·) ++ bracket :: y) :
    items = others ∧ x = y := by
  induction items generalizing others with
  | nil =>
    cases others with
    | nil => exact ⟨rfl,(List.cons.inj same).2⟩
    | cons other rest => exact absurd (List.cons.inj same).1 apart
  | cons item rest ih =>
    cases others with
    | nil => exact absurd (List.cons.inj same).1.symm apart
    | cons other rest' =>
      simp only [List.map_cons,List.flatMap_cons,List.cons_append,List.append_assoc] at same
      obtain ⟨here,later⟩ := unique item List.mem_cons_self other _ _ (tail_closed close _ _) (tail_closed close _ _) (List.cons.inj same).2
      obtain ⟨rests,ends⟩ := ih (fun item member => unique item (List.mem_cons_of_mem _ member)) later
      exact ⟨by rw [here,rests],ends⟩

theorem joined_unique {items others : List α} (close : closer bracket = true) (apart : bracket ≠ 44)
    (unique : ∀ item ∈ items, Unique write item) (head : ∀ (item : α) (x y : Text), write item ++ x ≠ bracket :: y)
    (same : joined (items.map write) ++ bracket :: x = joined (others.map write) ++ bracket :: y) :
    items = others ∧ x = y := by
  cases items with
  | nil =>
    cases others with
    | nil => exact ⟨rfl,(List.cons.inj same).2⟩
    | cons other rest =>
      simp only [List.map_cons,joined,List.append_assoc] at same
      exact absurd same.symm (head _ _ _)
  | cons item rest =>
    cases others with
    | nil =>
      simp only [List.map_cons,joined,List.append_assoc] at same
      exact absurd same (head _ _ _)
    | cons other rest' =>
      simp only [List.map_cons,joined,List.append_assoc] at same
      obtain ⟨here,later⟩ := unique item List.mem_cons_self other _ _ (tail_closed close _ _) (tail_closed close _ _) same
      obtain ⟨rests,ends⟩ := tail_unique close apart (fun item member => unique item (List.mem_cons_of_mem _ member)) later
      exact ⟨by rw [here,rests],ends⟩

theorem writeItems_map (items : List Json) : writeItems items = items.map Json.write := by
  induction items with
  | nil => rfl
  | cons item rest ih => rw [writeItems,ih,List.map_cons]

theorem writeFields_map (fields : Fields) : writeFields fields = fields.map writeField := by
  induction fields with
  | nil => rfl
  | cons field rest ih => rw [writeFields,ih,List.map_cons]

theorem write_head (value : Json) (x y : Text) : value.write ++ x ≠ 93 :: y := by
  intro same
  have kind := write_kind value
  cases written : value.write with
  | nil =>
    rw [written] at kind
    cases kind
  | cons point rest =>
    rw [written] at kind same
    rw [(List.cons.inj same).1] at kind
    cases kind

theorem writeField_head (field : Text × Json) (x y : Text) : writeField field ++ x ≠ 125 :: y := by
  obtain ⟨key,value⟩ := field
  rw [writeField]
  exact fun same => absurd (List.cons.inj same).1 (by decide)

mutual
theorem write_unique (value : Json) : Unique Json.write value := by
  intro other x y closed closed' same
  have kind := write_same_kind same
  cases value with
  | null =>
    cases other <;> cases kind
    exact ⟨rfl,List.append_cancel_left same⟩
  | boolean value =>
    cases other <;> cases kind
    exact ⟨rfl,List.append_cancel_left same⟩
  | integer value =>
    cases other <;> simp only [Json.kind,Kind.integer.injEq,reduceCtorEq] at kind
    simp only [Json.write] at same
    obtain ⟨here,later⟩ := writeInteger_unique closed closed' (by simpa using kind) same
    exact ⟨by rw [here],later⟩
  | text value =>
    cases other <;> cases kind
    simp only [Json.write,quoted,List.cons_append,List.append_assoc] at same
    obtain ⟨here,later⟩ := quoted_unique (List.cons.inj same).2
    exact ⟨by rw [here],later⟩
  | list items =>
    cases other <;> cases kind
    simp only [Json.write,writeItems_map,List.cons_append,List.append_assoc] at same
    obtain ⟨here,later⟩ := joined_unique rfl (by decide) (items_unique items) write_head (List.cons.inj same).2
    exact ⟨by rw [here],later⟩
  | object fields =>
    cases other <;> cases kind
    simp only [Json.write,writeFields_map,List.cons_append,List.append_assoc] at same
    obtain ⟨here,later⟩ := joined_unique rfl (by decide) (fields_unique fields) writeField_head (List.cons.inj same).2
    exact ⟨by rw [here],later⟩

theorem items_unique (items : List Json) : ∀ item ∈ items, Unique Json.write item := by
  cases items with
  | nil => exact nofun
  | cons item rest => exact List.forall_mem_cons.mpr ⟨write_unique item,items_unique rest⟩

theorem fields_unique (fields : Fields) : ∀ field ∈ fields, Unique writeField field := by
  cases fields with
  | nil => exact nofun
  | cons field rest => exact List.forall_mem_cons.mpr ⟨field_unique field,fields_unique rest⟩

theorem field_unique (field : Text × Json) : Unique writeField field := by
  obtain ⟨key,value⟩ := field
  rintro ⟨key',value'⟩ x y closed closed' same
  simp only [writeField,quoted,List.cons_append,List.append_assoc,List.nil_append] at same
  obtain ⟨keys,rest⟩ := quoted_unique (List.cons.inj same).2
  obtain ⟨values,later⟩ := write_unique value value' x y closed closed' (List.cons.inj rest).2
  exact ⟨by rw [keys,values],later⟩
end

theorem write_injective (same : value.write = other.write) : value = other := by
  refine (write_unique value other [] [] nofun nofun ?_).1
  rw [List.append_nil,List.append_nil,same]

theorem sortItems_map (items : List Json) : sortItems items = items.map Json.sortKeys := by
  induction items with
  | nil => rfl
  | cons item rest ih => rw [sortItems,ih,List.map_cons]

theorem lookup_mem (distinct : (fields.map Prod.fst).Nodup) :
    fields.lookup key = some value ↔ (key,value) ∈ fields := by
  induction fields with
  | nil => simp
  | cons field rest ih =>
    obtain ⟨name,content⟩ := field
    obtain ⟨fresh,distinct⟩ := List.nodup_cons.mp distinct
    rw [List.lookup_cons,List.mem_cons]
    split
    · rename_i here
      have same : key = name := eq_of_beq here
      subst same
      constructor
      · rintro ⟨⟩
        exact .inl rfl
      · rintro (same | later)
        · rw [(Prod.mk.inj same).2]
        · exact absurd (List.mem_map_of_mem later) fresh
    · rename_i other
      rw [ih distinct]
      constructor
      · exact .inr
      · rintro (same | later)
        · rw [(Prod.mk.inj same).1,beq_self_eq_true] at other
          cases other
        · exact later

theorem sortValues_keys (fields : Fields) : (sortValues fields).map Prod.fst = fields.map Prod.fst := by
  induction fields with
  | nil => rfl
  | cons field rest ih =>
    obtain ⟨key,value⟩ := field
    simp only [sortValues,sortValue,List.map_cons,ih]

theorem sortValues_lookup (fields : Fields) (key : Text) :
    (sortValues fields).lookup key = (fields.lookup key).map Json.sortKeys := by
  induction fields with
  | nil => rfl
  | cons field rest ih =>
    obtain ⟨name,value⟩ := field
    simp only [sortValues,sortValue,List.lookup_cons,ih]
    split <;> rfl

theorem sortFields_lookup (distinct : (fields.map Prod.fst).Nodup) (key : Text) :
    (sortFields fields).lookup key = fields.lookup key := by
  have perm : (sortFields fields).Perm fields := List.perm_insertionSort _ _
  have distinct' : ((sortFields fields).map Prod.fst).Nodup := (perm.map Prod.fst).nodup_iff.mpr distinct
  ext value
  rw [lookup_mem distinct',lookup_mem distinct,perm.mem_iff]

theorem sortKeys_of_dumps (same : dumps value = dumps other) : value.sortKeys = other.sortKeys :=
  write_injective same

theorem values_of_lookup {others : Fields} (distinct : (fields.map Prod.fst).Nodup)
    (keys : others.map Prod.fst = fields.map Prod.fst)
    (same : ∀ key, (fields.lookup key).map Json.sortKeys = (others.lookup key).map Json.sortKeys) :
    fields.map (fun field => field.2.sortKeys) = others.map fun field => field.2.sortKeys := by
  induction fields generalizing others with
  | nil => rw [List.map_eq_nil_iff.mp keys]
  | cons field rest ih =>
    cases others with
    | nil => cases keys
    | cons other rest' =>
      obtain ⟨name,value⟩ := field
      obtain ⟨name',value'⟩ := other
      simp only [List.map_cons,List.cons.injEq] at keys
      obtain ⟨rfl,rests⟩ := keys
      obtain ⟨fresh,distinct⟩ := List.nodup_cons.mp distinct
      have fresh' : name' ∉ rest'.map Prod.fst := rests ▸ fresh
      have first := same name'
      rw [List.lookup_cons_self,List.lookup_cons_self] at first
      have later (key : Text) : (rest.lookup key).map Json.sortKeys = (rest'.lookup key).map Json.sortKeys := by
        by_cases here : key = name'
        · subst here
          have absent {fields : Fields} (free : key ∉ fields.map Prod.fst) : fields.lookup key = none :=
            List.lookup_eq_none_iff.mpr fun field member => by
              refine bne_iff_ne.mpr fun equal => free ?_
              rw [equal]
              exact List.mem_map_of_mem member
          rw [absent fresh,absent fresh']
        · have other := same key
          rwa [List.lookup_cons,List.lookup_cons,beq_false_of_ne here] at other
      rw [List.map_cons,List.map_cons,ih distinct rests later,Option.some.inj first]

-- Two objects with the same keys that are written alike have the same values.
theorem object_values {others : Fields} (distinct : (fields.map Prod.fst).Nodup)
    (keys : others.map Prod.fst = fields.map Prod.fst)
    (same : (Json.object fields).sortKeys = (Json.object others).sortKeys) :
    fields.map (fun field => field.2.sortKeys) = others.map fun field => field.2.sortKeys := by
  refine values_of_lookup distinct keys fun key => ?_
  have lookups := congrArg (List.lookup key) (Json.object.inj same)
  rwa [sortFields_lookup (by rw [sortValues_keys]; exact distinct),
    sortFields_lookup (by rw [sortValues_keys,keys]; exact distinct),sortValues_lookup,sortValues_lookup] at lookups

end CanonicalJson
