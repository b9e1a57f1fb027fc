import EngineeringPlatform.IdentityPolicy
namespace EngineeringPlatform.Configuration
open Identity

section
variable (decimalEqual : String → String → Bool)

-- `_equal` and `_exact_json_equal`: deep, and of the same type at every level. How two
-- floats compare is left open.
mutual
def equal : JsonValue → JsonValue → Bool
  | .null,.null => true
  | .boolean left,.boolean right => left = right
  | .integer left,.integer right => left = right
  | .decimal left,.decimal right => decimalEqual left right
  | .text left,.text right => left = right
  | .list left,.list right => equalItems left right
  | .object left,.object right =>
    (right.all fun field => (left.lookup field.1).isSome) && equalFields left right
  | _,_ => false
termination_by structural left => left

def equalItems : List JsonValue → List JsonValue → Bool
  | [],[] => true
  | left :: lefts,right :: rights => equal left right && equalItems lefts rights
  | _,_ => false
termination_by structural left => left

def equalFields : List (String × JsonValue) → List (String × JsonValue) → Bool
  | [],_ => true
  | field :: rest,right => equalField field right && equalFields rest right
termination_by structural left => left

def equalField : String × JsonValue → List (String × JsonValue) → Bool
  | (key,value),right =>
    match right.lookup key with
    | some other => equal value other
    | none => false
termination_by structural left => left
end

-- What it decides.
inductive Same : JsonValue → JsonValue → Prop where
  | null : Same .null .null
  | boolean : Same (.boolean value) (.boolean value)
  | integer : Same (.integer value) (.integer value)
  | decimal : decimalEqual left right = true → Same (.decimal left) (.decimal right)
  | text : Same (.text value) (.text value)
  | list (length : left.length = right.length)
      (items : ∀ (i : Nat) (l r : JsonValue), left[i]? = some l → right[i]? = some r → Same l r) :
      Same (.list left) (.list right)
  | object (keys : ∀ key, (left.lookup key).isSome = (right.lookup key).isSome)
      (values : ∀ field ∈ left, ∀ other, right.lookup field.1 = some other → Same field.2 other) :
      Same (.object left) (.object right)
end

variable {decimalEqual : String → String → Bool}

theorem lookup_isSome {fields : PolicyValues} : (fields.lookup key).isSome = true ↔ ∃ field ∈ fields, field.1 = key := by
  induction fields with
  | nil => simp
  | cons field rest ih =>
    obtain ⟨name,value⟩ := field
    by_cases here : key = name
    · subst here
      simp
    · have other : (key == name) = false := beq_false_of_ne here
      simp only [List.lookup_cons,other,ih,List.exists_mem_cons_iff]
      constructor
      · exact .inr
      · rintro (same | later)
        · exact absurd same.symm here
        · exact later

mutual
theorem equal_iff (left right : JsonValue) : equal decimalEqual left right = true ↔ Same decimalEqual left right := by
  cases left with
  | null =>
    constructor
    · intro same
      cases right <;> first | exact .null | cases same
    · rintro ⟨⟩
      rfl
  | boolean value =>
    constructor
    · intro same
      cases right <;> first | (cases of_decide_eq_true same; exact .boolean) | cases same
    · rintro ⟨⟩
      exact decide_eq_true rfl
  | integer value =>
    constructor
    · intro same
      cases right <;> first | (cases of_decide_eq_true same; exact .integer) | cases same
    · rintro ⟨⟩
      exact decide_eq_true rfl
  | decimal value =>
    constructor
    · intro same
      cases right <;> first | exact .decimal same | cases same
    · rintro ⟨⟩
      assumption
  | text value =>
    constructor
    · intro same
      cases right <;> first | (cases of_decide_eq_true same; exact .text) | cases same
    · rintro ⟨⟩
      exact decide_eq_true rfl
  | list left =>
    constructor
    · intro same
      cases right with
      | list right =>
        obtain ⟨length,items⟩ := (equalItems_iff left right).mp same
        exact .list length items
      | _ => cases same
    · rintro (_ | _ | _ | _ | _ | ⟨length,items⟩)
      exact (equalItems_iff left _).mpr ⟨length,items⟩
  | object left =>
    constructor
    · intro same
      cases right with
      | object right =>
        obtain ⟨back,forth⟩ := Bool.and_eq_true_iff.mp same
        have fields := (equalFields_iff left right).mp forth
        refine .object (fun key => ?_) (fun field member other found => ?_)
        · rw [Bool.eq_iff_iff,lookup_isSome]
          constructor
          · rintro ⟨field,member,rfl⟩
            obtain ⟨other,found,_⟩ := fields field member
            rw [found]
            rfl
          · intro present
            obtain ⟨field,member,rfl⟩ := lookup_isSome.mp present
            exact lookup_isSome.mp (List.all_eq_true.mp back field member)
        · obtain ⟨other',found',same⟩ := fields field member
          cases found.symm.trans found'
          exact same
      | _ => cases same
    · rintro (_ | _ | _ | _ | _ | _ | ⟨keys,values⟩)
      refine Bool.and_eq_true_iff.mpr ⟨List.all_eq_true.mpr fun field member => ?_,
        (equalFields_iff left _).mpr fun field member => ?_⟩
      · rw [keys]
        exact lookup_isSome.mpr ⟨field,member,rfl⟩
      · have present := keys field.1 ▸ lookup_isSome.mpr ⟨field,member,rfl⟩
        obtain ⟨other,found⟩ := Option.isSome_iff_exists.mp present
        exact ⟨other,found,values field member other found⟩

theorem equalItems_iff (left right : List JsonValue) : equalItems decimalEqual left right = true ↔
    left.length = right.length ∧
      ∀ (i : Nat) (l r : JsonValue), left[i]? = some l → right[i]? = some r → Same decimalEqual l r := by
  cases left with
  | nil => cases right <;> simp [equalItems]
  | cons head rest =>
    cases right with
    | nil => simp [equalItems]
    | cons other others =>
      rw [equalItems,Bool.and_eq_true,equal_iff head other,equalItems_iff rest others]
      constructor
      · rintro ⟨first,length,later⟩
        refine ⟨congrArg (· + 1) length,fun i l r atLeft atRight => ?_⟩
        cases i with
        | zero =>
          cases atLeft
          cases atRight
          exact first
        | succ i => exact later i l r atLeft atRight
      · rintro ⟨length,all⟩
        exact ⟨all 0 head other rfl rfl,Nat.succ.inj length,fun i l r atLeft atRight => all (i + 1) l r atLeft atRight⟩

theorem equalFields_iff (left right : List (String × JsonValue)) : equalFields decimalEqual left right = true ↔
    ∀ field ∈ left, ∃ other, right.lookup field.1 = some other ∧ Same decimalEqual field.2 other := by
  cases left with
  | nil => simp [equalFields]
  | cons field rest =>
    rw [equalFields,Bool.and_eq_true,equalField_iff field right,equalFields_iff rest right,List.forall_mem_cons]

theorem equalField_iff (field : String × JsonValue) (right : List (String × JsonValue)) :
    equalField decimalEqual field right = true ↔
      ∃ other, right.lookup field.1 = some other ∧ Same decimalEqual field.2 other := by
  obtain ⟨key,value⟩ := field
  rw [equalField]
  cases found : right.lookup key with
  | none => simp
  | some other => simp [equal_iff value other]
end

example : equal decimalEqual (.boolean true) (.integer 1) = false := rfl

end EngineeringPlatform.Configuration
