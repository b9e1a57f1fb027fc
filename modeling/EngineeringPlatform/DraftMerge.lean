import EngineeringPlatform.DraftRebase
namespace EngineeringPlatform.Configuration
open Checked Identity PythonTime
variable {decimalEqual : String → String → Bool} {digest : PolicyValues → String} {owner : PolicyOwner}
variable {fields : PolicyValues} {snapshot : PolicySnapshot} {item : DraftBaseComparisonItem}
  {observation : DraftBaseComparison} {catalog : List PolicyKey}

theorem lookup_of_mem (distinct : (fields.map Prod.fst).Nodup) (member : field ∈ fields) :
    fields.lookup field.1 = some field.2 := by
  induction fields with
  | nil => cases member
  | cons first rest ih =>
    obtain ⟨fresh,distinct⟩ := List.nodup_cons.mp distinct
    rcases List.mem_cons.mp member with rfl | later
    · exact List.lookup_cons_self
    · have other : field.1 ≠ first.1 := fun same => fresh (same ▸ List.mem_map_of_mem later)
      rw [List.lookup_cons,beq_false_of_ne other]
      exact ih distinct later

theorem distinctFields_all {fields : List (String × JsonValue)} (distinct : distinctFields fields = true) :
    ∀ field ∈ fields, distinctKeys field.2 = true := by
  induction fields with
  | nil => exact fun _ member => by cases member
  | cons first rest ih =>
    obtain ⟨here,later⟩ := Bool.and_eq_true_iff.mp distinct
    obtain ⟨name,value⟩ := first
    exact List.forall_mem_cons.mpr ⟨here,ih later⟩

theorem distinct_object (distinct : distinctKeys (.object fields) = true) :
    (fields.map Prod.fst).Nodup ∧ ∀ field ∈ fields, distinctKeys field.2 = true := by
  obtain ⟨keys,values⟩ := Bool.and_eq_true_iff.mp distinct
  exact ⟨of_decide_eq_true keys,distinctFields_all values⟩

-- With distinct keys an object equals itself as soon as its values do.
theorem Same.object_refl (distinct : (fields.map Prod.fst).Nodup)
    (values : ∀ field ∈ fields, Same decimalEqual field.2 field.2) :
    Same decimalEqual (.object fields) (.object fields) := by
  refine .object (fun _ => rfl) (fun field member other found => ?_)
  cases (lookup_of_mem distinct member).symm.trans found
  exact values field member

theorem Same.texts_refl (texts : List String) :
    Same decimalEqual (.list (texts.map .text)) (.list (texts.map .text)) := by
  refine .list rfl fun i left right atLeft atRight => ?_
  cases atLeft.symm.trans atRight
  obtain ⟨text,_,rfl⟩ := List.mem_map.mp (List.mem_of_getElem? atLeft)
  exact .text

-- An accepted value holds no float, so that it equals itself.
theorem Accepts.same {read : Reading} (accepts : owner.Accepts read) (member : key ∈ owner.keys)
    (found : read key = some value) (distinct : distinctKeys value = true) : Same decimalEqual value value := by
  cases owner with
  | identity rows =>
    obtain ⟨⟨_,ttl,_⟩,age,⟨_,cap,_⟩,⟨_,idle,_⟩,⟨fields,backoff,_,positives,_⟩,⟨_,totp,_⟩,⟨_,archive,_⟩⟩ := accepts
    have named : key ∈ identityKeys.map PolicyKey.key := member
    simp only [identityKeys,identityKey,List.map_cons,List.map_nil,List.mem_cons,List.not_mem_nil,or_false] at named
    rcases named with rfl | rfl | rfl | rfl | rfl | rfl | rfl
    · cases ttl.symm.trans found
      exact .integer
    · rcases age with never | ⟨_,limited,_⟩
      · cases never.symm.trans found
        exact .text
      · cases limited.symm.trans found
        exact .integer
    · cases cap.symm.trans found
      exact .integer
    · cases idle.symm.trans found
      exact .integer
    · cases backoff.symm.trans found
      refine .object_refl (distinct_object distinct).1 fun field member => ?_
      have whole := positives field member
      obtain ⟨name,value⟩ := field
      cases value with
      | integer number => exact .integer
      | _ => cases whole
    · cases totp.symm.trans found
      exact .integer
    · cases archive.symm.trans found
      exact .integer
  | gate =>
    obtain ⟨acceptance,formal,archive⟩ := accepts
    have named : key ∈ [acceptanceKey,formalKey,archiveKey] := member
    simp only [List.mem_cons,List.not_mem_nil,or_false] at named
    rcases named with rfl | rfl | rfl
    · obtain ⟨capabilities,read⟩ := Option.isSome_iff_exists.mp acceptance
      rw [found] at read
      rw [capabilitySet_some read]
      exact .texts_refl _
    · obtain ⟨capabilities,read⟩ := Option.isSome_iff_exists.mp formal
      rw [found] at read
      rw [capabilitySet_some read]
      exact .texts_refl _
    · obtain ⟨days,read⟩ := Option.isSome_iff_exists.mp archive
      rw [found] at read
      rw [archiveDays_some read]
      exact .integer

theorem normalize_distinct (ran : owner.normalizeCandidate decimalEqual namespace_ schemaRevision values = .ok result)
    (distinct : (values.map Prod.fst).Nodup) : (result.map Prod.fst).Nodup := by
  cases owner with
  | identity rows =>
    obtain ⟨_,ran⟩ := require_bind_ok.mp ran
    obtain ⟨_,_,ran⟩ := bind_ok.mp ran
    split at ran
    · cases pure_ok.mp ran
      exact distinct
    · cases ran
  | gate =>
    obtain ⟨_,_,ran⟩ := bind_ok.mp ran
    obtain ⟨_,ran⟩ := require_bind_ok.mp ran
    split at ran
    · cases pure_ok.mp ran
      exact (by decide : [acceptanceKey,formalKey,archiveKey].Nodup)
    · cases ran

theorem normalizeSnapshot_ok :
    normalizeSnapshot decimalEqual owner namespace_ snapshot = .ok values ↔
      owner.normalizeCandidate decimalEqual namespace_ snapshot.schemaRevision snapshot.values = .ok values := by
  unfold normalizeSnapshot
  split
  · rename_i refused
    rw [refused]
    exact ⟨(fun absurd => by cases absurd),fun absurd => by cases absurd⟩
  · exact .rfl

-- What a comparison that succeeds has checked, and what it lists.
structure Compared (decimalEqual : String → String → Bool) (owner : PolicyOwner) (namespace_ : String)
    (schemaRevision : Int) (base current : PolicySnapshot) (content : PolicyValues)
    (items : List DraftBaseComparisonItem) (catalog : List PolicyKey)
    (baseValues currentValues draftValues : PolicyValues) : Prop where
  served : owner.catalog decimalEqual namespace_ = .ok catalog
  registered : registeredCatalog namespace_ schemaRevision catalog = true
  baseRead : owner.normalizeCandidate decimalEqual namespace_ base.schemaRevision base.values = .ok baseValues
  currentRead : owner.normalizeCandidate decimalEqual namespace_ current.schemaRevision current.values = .ok currentValues
  draftRead : owner.normalizeCandidate decimalEqual namespace_ schemaRevision content = .ok draftValues
  keys : sameKeys baseValues (catalog.map (·.key)) = true ∧ sameKeys currentValues (catalog.map (·.key)) = true ∧
    sameKeys draftValues (catalog.map (·.key)) = true
  steady : base.version = current.version → base.snapshotHash = current.snapshotHash ∧
    equal decimalEqual (.object baseValues) (.object currentValues) = true
  listed : items = (catalog.insertionSort (fun one two => one.key ≤ two.key)).map
    (compareItem decimalEqual baseValues currentValues draftValues)

theorem comparePolicyValues_ok {base current : PolicySnapshot} :
    comparePolicyValues decimalEqual owner namespace_ schemaRevision base current content = .ok items ↔
      ∃ catalog baseValues currentValues draftValues, Compared decimalEqual owner namespace_ schemaRevision base current
        content items catalog baseValues currentValues draftValues := by
  constructor
  · intro ran
    obtain ⟨catalog,served,ran⟩ := bind_ok.mp ran
    obtain ⟨registered,ran⟩ := require_bind_ok.mp ran
    obtain ⟨baseValues,baseRead,ran⟩ := bind_ok.mp ran
    obtain ⟨currentValues,currentRead,ran⟩ := bind_ok.mp ran
    obtain ⟨draftValues,draftRead,ran⟩ := bind_ok.mp ran
    obtain ⟨keys,ran⟩ := require_bind_ok.mp ran
    obtain ⟨steady,ran⟩ := require_bind_ok.mp ran
    exact ⟨catalog,baseValues,currentValues,draftValues,served,registered,normalizeSnapshot_ok.mp baseRead,
      normalizeSnapshot_ok.mp currentRead,draftRead,keys,steady,(pure_ok.mp ran).symm⟩
  · rintro ⟨catalog,baseValues,currentValues,draftValues,compared⟩
    exact bind_ok.mpr ⟨catalog,compared.served,require_bind_ok.mpr ⟨compared.registered,
      bind_ok.mpr ⟨_,normalizeSnapshot_ok.mpr compared.baseRead,bind_ok.mpr ⟨_,normalizeSnapshot_ok.mpr compared.currentRead,
        bind_ok.mpr ⟨_,compared.draftRead,require_bind_ok.mpr ⟨compared.keys,require_bind_ok.mpr ⟨compared.steady,
          pure_ok.mpr compared.listed.symm⟩⟩⟩⟩⟩⟩⟩

theorem compareDraftBase_ok :
    compareDraftBase decimalEqual digest owner namespace_ draftId expectedRevision (some draft) (some base) (some current) =
        .ok observation →
      (draft.namespace_ = namespace_ ∧ draft.id = draftId ∧ draft.revision = expectedRevision) ∧
      (draft.scope = "PLATFORM" ∧ draft.ownerId ≠ "" ∧ 1 ≤ draft.revision ∧ 1 ≤ draft.baseVersion ∧
        1 ≤ draft.schemaRevision ∧ draft.contentHash = digest draft.content) ∧
      base.schemaRevision = draft.schemaRevision ∧
      checkSnapshot digest (some current) namespace_ draft.schemaRevision = .ok current ∧
      observation.namespace_ = namespace_ ∧ observation.schemaRevision = draft.schemaRevision ∧
      comparePolicyValues decimalEqual owner namespace_ draft.schemaRevision base current draft.content =
        .ok observation.items := by
  intro ran
  obtain ⟨named,ran⟩ := require_bind_ok.mp ran
  obtain ⟨revision,ran⟩ := require_bind_ok.mp ran
  obtain ⟨sound,ran⟩ := require_bind_ok.mp ran
  obtain ⟨base',baseChecked,ran⟩ := bind_ok.mp ran
  obtain ⟨current',currentChecked,ran⟩ := bind_ok.mp ran
  obtain ⟨_,ran⟩ := require_bind_ok.mp ran
  obtain ⟨items,compared,ran⟩ := bind_ok.mp ran
  cases pure_ok.mp ran
  obtain ⟨baseFacts,kept⟩ := require_bind_ok.mp baseChecked
  cases pure_ok.mp kept
  have currentSame := currentChecked
  obtain ⟨currentFacts,kept⟩ := require_bind_ok.mp currentChecked
  cases pure_ok.mp kept
  exact ⟨⟨named.1,named.2,revision⟩,sound,baseFacts.2.2.2.1,currentSame,rfl,rfl,compared⟩

namespace Compared
variable {base current : PolicySnapshot} {catalog : List PolicyKey} {baseValues currentValues draftValues : PolicyValues}
  (compared : Compared decimalEqual owner namespace_ schemaRevision base current content items catalog baseValues
    currentValues draftValues)
include compared

theorem catalog_keys (key : String) : key ∈ catalog.map (·.key) ↔ key ∈ owner.keys := by
  have exact := (normalizes_iff.mp ⟨draftValues,compared.draftRead⟩).2.1
  rw [←sameKeys_iff.mp compared.keys.2.2,normalize_lookup compared.draftRead]
  exact exact key

theorem mem_items : item ∈ items ↔
    ∃ row ∈ catalog, item = compareItem decimalEqual baseValues currentValues draftValues row := by
  rw [compared.listed,List.mem_map]
  constructor
  · rintro ⟨row,member,rfl⟩
    exact ⟨row,(List.mem_insertionSort _).mp member,rfl⟩
  · rintro ⟨row,member,rfl⟩
    exact ⟨row,(List.mem_insertionSort _).mpr member,rfl⟩

theorem item_keys (key : String) : key ∈ items.map (·.key) ↔ key ∈ owner.keys := by
  rw [←compared.catalog_keys,List.mem_map,List.mem_map]
  constructor
  · rintro ⟨item,member,rfl⟩
    obtain ⟨row,present,rfl⟩ := compared.mem_items.mp member
    exact ⟨row,present,rfl⟩
  · rintro ⟨row,present,rfl⟩
    exact ⟨_,compared.mem_items.mpr ⟨row,present,rfl⟩,rfl⟩

theorem distinct_items : (items.map (·.key)).Nodup := by
  have registered := (of_decide_eq_true compared.registered).2.1
  have same : items.map (·.key) = (catalog.insertionSort (fun one two => one.key ≤ two.key)).map (·.key) := by
    rw [compared.listed,List.map_map]
    rfl
  rw [same]
  have sorted := List.perm_insertionSort (fun one two : PolicyKey => one.key ≤ two.key) catalog
  exact (sorted.map (·.key)).nodup_iff.mpr registered

theorem item_values (member : item ∈ items) :
    base.values.lookup item.key = some item.baseValue ∧ current.values.lookup item.key = some item.currentValue ∧
      content.lookup item.key = some item.draftValue ∧
      item.change = classify decimalEqual item.baseValue item.currentValue item.draftValue := by
  obtain ⟨row,present,rfl⟩ := compared.mem_items.mp member
  have named : row.key ∈ catalog.map (·.key) := List.mem_map_of_mem present
  have at' {values : PolicyValues} (keys : sameKeys values (catalog.map (·.key)) = true) :
      values.lookup row.key = some (valueAt values row.key) := by
    obtain ⟨value,found⟩ := Option.isSome_iff_exists.mp ((sameKeys_iff.mp keys row.key).mpr named)
    rw [valueAt,found]
    rfl
  refine ⟨?_,?_,?_,rfl⟩
  · exact (normalize_lookup compared.baseRead row.key).symm.trans (at' compared.keys.1)
  · exact (normalize_lookup compared.currentRead row.key).symm.trans (at' compared.keys.2.1)
  · exact (normalize_lookup compared.draftRead row.key).symm.trans (at' compared.keys.2.2)

end Compared

-- A well-formed resolution of a conflict, and the value it stands for.
def Chosen (current draft : JsonValue) (resolution value : JsonValue) : Prop :=
  ∃ fields, resolution = .object fields ∧
    ((sameKeys fields ["choice"] = true ∧ fields.lookup "choice" = some (.text "CURRENT") ∧ value = current) ∨
      (sameKeys fields ["choice"] = true ∧ fields.lookup "choice" = some (.text "DRAFT") ∧ value = draft) ∨
      (sameKeys fields ["choice","value"] = true ∧ fields.lookup "choice" = some (.text "CUSTOM") ∧
        fields.lookup "value" = some value))

theorem resolve_ok :
    (∃ source custom, resolve resolution = .ok (source,custom) ∧ item.sourceValue custom source = value) ↔
      Chosen item.currentValue item.draftValue resolution value := by
  constructor
  · rintro ⟨source,custom,ran,rfl⟩
    unfold resolve at ran
    split at ran
    · rename_i fields
      split at ran
      · rename_i choice
        obtain ⟨keys,ran⟩ := require_bind_ok.mp ran
        cases pure_ok.mp ran
        exact ⟨fields,rfl,.inl ⟨keys,choice,rfl⟩⟩
      · rename_i choice
        obtain ⟨keys,ran⟩ := require_bind_ok.mp ran
        cases pure_ok.mp ran
        exact ⟨fields,rfl,.inr (.inl ⟨keys,choice,rfl⟩)⟩
      · rename_i choice
        obtain ⟨keys,ran⟩ := require_bind_ok.mp ran
        cases pure_ok.mp ran
        obtain ⟨value,found⟩ := Option.isSome_iff_exists.mp ((sameKeys_iff.mp keys "value").mpr (by decide))
        refine ⟨fields,rfl,.inr (.inr ⟨keys,choice,?_⟩)⟩
        rw [found]
        rfl
      · cases ran
      · cases ran
      · cases ran
    · cases ran
  · rintro ⟨fields,rfl,⟨keys,choice,rfl⟩ | ⟨keys,choice,rfl⟩ | ⟨keys,choice,found⟩⟩
    · refine ⟨.current,none,?_,rfl⟩
      simp only [resolve,choice]
      exact require_bind_ok.mpr ⟨keys,rfl⟩
    · refine ⟨.draft,none,?_,rfl⟩
      simp only [resolve,choice]
      exact require_bind_ok.mpr ⟨keys,rfl⟩
    · refine ⟨.custom,some value,?_,rfl⟩
      simp only [resolve,choice,found]
      exact require_bind_ok.mpr ⟨keys,rfl⟩

-- The value a key is given.
def Selected (resolutions : PolicyValues) (item : DraftBaseComparisonItem) (value : JsonValue) : Prop :=
  if item.change = .conflict then Chosen item.currentValue item.draftValue (valueAt resolutions item.key) value
  else value = item.sourceValue none (automatic item.change)

theorem select_ok {resolutions : PolicyValues} :
    (∃ source, select resolutions item = .ok (item,source,value)) ↔ Selected resolutions item value := by
  unfold select Selected
  split
  · rw [←resolve_ok]
    constructor
    · rintro ⟨source,ran⟩
      obtain ⟨⟨source',custom⟩,resolved,ran⟩ := bind_ok.mp ran
      cases pure_ok.mp ran
      exact ⟨_,_,resolved,rfl⟩
    · rintro ⟨source,custom,resolved,rfl⟩
      exact ⟨source,bind_ok.mpr ⟨_,resolved,rfl⟩⟩
  · constructor
    · rintro ⟨source,ran⟩
      cases pure_ok.mp ran
      rfl
    · rintro rfl
      exact ⟨_,rfl⟩

theorem select_item {resolutions : PolicyValues}
    (ran : select resolutions item = .ok selected) : selected.1 = item := by
  unfold select at ran
  split at ran
  · obtain ⟨_,_,ran⟩ := bind_ok.mp ran
    cases pure_ok.mp ran
    rfl
  · cases pure_ok.mp ran
    rfl

theorem selectAll_ok {resolutions : PolicyValues} {items : List DraftBaseComparisonItem}
    (ran : items.mapM (select resolutions) = .ok selected) :
    selected.map (·.1) = items ∧ ∀ choice ∈ selected, Selected resolutions choice.1 choice.2.2 := by
  induction items generalizing selected with
  | nil =>
    cases pure_ok.mp ran
    exact ⟨rfl,fun _ member => by cases member⟩
  | cons item rest ih =>
    rw [List.mapM_cons] at ran
    obtain ⟨first,head,ran⟩ := bind_ok.mp ran
    obtain ⟨others,tail,ran⟩ := bind_ok.mp ran
    cases pure_ok.mp ran
    obtain ⟨same,all⟩ := ih tail
    have here := select_item head
    obtain ⟨item',source,value⟩ := first
    cases here
    exact ⟨congrArg (item' :: ·) same,List.forall_mem_cons.mpr ⟨select_ok.mp ⟨source,head⟩,all⟩⟩

theorem Chosen.unique (one : Chosen current draft resolution value) (two : Chosen current draft resolution value') :
    value = value' := by
  obtain ⟨item,rfl,rfl⟩ : ∃ item : DraftBaseComparisonItem, item.currentValue = current ∧ item.draftValue = draft :=
    ⟨⟨"","",none,.null,current,draft,.conflict⟩,rfl,rfl⟩
  obtain ⟨source,custom,first,rfl⟩ := resolve_ok.mpr one
  obtain ⟨source',custom',second,rfl⟩ := resolve_ok.mpr two
  cases first.symm.trans second
  rfl

-- Some policy that the owner accepts has this value at this key.
def Admits (decimalEqual : String → String → Bool) (owner : PolicyOwner) (namespace_ : String) (schemaRevision : Int)
    (key : String) (value : JsonValue) : Prop :=
  ∃ values result, owner.normalizeCandidate decimalEqual namespace_ schemaRevision values = .ok result ∧
    values.lookup key = some value

-- What an accepted set of resolutions is: it covers exactly the conflicts, and each one
-- stands for a value that the owner admits at the key.
def Resolves (decimalEqual : String → String → Bool) (owner : PolicyOwner) (observation : DraftBaseComparison)
    (resolutions : JsonValue) : Prop :=
  ∃ fields, resolutions = .object fields ∧
    (∀ key, (fields.lookup key).isSome = true ↔ ∃ item ∈ observation.items, item.key = key ∧ item.change = .conflict) ∧
    ∀ item ∈ observation.items, item.change = .conflict → ∃ resolution value, fields.lookup item.key = some resolution ∧
      Chosen item.currentValue item.draftValue resolution value ∧
      Admits decimalEqual owner observation.namespace_ observation.schemaRevision item.key value

theorem mem_conflicts {items : List DraftBaseComparisonItem} :
    key ∈ conflicts items ↔ ∃ item ∈ items, item.key = key ∧ item.change = .conflict := by
  unfold conflicts
  simp only [List.mem_map,List.mem_filter,decide_eq_true_eq]
  constructor
  · rintro ⟨item,⟨member,conflict⟩,same⟩
    exact ⟨item,member,same,conflict⟩
  · rintro ⟨item,member,same,conflict⟩
    exact ⟨item,⟨member,conflict⟩,same⟩

theorem candidate_lookup {selected : List (DraftBaseComparisonItem × RebaseSource × JsonValue)}
    (distinct : (selected.map (·.1.key)).Nodup) (member : choice ∈ selected) :
    (selected.map fun choice => (choice.1.key,choice.2.2)).lookup choice.1.key = some choice.2.2 := by
  have distinct' : ((selected.map fun choice => (choice.1.key,choice.2.2)).map Prod.fst).Nodup := by
    rw [List.map_map]
    exact distinct
  exact lookup_of_mem distinct' (List.mem_map_of_mem (f := fun choice => (choice.1.key,choice.2.2)) member)

theorem rebaseCandidate_ok (distinct : (observation.items.map (·.key)).Nodup)
    (ran : rebaseCandidate decimalEqual owner observation resolutions = .ok (merged,selections)) :
    ∃ fields candidate, resolutions = .object fields ∧
      (∀ key, (fields.lookup key).isSome = true ↔ ∃ item ∈ observation.items, item.key = key ∧ item.change = .conflict) ∧
      owner.normalizeCandidate decimalEqual observation.namespace_ observation.schemaRevision candidate = .ok merged ∧
      ∀ item ∈ observation.items, ∃ value, merged.lookup item.key = some value ∧ Selected fields item value := by
  unfold rebaseCandidate at ran
  split at ran
  · rename_i fields
    obtain ⟨covers,ran⟩ := require_bind_ok.mp ran
    obtain ⟨selected,chosen,ran⟩ := bind_ok.mp ran
    obtain ⟨normalized,accepted,ran⟩ := bind_ok.mp ran
    cases pure_ok.mp ran
    obtain ⟨same,all⟩ := selectAll_ok chosen
    refine ⟨fields,_,rfl,fun key => (sameKeys_iff.mp covers key).trans mem_conflicts,accepted,fun item member => ?_⟩
    rw [←same] at member distinct
    obtain ⟨choice,present,rfl⟩ := List.mem_map.mp member
    rw [List.map_map] at distinct
    exact ⟨choice.2.2,(normalize_lookup accepted _).trans (candidate_lookup distinct present),all choice present⟩
  · cases ran

theorem valueAt_some {values : PolicyValues} (found : values.lookup key = some value) : valueAt values key = value := by
  rw [valueAt,found]
  rfl

section
variable {observation : DraftBaseComparison} {base current : PolicySnapshot} {catalog : List PolicyKey}
  {baseValues currentValues draftValues : PolicyValues}
  (compared : Compared decimalEqual owner observation.namespace_ observation.schemaRevision base current content
    observation.items catalog baseValues currentValues draftValues)
include compared

-- Whatever side a value is taken from, the owner accepted it there.
theorem Compared.selected_accepts (member : item ∈ observation.items)
    (selected : Selected fields item value)
    (admitted : item.change = .conflict →
      Admits decimalEqual owner observation.namespace_ observation.schemaRevision item.key value) :
    ∃ read, owner.Accepts read ∧ some value = read item.key := by
  obtain ⟨atBase,atCurrent,atDraft,_⟩ := compared.item_values member
  have accepts {revision : Int} {values result : PolicyValues}
      (ran : owner.normalizeCandidate decimalEqual observation.namespace_ revision values = .ok result) :
      owner.Accepts fun key => values.lookup key := (normalizes_iff.mp ⟨result,ran⟩).2.2
  by_cases conflict : item.change = .conflict
  · obtain ⟨values,result,ran,found⟩ := admitted conflict
    exact ⟨_,accepts ran,found.symm⟩
  · rw [Selected,if_neg conflict] at selected
    subst selected
    cases changed : item.change with
    | unchanged => exact ⟨_,accepts compared.baseRead,atBase.symm⟩
    | currentOnly => exact ⟨_,accepts compared.currentRead,atCurrent.symm⟩
    | draftOnly => exact ⟨_,accepts compared.draftRead,atDraft.symm⟩
    | sameChange => exact ⟨_,accepts compared.currentRead,atCurrent.symm⟩
    | conflict => exact absurd changed conflict

theorem Compared.accepted_iff :
    (∃ merged, rebaseCandidate decimalEqual owner observation resolutions = .ok merged) ↔
      Resolves decimalEqual owner observation resolutions := by
  constructor
  · rintro ⟨⟨merged,selections⟩,ran⟩
    obtain ⟨fields,candidate,rfl,covers,accepted,values⟩ := rebaseCandidate_ok compared.distinct_items ran
    refine ⟨fields,rfl,covers,fun item member conflict => ?_⟩
    obtain ⟨value,found,selected⟩ := values item member
    obtain ⟨resolution,given⟩ := Option.isSome_iff_exists.mp ((covers item.key).mpr ⟨item,member,rfl,conflict⟩)
    rw [Selected,if_pos conflict,valueAt_some given] at selected
    exact ⟨resolution,value,given,selected,candidate,merged,accepted,(normalize_lookup accepted item.key).symm.trans found⟩
  · rintro ⟨fields,rfl,covers,each⟩
    have selectable : ∀ item ∈ observation.items, ∃ choice, select fields item = .ok choice := by
      intro item member
      by_cases conflict : item.change = .conflict
      · obtain ⟨resolution,value,given,chosen,_⟩ := each item member conflict
        have selected : Selected fields item value := by
          rw [Selected,if_pos conflict,valueAt_some given]
          exact chosen
        obtain ⟨source,ran⟩ := select_ok.mpr selected
        exact ⟨_,ran⟩
      · exact ⟨_,if_neg conflict⟩
    obtain ⟨selected,chosen⟩ := mapM_total.mpr selectable
    obtain ⟨same,all⟩ := selectAll_ok chosen
    have distinct := compared.distinct_items
    rw [←same,List.map_map] at distinct
    have keys (key : String) : ((selected.map fun choice => (choice.1.key,choice.2.2)).lookup key).isSome = true ↔
        key ∈ owner.keys := by
      rw [lookup_isSome,←compared.item_keys,←same]
      constructor
      · rintro ⟨_,member,rfl⟩
        obtain ⟨choice,present,rfl⟩ := List.mem_map.mp member
        exact List.mem_map_of_mem (List.mem_map_of_mem present)
      · intro member
        obtain ⟨item,named,rfl⟩ := List.mem_map.mp member
        obtain ⟨choice,present,rfl⟩ := List.mem_map.mp named
        exact ⟨_,List.mem_map_of_mem present,rfl⟩
    have accepts : owner.Accepts fun key => (selected.map fun choice => (choice.1.key,choice.2.2)).lookup key := by
      refine Accepts.mixed fun key named => ?_
      obtain ⟨item,member,rfl⟩ := List.mem_map.mp ((compared.item_keys key).mpr named)
      rw [←same] at member
      obtain ⟨choice,present,rfl⟩ := List.mem_map.mp member
      have within : choice.1 ∈ observation.items := same ▸ member
      rw [candidate_lookup distinct present]
      refine compared.selected_accepts within (all choice present) fun conflict => ?_
      obtain ⟨resolution,value,given,stands,admitted⟩ := each choice.1 within conflict
      have selects := all choice present
      rw [Selected,if_pos conflict,valueAt_some given] at selects
      rw [selects.unique stands]
      exact admitted
    have serves := (normalizes_iff.mp ⟨draftValues,compared.draftRead⟩).1
    obtain ⟨merged,accepted⟩ := normalizes_iff.mpr ⟨serves,keys,accepts⟩
    exact ⟨_,require_bind_ok.mpr ⟨sameKeys_iff.mpr fun key => (covers key).trans mem_conflicts.symm,
      bind_ok.mpr ⟨selected,chosen,bind_ok.mpr ⟨merged,accepted,rfl⟩⟩⟩⟩

end

-- The three-way merge of one key, by what changed.
structure MergedValue (decimalEqual : String → String → Bool) (fields : PolicyValues) (key : String)
    (base current draft value : JsonValue) : Prop where
  unchanged : Same decimalEqual base current → Same decimalEqual base draft → value = base
  currentOnly : ¬Same decimalEqual base current → Same decimalEqual base draft → value = current
  draftOnly : Same decimalEqual base current → ¬Same decimalEqual base draft → value = draft
  sameChange : ¬Same decimalEqual base current → ¬Same decimalEqual base draft → Same decimalEqual current draft →
    value = current
  conflict : ¬Same decimalEqual base current → ¬Same decimalEqual base draft → ¬Same decimalEqual current draft →
    ∃ resolution, fields.lookup key = some resolution ∧ Chosen current draft resolution value

theorem classify_cases (before active saved : JsonValue) :
    (classify decimalEqual before active saved = .unchanged ↔
      Same decimalEqual before active ∧ Same decimalEqual before saved) ∧
    (classify decimalEqual before active saved = .currentOnly ↔
      ¬Same decimalEqual before active ∧ Same decimalEqual before saved) ∧
    (classify decimalEqual before active saved = .draftOnly ↔
      Same decimalEqual before active ∧ ¬Same decimalEqual before saved) ∧
    (classify decimalEqual before active saved = .sameChange ↔
      ¬Same decimalEqual before active ∧ ¬Same decimalEqual before saved ∧ Same decimalEqual active saved) ∧
    (classify decimalEqual before active saved = .conflict ↔
      ¬Same decimalEqual before active ∧ ¬Same decimalEqual before saved ∧ ¬Same decimalEqual active saved) := by
  simp only [classify,←equal_iff]
  cases equal decimalEqual before active <;> cases equal decimalEqual before saved <;>
    cases equal decimalEqual active saved <;> simp

theorem Selected.merged
    (classified : item.change = classify decimalEqual item.baseValue item.currentValue item.draftValue)
    (covers : item.change = .conflict → (fields.lookup item.key).isSome = true) (selected : Selected fields item value) :
    MergedValue decimalEqual fields item.key item.baseValue item.currentValue item.draftValue value := by
  obtain ⟨unchanged,currentOnly,draftOnly,sameChange,conflict⟩ :=
    @classify_cases decimalEqual item.baseValue item.currentValue item.draftValue
  rw [←classified] at unchanged currentOnly draftOnly sameChange conflict
  have settled {change : DraftBaseChange} (here : item.change = change) (other : change ≠ .conflict) :
      value = item.sourceValue none (automatic change) := by
    rw [Selected,if_neg (by rw [here]; exact other),here] at selected
    exact selected
  refine ⟨fun one two => settled (unchanged.mpr ⟨one,two⟩) (by decide),
    fun one two => settled (currentOnly.mpr ⟨one,two⟩) (by decide),
    fun one two => settled (draftOnly.mpr ⟨one,two⟩) (by decide),
    fun one two three => settled (sameChange.mpr ⟨one,two,three⟩) (by decide),fun one two three => ?_⟩
  have here := conflict.mpr ⟨one,two,three⟩
  obtain ⟨resolution,given⟩ := Option.isSome_iff_exists.mp (covers here)
  rw [Selected,if_pos here,valueAt_some given] at selected
  exact ⟨resolution,given,selected⟩

theorem mem_of_lookup (found : fields.lookup key = some value) : (key,value) ∈ fields := by
  induction fields with
  | nil => cases found
  | cons first rest ih =>
    obtain ⟨name,held⟩ := first
    by_cases here : key = name
    · subst here
      rw [List.lookup_cons_self] at found
      cases found
      exact List.mem_cons_self
    · rw [List.lookup_cons,beq_false_of_ne here] at found
      exact List.mem_cons_of_mem _ (ih found)

-- A snapshot that its owner accepts equals itself, at each key and as a whole.
theorem snapshot_same
    (ran : owner.normalizeCandidate decimalEqual namespace_ schemaRevision snapshot.values = .ok values)
    (found : values.lookup key = some value) : Same decimalEqual value value := by
  obtain ⟨_,keys,accepts⟩ := normalizes_iff.mp ⟨values,ran⟩
  rw [normalize_lookup ran] at found
  have distinct := (distinct_object snapshot.distinct).2 (key,value) (mem_of_lookup found)
  exact Accepts.same accepts ((keys key).mp (Option.isSome_iff_exists.mpr ⟨value,found⟩)) found distinct

theorem snapshot_object_same
    (ran : owner.normalizeCandidate decimalEqual namespace_ schemaRevision snapshot.values = .ok values) :
    Same decimalEqual (.object values) (.object values) := by
  have distinct := normalize_distinct ran (distinct_object snapshot.distinct).1
  exact .object_refl distinct fun field member => snapshot_same ran (lookup_of_mem distinct member)

theorem normalize_again (ran : owner.normalizeCandidate decimalEqual namespace_ schemaRevision values = .ok result) :
    ∃ again, owner.normalizeCandidate decimalEqual namespace_ schemaRevision result = .ok again := by
  have same : (fun key => result.lookup key) = fun key => values.lookup key := funext (normalize_lookup ran)
  obtain ⟨serves,keys,accepts⟩ := normalizes_iff.mp ⟨result,ran⟩
  exact normalizes_iff.mpr ⟨serves,fun key => by rw [normalize_lookup ran]; exact keys key,same ▸ accepts⟩

-- With the current snapshot as base nothing has changed but the draft.
theorem Compared.again {base current : PolicySnapshot}
    {baseValues currentValues draftValues : PolicyValues}
    (compared : Compared decimalEqual owner namespace_ schemaRevision base current content items catalog baseValues
      currentValues draftValues)
    (ran : owner.normalizeCandidate decimalEqual namespace_ schemaRevision candidate = .ok merged) :
    ∃ items', comparePolicyValues decimalEqual owner namespace_ schemaRevision current current merged = .ok items' ∧
      ∀ item ∈ items', item.change = .unchanged ∨ item.change = .draftOnly := by
  obtain ⟨again,ranAgain⟩ := normalize_again ran
  have keys : sameKeys again (catalog.map (·.key)) = true := by
    refine sameKeys_iff.mpr fun key => ?_
    rw [normalize_lookup ranAgain,compared.catalog_keys]
    exact (normalizes_iff.mp ⟨again,ranAgain⟩).2.1 key
  have steady := @equal_iff decimalEqual (.object currentValues) (.object currentValues)
  have compared' : Compared decimalEqual owner namespace_ schemaRevision current current merged _ catalog currentValues
      currentValues again :=
    ⟨compared.served,compared.registered,compared.currentRead,compared.currentRead,ranAgain,
      ⟨compared.keys.2.1,compared.keys.2.1,keys⟩,fun _ => ⟨rfl,steady.mpr (snapshot_object_same compared.currentRead)⟩,rfl⟩
  refine ⟨_,comparePolicyValues_ok.mpr ⟨_,_,_,_,compared'⟩,fun item member => ?_⟩
  obtain ⟨atCurrent,_,_,classified⟩ := compared'.item_values member
  rw [←normalize_lookup compared.currentRead] at atCurrent
  obtain ⟨row,_,rfl⟩ := compared'.mem_items.mp member
  have same := snapshot_same compared.currentRead atCurrent
  obtain ⟨_,currentOnly,_,sameChange,conflict⟩ := @classify_cases decimalEqual (valueAt currentValues row.key)
    (valueAt currentValues row.key) (valueAt again row.key)
  cases changed : (compareItem decimalEqual currentValues currentValues again row).change with
  | unchanged => exact .inl rfl
  | draftOnly => exact .inr rfl
  | currentOnly => exact absurd same (currentOnly.mp changed).1
  | sameChange => exact absurd same (sameChange.mp changed).1
  | conflict => exact absurd same (conflict.mp changed).1

-- What the observation lists: every key, with the three values and how they differ.
def Observed (decimalEqual : String → String → Bool) (owner : PolicyOwner) (base current : PolicySnapshot)
    (content : PolicyValues) (observation : DraftBaseComparison) : Prop :=
  (∀ key, key ∈ observation.items.map (·.key) ↔ key ∈ owner.keys) ∧
    ∀ item ∈ observation.items, base.values.lookup item.key = some item.baseValue ∧
      current.values.lookup item.key = some item.currentValue ∧ content.lookup item.key = some item.draftValue ∧
      (item.change = .conflict ↔ ¬Same decimalEqual item.baseValue item.currentValue ∧
        ¬Same decimalEqual item.baseValue item.draftValue ∧ ¬Same decimalEqual item.currentValue item.draftValue)

def Merged (decimalEqual : String → String → Bool) (owner : PolicyOwner) (base current : PolicySnapshot)
    (content : PolicyValues) (resolutions : JsonValue) (merged : PolicyValues) : Prop :=
  ∃ fields, resolutions = .object fields ∧ (∀ key, (merged.lookup key).isSome = true ↔ key ∈ owner.keys) ∧
    ∀ key ∈ owner.keys, ∃ before active saved value, base.values.lookup key = some before ∧
      current.values.lookup key = some active ∧ content.lookup key = some saved ∧ merged.lookup key = some value ∧
      MergedValue decimalEqual fields key before active saved value

theorem Compared.observed {base current : PolicySnapshot}
    {baseValues currentValues draftValues : PolicyValues}
    (compared : Compared decimalEqual owner namespace_ schemaRevision base current content observation.items catalog
      baseValues currentValues draftValues) : Observed decimalEqual owner base current content observation := by
  refine ⟨compared.item_keys,fun item member => ?_⟩
  obtain ⟨atBase,atCurrent,atDraft,classified⟩ := compared.item_values member
  obtain ⟨_,_,_,_,conflict⟩ := @classify_cases decimalEqual item.baseValue item.currentValue item.draftValue
  rw [←classified] at conflict
  exact ⟨atBase,atCurrent,atDraft,conflict⟩

theorem Compared.merges {base current : PolicySnapshot}
    {baseValues currentValues draftValues : PolicyValues}
    (compared : Compared decimalEqual owner observation.namespace_ observation.schemaRevision base current content
      observation.items catalog baseValues currentValues draftValues)
    (ran : rebaseCandidate decimalEqual owner observation resolutions = .ok (merged,selections)) :
    Merged decimalEqual owner base current content resolutions merged := by
  obtain ⟨fields,candidate,rfl,covers,accepted,values⟩ := rebaseCandidate_ok compared.distinct_items ran
  refine ⟨fields,rfl,fun key => ?_,fun key named => ?_⟩
  · rw [normalize_lookup accepted]
    exact (normalizes_iff.mp ⟨merged,accepted⟩).2.1 key
  · obtain ⟨item,member,rfl⟩ := List.mem_map.mp ((compared.item_keys key).mpr named)
    obtain ⟨atBase,atCurrent,atDraft,classified⟩ := compared.item_values member
    obtain ⟨value,found,selected⟩ := values item member
    exact ⟨_,_,_,value,atBase,atCurrent,atDraft,found,
      selected.merged classified fun conflict => (covers item.key).mpr ⟨item,member,rfl,conflict⟩⟩

theorem applyDraftRebase_ok
    (ran : applyDraftRebase decimalEqual digest owner namespace_ draftId actorId expectedRevision request authorization now
      ⟨current,some draft,some base⟩ = .ok (updated,selections)) :
    ∃ observation, compareDraftBase decimalEqual digest owner namespace_ draftId expectedRevision (some draft) (some base)
        (some current) = .ok observation ∧
      rebaseCandidate decimalEqual owner observation (valueAt request "resolutions") = .ok (updated.content,selections) ∧
      updated = draft.rebase digest current.version updated.content now := by
  obtain ⟨_,_,ran⟩ := orRaise_bind_ok.mp ran
  obtain ⟨_,found,ran⟩ := orRaise_bind_ok.mp ran
  cases found
  obtain ⟨_,ran⟩ := require_bind_ok.mp ran
  obtain ⟨_,ran⟩ := require_bind_ok.mp ran
  obtain ⟨_,ran⟩ := require_bind_ok.mp ran
  obtain ⟨_,ran⟩ := require_bind_ok.mp ran
  obtain ⟨observation,compared,ran⟩ := bind_ok.mp ran
  obtain ⟨_,ran⟩ := require_bind_ok.mp ran
  obtain ⟨_,ran⟩ := require_bind_ok.mp ran
  obtain ⟨⟨normalized,chosen⟩,rebased,ran⟩ := bind_ok.mp ran
  obtain ⟨_,_,ran⟩ := bind_ok.mp ran
  obtain ⟨_,_,ran⟩ := bind_ok.mp ran
  obtain ⟨_,ran⟩ := require_bind_ok.mp ran
  cases pure_ok.mp ran
  exact ⟨observation,compared,rebased,rfl⟩

-- The draft that a rebase leaves compares with the current snapshot as its base.
theorem compare_again {base current : PolicySnapshot} {draft : Draft}
    (compared : compareDraftBase decimalEqual digest owner namespace_ draftId expectedRevision (some draft) (some base)
      (some current) = .ok observation)
    (ran : owner.normalizeCandidate decimalEqual namespace_ draft.schemaRevision candidate = .ok merged) (now : Instant) :
    ∃ again, compareDraftBase decimalEqual digest owner namespace_ draftId (expectedRevision + 1)
        (some (draft.rebase digest current.version merged now)) (some current) (some current) = .ok again ∧
      ∀ item ∈ again.items, item.change = .unchanged ∨ item.change = .draftOnly := by
  obtain ⟨⟨rfl,rfl,rfl⟩,⟨scope,owned,revision,_,schema,_⟩,_,checked,_,_,items⟩ := compareDraftBase_ok compared
  obtain ⟨catalog,baseValues,currentValues,draftValues,parts⟩ := comparePolicyValues_ok.mp items
  obtain ⟨items',again,quiet⟩ := parts.again ran
  have version : 1 ≤ current.version := by
    obtain ⟨facts,_⟩ := require_bind_ok.mp checked
    exact facts.2.2.1
  refine ⟨⟨draft.id,draft.namespace_,draft.ownerId,draft.revision + 1,draft.status,draft.schemaRevision,current.version,
    current.version,current.snapshotHash,current.snapshotHash,digest merged,items'⟩,?_,quiet⟩
  exact require_bind_ok.mpr ⟨⟨rfl,rfl⟩,require_bind_ok.mpr ⟨rfl,require_bind_ok.mpr ⟨⟨scope,owned,
    le_trans revision (by change draft.revision ≤ draft.revision + 1; omega),version,schema,rfl⟩,
    bind_ok.mpr ⟨current,checked,bind_ok.mpr ⟨current,checked,require_bind_ok.mpr ⟨⟨rfl,le_refl _⟩,
      bind_ok.mpr ⟨items',again,rfl⟩⟩⟩⟩⟩⟩⟩

theorem draft_rebase_merges {base current : PolicySnapshot} {draft : Draft}
    (compared : compareDraftBase decimalEqual digest owner namespace_ draftId expectedRevision (some draft) (some base)
      (some current) = .ok observation) (resolutions : JsonValue) :
    Observed decimalEqual owner base current draft.content observation ∧
      ((∃ merged, rebaseCandidate decimalEqual owner observation resolutions = .ok merged) ↔
        Resolves decimalEqual owner observation resolutions) ∧
      (∀ merged selections, rebaseCandidate decimalEqual owner observation resolutions = .ok (merged,selections) →
        Merged decimalEqual owner base current draft.content resolutions merged ∧
        ∀ now, ∃ again, compareDraftBase decimalEqual digest owner namespace_ draftId (expectedRevision + 1)
            (some (draft.rebase digest current.version merged now)) (some current) (some current) = .ok again ∧
          ∀ item ∈ again.items, item.change = .unchanged ∨ item.change = .draftOnly) ∧
      ∀ actorId request authorization now updated selections, valueAt request "resolutions" = resolutions →
        applyDraftRebase decimalEqual digest owner namespace_ draftId actorId expectedRevision request authorization now
          ⟨current,some draft,some base⟩ = .ok (updated,selections) →
        rebaseCandidate decimalEqual owner observation resolutions = .ok (updated.content,selections) ∧
          updated = draft.rebase digest current.version updated.content now := by
  obtain ⟨_,_,_,_,sameNamespace,sameSchema,items⟩ := compareDraftBase_ok compared
  have items' := items
  rw [←sameNamespace,←sameSchema] at items'
  obtain ⟨catalog,baseValues,currentValues,draftValues,parts⟩ := comparePolicyValues_ok.mp items'
  refine ⟨parts.observed,parts.accepted_iff,fun merged selections ran => ⟨parts.merges ran,fun now => ?_⟩,?_⟩
  · obtain ⟨fields,candidate,_,_,accepted,_⟩ := rebaseCandidate_ok parts.distinct_items ran
    rw [sameNamespace,sameSchema] at accepted
    exact compare_again compared accepted now
  · rintro actorId request authorization now updated selections rfl ran
    obtain ⟨observation',compared',rebased,same⟩ := applyDraftRebase_ok ran
    cases compared.symm.trans compared'
    exact ⟨rebased,same⟩

def sampleEqual (left right : String) : Bool := left = right
def sampleDigest (values : PolicyValues) : String := String.join (values.map Prod.fst)

def sampleValues (days : Int) : PolicyValues :=
  [(acceptanceKey,.list []),(formalKey,.list [.text "code.change"]),(archiveKey,.integer days)]

def sampleSnapshot (version days : Int) : PolicySnapshot where
  namespace_ := gateNamespace
  scope := "PLATFORM"
  version := version
  schemaRevision := 1
  snapshotHash := sampleDigest (sampleValues days)
  values := sampleValues days
  distinct := by rfl

def sampleDraft : Draft where
  id := "draft"
  namespace_ := gateNamespace
  scope := "PLATFORM"
  content := sampleValues 90
  baseVersion := 1
  ownerId := "owner"
  revision := 4
  status := .draft
  lastMeaningfulActivityAt := 0
  archivedAt := none
  schemaRevision := 1
  contentHash := sampleDigest (sampleValues 90)

def sampleObserve : Except ConfigurationError DraftBaseComparison :=
  compareDraftBase sampleEqual sampleDigest .gate gateNamespace "draft" 4 (some sampleDraft) (some (sampleSnapshot 1 30))
    (some (sampleSnapshot 2 60))

def sampleObservation : DraftBaseComparison :=
  ⟨"draft",gateNamespace,"owner",4,.draft,1,1,2,sampleDigest (sampleValues 30),sampleDigest (sampleValues 60),
    sampleDigest (sampleValues 90),
    [⟨acceptanceKey,"STRING_SET",none,.list [],.list [],.list [],.unchanged⟩,
      ⟨archiveKey,"INTEGER",some "DAYS",.integer 30,.integer 60,.integer 90,.conflict⟩,
      ⟨formalKey,"STRING_SET",none,.list [.text "code.change"],.list [.text "code.change"],.list [.text "code.change"],
        .unchanged⟩]⟩

def sampleResolutions (days : Int) : JsonValue :=
  .object [(archiveKey,.object [("choice",.text "CUSTOM"),("value",.integer days)])]

theorem sample_observes : sampleObserve = .ok sampleObservation := by rfl

theorem draft_rebase_merges_sample : ∃ selections,
    rebaseCandidate sampleEqual .gate sampleObservation (sampleResolutions 45) = .ok (sampleValues 45,selections) ∧
      Merged sampleEqual .gate (sampleSnapshot 1 30) (sampleSnapshot 2 60) sampleDraft.content (sampleResolutions 45)
        (sampleValues 45) := by
  have observed : compareDraftBase sampleEqual sampleDigest .gate gateNamespace "draft" 4 (some sampleDraft)
      (some (sampleSnapshot 1 30)) (some (sampleSnapshot 2 60)) = .ok sampleObservation := sample_observes
  have merges := (draft_rebase_merges observed (sampleResolutions 45)).2.2.1
  have ran : ∃ selections, rebaseCandidate sampleEqual .gate sampleObservation (sampleResolutions 45) =
      .ok (sampleValues 45,selections) := ⟨_,rfl⟩
  obtain ⟨selections,ran⟩ := ran
  exact ⟨selections,ran,(merges _ _ ran).1⟩

-- The resolution covers the one conflict, with a value that the owner refuses.
theorem draft_rebase_refuses :
    ¬∀ (observation : DraftBaseComparison) (resolutions : JsonValue), sampleObserve = .ok observation →
      ((∃ merged, rebaseCandidate sampleEqual .gate observation resolutions = .ok merged) ↔
        ∃ fields, resolutions = .object fields ∧ ∀ key, (fields.lookup key).isSome = true ↔
          ∃ item ∈ observation.items, item.key = key ∧ item.change = .conflict) := by
  intro claim
  have covers : ∃ fields, sampleResolutions 0 = .object fields ∧ ∀ key, (fields.lookup key).isSome = true ↔
      ∃ item ∈ sampleObservation.items, item.key = key ∧ item.change = .conflict := by
    refine ⟨_,rfl,fun key => ?_⟩
    rw [lookup_isSome]
    simp [sampleObservation]
  obtain ⟨merged,ran⟩ := (claim sampleObservation (sampleResolutions 0) sample_observes).mpr covers
  have refused : rebaseCandidate sampleEqual .gate sampleObservation (sampleResolutions 0) =
      .error (.invalidPolicyValue "Invalid Gate policy candidate") := by rfl
  cases refused.symm.trans ran

end EngineeringPlatform.Configuration
