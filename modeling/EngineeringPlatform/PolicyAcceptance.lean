import EngineeringPlatform.PolicyOwners
namespace EngineeringPlatform.Configuration
open Checked Identity PythonTime
variable {decimalEqual : String → String → Bool}

-- What an owner reads of a policy: the value at each key.
abbrev Reading := String → Option JsonValue

-- The backoff object is accepted or refused as a whole.
def BackoffAccepted (fields : PolicyValues) : Prop :=
  sameKeys fields backoffKeys = true ∧ (∀ field ∈ fields, positive field.2 = true) ∧
    ∃ threshold initial maximum reset, integerAt fields "failureThreshold" = some threshold ∧
      integerAt fields "initialDelaySeconds" = some initial ∧ integerAt fields "maximumDelaySeconds" = some maximum ∧
      integerAt fields "resetAfterHours" = some reset ∧ 1 ≤ threshold ∧ 1 ≤ initial ∧ initial ≤ maximum ∧ 1 ≤ reset ∧
      (timedelta (initial * second)).isSome ∧ (timedelta (maximum * second)).isSome ∧ (timedelta (reset * hour)).isSome

structure IdentityAccepts (read : Reading) : Prop where
  tempCredentialTtl : ∃ hours, read "identity.temp_credential_ttl" = some (.integer hours) ∧ 1 ≤ hours ∧
    (timedelta (hours * hour)).isSome
  passwordMaxAge : read "identity.password_max_age" = some (.text "NEVER") ∨
    ∃ days, read "identity.password_max_age" = some (.integer days) ∧ 1 ≤ days ∧ (timedelta (days * day)).isSome
  sessionCap : ∃ count, read "identity.session_cap" = some (.integer count) ∧ 1 ≤ count ∧ count ≤ 10
  sessionIdleTimeout : ∃ minutes, read "identity.session_idle_timeout" = some (.integer minutes) ∧
    15 ≤ minutes ∧ minutes ≤ 240
  loginBackoff : ∃ fields, read "identity.login_backoff" = some (.object fields) ∧ BackoffAccepted fields
  totpAttemptCap : ∃ count, read "identity.totp_attempt_cap" = some (.integer count) ∧ 1 ≤ count
  draftArchiveAfter : ∃ days, read "identity.draft_archive_after" = some (.integer days) ∧ 1 ≤ days ∧
    (timedelta (days * day)).isSome

structure GateAccepts (read : Reading) : Prop where
  acceptance : ((read acceptanceKey).bind capabilitySet).isSome
  formal : ((read formalKey).bind capabilitySet).isSome
  archive : ((read archiveKey).bind archiveDays).isSome

namespace PolicyOwner
variable (owner : PolicyOwner)

def keys : PolicyOwner → List String
  | .identity _ => identityKeys.map (·.key)
  | .gate => gateKeys.map (·.key)

def Accepts (read : Reading) : Prop :=
  match owner with
  | .identity _ => IdentityAccepts read
  | .gate => GateAccepts read

-- The catalog is served, and for a schema that the owner supports.
def Serves (decimalEqual : String → String → Bool) (namespace_ : String) (schemaRevision : Int) : Prop :=
  match owner with
  | .identity rows => namespace_ = "identity" ∧ schemaRevision = policySchemaRevision ∧
    catalogMatches decimalEqual (rows.filter (·.namespace_ = namespace_)) = true
  | .gate => namespace_ = gateNamespace ∧ schemaRevision = gateSchemaRevision

end PolicyOwner

variable {owner : PolicyOwner} {values : PolicyValues}

-- Each key is judged by itself: values that some accepted policy has may be mixed.
theorem Accepts.mixed {read : Reading}
    (each : ∀ key ∈ owner.keys, ∃ other, owner.Accepts other ∧ read key = other key) : owner.Accepts read := by
  cases owner with
  | identity rows =>
    have at' (key : String) (member : key ∈ identityKeys.map PolicyKey.key) := each key member
    constructor
    · obtain ⟨other,accepted,same⟩ := at' "identity.temp_credential_ttl" (by decide)
      rw [same]
      exact accepted.tempCredentialTtl
    · obtain ⟨other,accepted,same⟩ := at' "identity.password_max_age" (by decide)
      rw [same]
      exact accepted.passwordMaxAge
    · obtain ⟨other,accepted,same⟩ := at' "identity.session_cap" (by decide)
      rw [same]
      exact accepted.sessionCap
    · obtain ⟨other,accepted,same⟩ := at' "identity.session_idle_timeout" (by decide)
      rw [same]
      exact accepted.sessionIdleTimeout
    · obtain ⟨other,accepted,same⟩ := at' "identity.login_backoff" (by decide)
      rw [same]
      exact accepted.loginBackoff
    · obtain ⟨other,accepted,same⟩ := at' "identity.totp_attempt_cap" (by decide)
      rw [same]
      exact accepted.totpAttemptCap
    · obtain ⟨other,accepted,same⟩ := at' "identity.draft_archive_after" (by decide)
      rw [same]
      exact accepted.draftArchiveAfter
  | gate =>
    have at' (key : String) (member : key ∈ gateKeys.map PolicyKey.key) := each key member
    constructor
    · obtain ⟨other,accepted,same⟩ := at' acceptanceKey (by decide)
      rw [same]
      exact accepted.acceptance
    · obtain ⟨other,accepted,same⟩ := at' formalKey (by decide)
      rw [same]
      exact accepted.formal
    · obtain ⟨other,accepted,same⟩ := at' archiveKey (by decide)
      rw [same]
      exact accepted.archive

theorem insertionSort_nil {α : Type} {r : α → α → Prop} [DecidableRel r] {rows : List α} :
    rows.insertionSort r = [] ↔ rows = [] := by
  rw [←List.length_eq_zero_iff,List.length_insertionSort,List.length_eq_zero_iff]

theorem sameKeys_iff {fields : PolicyValues} {keys : List String} :
    sameKeys fields keys = true ↔ ∀ key, (fields.lookup key).isSome = true ↔ key ∈ keys := by
  unfold sameKeys
  simp only [decide_eq_true_eq,List.all_eq_true,List.contains_iff_mem]
  constructor
  · rintro ⟨known,present⟩ key
    refine ⟨fun stored => ?_,present key⟩
    obtain ⟨field,member,rfl⟩ := lookup_isSome.mp stored
    exact known field member
  · intro exact
    exact ⟨fun field member => (exact field.1).mp (lookup_isSome.mpr ⟨field,member,rfl⟩),fun key => (exact key).mpr⟩

theorem keyIssues_nil :
    keyIssues values = [] ↔ ∀ key, (values.lookup key).isSome = true ↔ key ∈ identityKeys.map (·.key) := by
  have same : policyDefinitions.map (·.key) = identityKeys.map (·.key) := by decide
  unfold keyIssues
  rw [same]
  simp only [List.append_eq_nil_iff,List.map_eq_nil_iff,insertionSort_nil,List.filter_eq_nil_iff]
  constructor
  · rintro ⟨missing,unknown⟩ key
    constructor
    · intro stored
      obtain ⟨field,member,rfl⟩ := lookup_isSome.mp stored
      have known := unknown field.1 (List.mem_map_of_mem member)
      simpa using known
    · intro member
      have present := missing key member
      simpa using present
  · intro exact
    refine ⟨fun key member => ?_,fun key member => ?_⟩
    · have present := (exact key).mpr member
      simpa using present
    · obtain ⟨field,stored,rfl⟩ := List.mem_map.mp member
      have known := (exact field.1).mp (lookup_isSome.mpr ⟨field,stored,rfl⟩)
      simpa using known

theorem duration_of {path : String} (made : (timedelta value).isSome = true) : duration path value = .ok value := by
  obtain ⟨result,made⟩ := Option.isSome_iff_exists.mp made
  cases (timedelta_some.mp made).1
  exact orRaise_ok.mpr made

theorem duration_made {path : String} (ran : duration path value = .ok result) : (timedelta value).isSome = true :=
  Option.isSome_iff_exists.mpr ⟨result,orRaise_ok.mp ran⟩

theorem integerAt_some : integerAt values key = some number ↔
    values.lookup key = some (.integer number) := by
  unfold integerAt
  split
  · rename_i found
    rw [found,Option.some.injEq,Option.some.injEq,JsonValue.integer.injEq]
  · rename_i other
    exact ⟨(fun absurd => by cases absurd),fun found => absurd found (other number)⟩

theorem integerIssue_none {key : String} : integerIssue key value (some minimum) maximum = none ↔
    ∃ number, value = .integer number ∧ minimum ≤ number ∧ ∀ bound, maximum = some bound → number ≤ bound := by
  cases value with
  | integer number =>
    cases maximum with
    | none => simp [integerIssue]
    | some maximum =>
      simp only [integerIssue,Option.any_some,decide_eq_true_eq]
      split
      · rename_i below
        refine ⟨(fun absurd => by cases absurd),?_⟩
        rintro ⟨_,⟨⟩,bounded,_⟩
        omega
      · rename_i inside
        split
        · rename_i above
          refine ⟨(fun absurd => by cases absurd),?_⟩
          rintro ⟨_,⟨⟩,_,bounded⟩
          have := bounded maximum rfl
          omega
        · rename_i below
          refine ⟨fun _ => ⟨number,rfl,by omega,?_⟩,fun _ => rfl⟩
          rintro _ ⟨⟩
          omega
  | _ => simp [integerIssue]

theorem backoffIssue_none : backoffIssue values = none ↔
    ∃ fields, values.lookup "identity.login_backoff" = some (.object fields) ∧ sameKeys fields backoffKeys = true ∧
      (∀ field ∈ fields, positive field.2 = true) ∧
      ∀ maximum initial, integerAt fields "maximumDelaySeconds" = some maximum →
        integerAt fields "initialDelaySeconds" = some initial → initial ≤ maximum := by
  unfold backoffIssue
  split
  · rename_i fields found
    have only (fields' : PolicyValues) (found' : values.lookup "identity.login_backoff" = some (.object fields')) :
        fields' = fields := by
      cases found.symm.trans found'
      rfl
    split
    · rename_i differ
      refine ⟨(fun absurd => by cases absurd),?_⟩
      rintro ⟨fields',found',same,_⟩
      cases only fields' found'
      exact absurd same differ
    · rename_i same
      split
      · rename_i negative
        refine ⟨(fun absurd => by cases absurd),?_⟩
        rintro ⟨fields',found',_,all,_⟩
        cases only fields' found'
        obtain ⟨field,member,below⟩ := List.any_eq_true.mp negative
        exact absurd (all field member) (of_decide_eq_true below)
      · rename_i all
        have positives (field : String × JsonValue) (member : field ∈ fields) : positive field.2 = true := by
          by_contra below
          exact all (List.any_eq_true.mpr ⟨field,member,decide_eq_true below⟩)
        constructor
        · intro agrees
          refine ⟨fields,found,not_not.mp same,positives,fun maximum initial atMaximum atInitial => ?_⟩
          simp only [atMaximum,atInitial] at agrees
          split at agrees
          · cases agrees
          · omega
        · rintro ⟨fields',found',_,_,ordered⟩
          cases only fields' found'
          split
          · rename_i maximum initial atMaximum atInitial
            have := ordered maximum initial atMaximum atInitial
            exact if_neg (by omega)
          · rfl
  · rename_i other
    refine ⟨(fun absurd => by cases absurd),?_⟩
    rintro ⟨fields,found,_⟩
    exact absurd found (other fields)

theorem structure_nil : validateIdentityPolicyCandidateStructure schemaRevision values = [] ↔
    schemaRevision = policySchemaRevision ∧ keyIssues values = [] ∧
      (∀ definition ∈ policyDefinitions, definitionIssue values definition = none) ∧ backoffIssue values = none := by
  unfold validateIdentityPolicyCandidateStructure
  split
  · rename_i other
    exact ⟨(fun absurd => by cases absurd),fun same => absurd same.1 other⟩
  · rename_i same
    split
    · rename_i issues
      exact ⟨fun none => absurd none issues,fun all => absurd all.2.1 issues⟩
    · rename_i none
      rw [insertionSort_nil,List.append_eq_nil_iff,List.filterMap_eq_nil_iff,Option.toList_eq_nil_iff]
      exact ⟨fun both => ⟨not_not.mp same,not_not.mp none,both⟩,fun all => all.2.2⟩

theorem policyNumbers_some : policyNumbers values = some numbers ↔
    ∃ fields, backoffFieldsOf values = some fields ∧
      integerAt values "identity.temp_credential_ttl" = some numbers.tempCredentialHours ∧
      passwordMaxAgeOf values = some numbers.passwordMaxAgeDays ∧
      integerAt values "identity.session_cap" = some numbers.sessionCap ∧
      integerAt values "identity.session_idle_timeout" = some numbers.sessionIdleMinutes ∧
      integerAt fields "failureThreshold" = some numbers.failureThreshold ∧
      integerAt fields "initialDelaySeconds" = some numbers.initialDelaySeconds ∧
      integerAt fields "maximumDelaySeconds" = some numbers.maximumDelaySeconds ∧
      integerAt fields "resetAfterHours" = some numbers.resetAfterHours ∧
      integerAt values "identity.totp_attempt_cap" = some numbers.totpAttemptCap ∧
      integerAt values "identity.draft_archive_after" = some numbers.draftArchiveDays := by
  simp only [policyNumbers,bind,pure,Option.bind_eq_some_iff,Option.some.injEq]
  constructor
  · rintro ⟨fields,found,_,ttl,_,age,_,cap,_,idle,_,threshold,_,initial,_,maximum,_,reset,_,totp,_,archive,rfl⟩
    exact ⟨fields,found,ttl,age,cap,idle,threshold,initial,maximum,reset,totp,archive⟩
  · rintro ⟨fields,found,ttl,age,cap,idle,threshold,initial,maximum,reset,totp,archive⟩
    exact ⟨fields,found,_,ttl,_,age,_,cap,_,idle,_,threshold,_,initial,_,maximum,_,reset,_,totp,_,archive,rfl⟩

theorem backoffFieldsOf_some : backoffFieldsOf values = some fields ↔
    values.lookup "identity.login_backoff" = some (.object fields) := by
  unfold backoffFieldsOf
  split
  · rename_i found
    rw [found,Option.some.injEq,Option.some.injEq,JsonValue.object.injEq]
  · rename_i other
    exact ⟨(fun absurd => by cases absurd),fun found => absurd found (other fields)⟩

theorem passwordMaxAgeOf_some : passwordMaxAgeOf values = some age ↔
    (values.lookup "identity.password_max_age" = some (.text "NEVER") ∧ age = none) ∨
      ∃ days, values.lookup "identity.password_max_age" = some (.integer days) ∧ age = some days := by
  unfold passwordMaxAgeOf
  split
  · rename_i found
    rw [found]
    simp [eq_comm]
  · rename_i days found
    rw [found]
    simp [eq_comm]
  · rename_i never integer
    refine ⟨(fun absurd => by cases absurd),?_⟩
    rintro (⟨found,_⟩ | ⟨days,found,_⟩)
    · exact absurd found never
    · exact absurd found (integer days)

-- The durations of the materialized policy, and the limits of its type.
structure Representables (numbers : PolicyNumbers) : Prop where
  ttl : (timedelta (numbers.tempCredentialHours * hour)).isSome
  age : ∀ days, numbers.passwordMaxAgeDays = some days → (timedelta (days * day)).isSome
  idle : (timedelta (numbers.sessionIdleMinutes * minute)).isSome
  initial : (timedelta (numbers.initialDelaySeconds * second)).isSome
  maximum : (timedelta (numbers.maximumDelaySeconds * second)).isSome
  reset : (timedelta (numbers.resetAfterHours * hour)).isSome
  archive : (timedelta (numbers.draftArchiveDays * day)).isSome

def PolicyNumbers.policy (numbers : PolicyNumbers) : EffectiveIdentityPolicy where
  tempCredentialTtl := numbers.tempCredentialHours * hour
  passwordMaxAge := numbers.passwordMaxAgeDays.map (· * day)
  sessionCap := numbers.sessionCap
  sessionIdleTimeout := numbers.sessionIdleMinutes * minute
  backoffThreshold := numbers.failureThreshold
  backoffInitialDelay := numbers.initialDelaySeconds * second
  backoffMaxDelay := numbers.maximumDelaySeconds * second
  backoffResetAfter := numbers.resetAfterHours * hour
  totpAttemptCap := numbers.totpAttemptCap
  draftArchiveAfter := numbers.draftArchiveDays * day

theorem identityPolicyFromCandidate_exists {numbers : PolicyNumbers} :
    (∃ policy, identityPolicyFromCandidate numbers = .ok policy) ↔
      Representables numbers ∧ (PolicyNumbers.policy numbers).wellFormed = true := by
  constructor
  · rintro ⟨policy,ran⟩
    unfold identityPolicyFromCandidate at ran
    obtain ⟨ttl,ttlMade,ran⟩ := bind_ok.mp ran
    obtain ⟨age,ageMade,ran⟩ := bind_ok.mp ran
    obtain ⟨idle,idleMade,ran⟩ := bind_ok.mp ran
    obtain ⟨initial,initialMade,ran⟩ := bind_ok.mp ran
    obtain ⟨maximum,maximumMade,ran⟩ := bind_ok.mp ran
    obtain ⟨reset,resetMade,ran⟩ := bind_ok.mp ran
    obtain ⟨archive,archiveMade,ran⟩ := bind_ok.mp ran
    obtain ⟨wellFormed,_⟩ := require_bind_ok.mp ran
    refine ⟨⟨duration_made ttlMade,fun days same => ?_,duration_made idleMade,duration_made initialMade,
      duration_made maximumMade,duration_made resetMade,duration_made archiveMade⟩,?_⟩
    · rw [same] at ageMade
      obtain ⟨length,made,_⟩ := bind_ok.mp ageMade
      exact duration_made made
    · cases duration_ok ttlMade
      cases ageOf_ok ageMade
      cases duration_ok idleMade
      cases duration_ok initialMade
      cases duration_ok maximumMade
      cases duration_ok resetMade
      cases duration_ok archiveMade
      exact wellFormed
  · rintro ⟨fits,wellFormed⟩
    have age : ageOf "identity.password_max_age" numbers.passwordMaxAgeDays =
        .ok (numbers.passwordMaxAgeDays.map (· * day)) := by
      cases days : numbers.passwordMaxAgeDays with
      | none => rfl
      | some days' => exact bind_ok.mpr ⟨_,duration_of (fits.age days' days),rfl⟩
    refine ⟨PolicyNumbers.policy numbers,?_⟩
    exact bind_ok.mpr ⟨_,duration_of fits.ttl,bind_ok.mpr ⟨_,age,bind_ok.mpr ⟨_,duration_of fits.idle,
      bind_ok.mpr ⟨_,duration_of fits.initial,bind_ok.mpr ⟨_,duration_of fits.maximum,
        bind_ok.mpr ⟨_,duration_of fits.reset,bind_ok.mpr ⟨_,duration_of fits.archive,
          require_bind_ok.mpr ⟨wellFormed,rfl⟩⟩⟩⟩⟩⟩⟩⟩

theorem identity_validates_iff : (∃ policy, validateAndMaterializeIdentityPolicy schemaRevision values = ([],some policy)) ↔
    validateIdentityPolicyCandidateStructure schemaRevision values = [] ∧
      ∃ numbers, policyNumbers values = some numbers ∧ Representables numbers ∧
        (PolicyNumbers.policy numbers).wellFormed = true := by
  unfold validateAndMaterializeIdentityPolicy
  constructor
  · rintro ⟨policy,accepted⟩
    split at accepted
    · rename_i clean
      split at accepted
      · rename_i made
        cases accepted
        obtain ⟨numbers,read,made⟩ := bind_ok.mp made
        exact ⟨clean,numbers,orRaise_ok.mp read,identityPolicyFromCandidate_exists.mp ⟨policy,made⟩⟩
      · cases accepted
    · have refused := congrArg Prod.snd accepted
      cases refused
  · rintro ⟨clean,numbers,read,made⟩
    obtain ⟨policy,made⟩ := identityPolicyFromCandidate_exists.mpr made
    refine ⟨policy,?_⟩
    have built : (orRaise (policyNumbers values) "$policy").bind identityPolicyFromCandidate = .ok policy :=
      bind_ok.mpr ⟨numbers,orRaise_ok.mpr read,made⟩
    simp only [clean,built]

theorem times_pos {number : Int} {unit : Duration} (forward : 0 < unit) : 0 < number * unit ↔ 1 ≤ number :=
  mul_pos_iff_of_pos_right forward

theorem times_le {one two : Int} {unit : Duration} (forward : 0 < unit) : one * unit ≤ two * unit ↔ one ≤ two :=
  mul_le_mul_iff_of_pos_right forward

theorem unit_pos : 0 < second ∧ 0 < minute ∧ 0 < hour ∧ 0 < day := by decide

theorem identity_accepts {numbers : PolicyNumbers} (read : policyNumbers values = some numbers)
    (fits : Representables numbers) (wellFormed : (PolicyNumbers.policy numbers).wellFormed = true)
    (backoff : backoffIssue values = none) : IdentityAccepts fun key => values.lookup key := by
  obtain ⟨fields,found,ttl,age,cap,idle,threshold,initial,maximum,reset,totp,archive⟩ := policyNumbers_some.mp read
  obtain ⟨ttlPositive,agePositive,capLow,capHigh,idleLow,idleHigh,thresholdLow,initialPositive,maximumPositive,
    resetPositive,totpLow,archivePositive,ordered⟩ := of_decide_eq_true wellFormed
  obtain ⟨seconds,minutes,hours,days⟩ := unit_pos
  refine ⟨⟨_,integerAt_some.mp ttl,(times_pos hours).mp ttlPositive,fits.ttl⟩,?_,
    ⟨_,integerAt_some.mp cap,capLow,capHigh⟩,
    ⟨_,integerAt_some.mp idle,(times_le minutes).mp idleLow,(times_le minutes).mp idleHigh⟩,?_,
    ⟨_,integerAt_some.mp totp,totpLow⟩,⟨_,integerAt_some.mp archive,(times_pos days).mp archivePositive,fits.archive⟩⟩
  · rcases passwordMaxAgeOf_some.mp age with ⟨never,_⟩ | ⟨count,limited,same⟩
    · exact .inl never
    · simp only [PolicyNumbers.policy,same,Option.map_some,Option.all_some,decide_eq_true_eq] at agePositive
      exact .inr ⟨count,limited,(times_pos days).mp agePositive,fits.age count same⟩
  · obtain ⟨fields',found',same,positives,_⟩ := backoffIssue_none.mp backoff
    cases (backoffFieldsOf_some.mp found).symm.trans found'
    exact ⟨fields,found',same,positives,_,_,_,_,threshold,initial,maximum,reset,thresholdLow,
      (times_pos seconds).mp initialPositive,(times_le seconds).mp ordered,(times_pos hours).mp resetPositive,
      fits.initial,fits.maximum,fits.reset⟩

theorem identity_structure (accepts : IdentityAccepts fun key => values.lookup key) :
    (∀ definition ∈ policyDefinitions, definitionIssue values definition = none) ∧ backoffIssue values = none := by
  obtain ⟨⟨hours,ttl,ttlLow,_⟩,age,⟨cap,capAt,capLow,capHigh⟩,⟨idle,idleAt,idleLow,idleHigh⟩,⟨fields,backoff,same,positives,
    threshold,initial,maximum,reset,atThreshold,atInitial,atMaximum,atReset,_,_,ordered,_⟩,⟨totp,totpAt,totpLow⟩,
    ⟨archive,archiveAt,archiveLow,_⟩⟩ := accepts
  have unlimited (key : String) (number minimum : Int) (low : minimum ≤ number) :
      integerIssue key (.integer number) (some minimum) none = none :=
    integerIssue_none.mpr ⟨number,rfl,low,fun _ absurd => by cases absurd⟩
  have limited (key : String) (number minimum maximum : Int) (low : minimum ≤ number) (high : number ≤ maximum) :
      integerIssue key (.integer number) (some minimum) (some maximum) = none :=
    integerIssue_none.mpr ⟨number,rfl,low,fun bound same => by cases same; exact high⟩
  refine ⟨?_,backoffIssue_none.mpr ⟨fields,backoff,same,positives,fun maximum' initial' atMaximum' atInitial' => ?_⟩⟩
  · simp only [policyDefinitions,List.forall_mem_cons,definitionIssue]
    refine ⟨?_,?_,?_,?_,?_,?_,?_,fun _ member => by cases member⟩
    · rw [ttl]
      exact unlimited _ _ _ ttlLow
    · rcases age with never | ⟨days,limited,daysLow,_⟩
      · simp only [never]
      · simp only [limited]
        exact unlimited _ _ _ daysLow
    · rw [capAt]
      exact limited _ _ _ _ capLow capHigh
    · rw [idleAt]
      exact limited _ _ _ _ idleLow idleHigh
    · trivial
    · rw [totpAt]
      exact unlimited _ _ _ totpLow
    · rw [archiveAt]
      exact unlimited _ _ _ archiveLow
  · cases atMaximum.symm.trans atMaximum'
    cases atInitial.symm.trans atInitial'
    exact ordered

theorem identity_numbers (accepts : IdentityAccepts fun key => values.lookup key) :
    ∃ numbers, policyNumbers values = some numbers ∧ Representables numbers ∧
      (PolicyNumbers.policy numbers).wellFormed = true := by
  obtain ⟨⟨hours,ttl,ttlLow,ttlFits⟩,age,⟨cap,capAt,capLow,capHigh⟩,⟨idle,idleAt,idleLow,idleHigh⟩,⟨fields,backoff,same,
    positives,threshold,initial,maximum,reset,atThreshold,atInitial,atMaximum,atReset,thresholdLow,initialLow,ordered,
    resetLow,initialFits,maximumFits,resetFits⟩,⟨totp,totpAt,totpLow⟩,⟨archive,archiveAt,archiveLow,archiveFits⟩⟩ := accepts
  have aged : ∃ days, passwordMaxAgeOf values = some days ∧
      ∀ count, days = some count → 1 ≤ count ∧ (timedelta (count * day)).isSome := by
    rcases age with never | ⟨days,limited,low,fits⟩
    · exact ⟨none,passwordMaxAgeOf_some.mpr (.inl ⟨never,rfl⟩),fun _ absurd => by cases absurd⟩
    · refine ⟨some days,passwordMaxAgeOf_some.mpr (.inr ⟨days,limited,rfl⟩),?_⟩
      rintro _ ⟨⟩
      exact ⟨low,fits⟩
  obtain ⟨days,atAge,ageFits⟩ := aged
  refine ⟨⟨hours,days,cap,idle,threshold,initial,maximum,reset,totp,archive⟩,?_,?_,?_⟩
  · exact policyNumbers_some.mpr ⟨fields,backoffFieldsOf_some.mpr backoff,integerAt_some.mpr ttl,atAge,
      integerAt_some.mpr capAt,integerAt_some.mpr idleAt,atThreshold,atInitial,atMaximum,atReset,
      integerAt_some.mpr totpAt,integerAt_some.mpr archiveAt⟩
  · refine ⟨ttlFits,fun count same => (ageFits count same).2,?_,initialFits,maximumFits,resetFits,archiveFits⟩
    have low : (-(999999999 * (24 * (60 * (60 * 1000000)))) : Int) ≤ idle * (60 * 1000000) := by omega
    have high : idle * (60 * 1000000) ≤ (1000000000 * (24 * (60 * (60 * 1000000))) - 1 : Int) := by omega
    exact Option.isSome_iff_exists.mpr ⟨_,timedelta_some.mpr ⟨rfl,low,high⟩⟩
  · obtain ⟨seconds,minutes,hours,day'⟩ := unit_pos
    have ageHolds : (days.map (· * day)).all (0 < ·) = true := by
      cases days with
      | none => rfl
      | some count => exact decide_eq_true ((times_pos day').mpr (ageFits count rfl).1)
    exact decide_eq_true ⟨(times_pos hours).mpr ttlLow,ageHolds,capLow,capHigh,(times_le minutes).mpr idleLow,
      (times_le minutes).mpr idleHigh,thresholdLow,(times_pos seconds).mpr initialLow,
      (times_pos seconds).mpr (le_trans initialLow ordered),(times_pos hours).mpr resetLow,totpLow,
      (times_pos day').mpr archiveLow,(times_le seconds).mpr ordered⟩

theorem identity_accepts_iff :
    (∃ policy, validateAndMaterializeIdentityPolicy schemaRevision values = ([],some policy)) ↔
      schemaRevision = policySchemaRevision ∧
        (∀ key, (values.lookup key).isSome = true ↔ key ∈ identityKeys.map (·.key)) ∧
        IdentityAccepts fun key => values.lookup key := by
  rw [identity_validates_iff,structure_nil,keyIssues_nil]
  constructor
  · rintro ⟨⟨revision,keys,_,backoff⟩,numbers,read,fits,wellFormed⟩
    exact ⟨revision,keys,identity_accepts read fits wellFormed backoff⟩
  · rintro ⟨revision,keys,accepts⟩
    obtain ⟨definitions,backoff⟩ := identity_structure accepts
    exact ⟨⟨revision,keys,definitions,backoff⟩,identity_numbers accepts⟩

theorem supportedText_some (read : supportedText value = some text) : value = .text text ∧ text = "code.change" := by
  unfold supportedText at read
  split at read
  · split at read
    · rename_i same
      cases read
      exact ⟨rfl,same⟩
    · cases read
  · cases read

theorem supportedTexts_some {items : List JsonValue} (read : items.mapM supportedText = some texts) :
    items = texts.map .text ∧ ∀ text ∈ texts, text = "code.change" := by
  induction items generalizing texts with
  | nil =>
    cases read
    exact ⟨rfl,fun _ member => by cases member⟩
  | cons item rest ih =>
    rw [List.mapM_cons] at read
    obtain ⟨text,head,read⟩ := Option.bind_eq_some_iff.mp read
    obtain ⟨others,tail,read⟩ := Option.bind_eq_some_iff.mp read
    cases read
    obtain ⟨rfl,same⟩ := supportedText_some head
    obtain ⟨rfl,all⟩ := ih tail
    exact ⟨rfl,List.forall_mem_cons.mpr ⟨same,all⟩⟩

-- A supported set has nothing to sort.
theorem capabilitySet_some (read : capabilitySet value = some capabilities) :
    value = .list (capabilities.1.map .text) := by
  unfold capabilitySet at read
  split at read
  · split at read
    · rename_i texts listed
      dsimp only at read
      split at read
      · cases read
        obtain ⟨rfl,same⟩ := supportedTexts_some listed
        have copies := List.eq_replicate_iff.mpr ⟨rfl,same⟩
        have sorted : texts.insertionSort (· ≤ ·) = texts := by
          have moved := List.perm_insertionSort (· ≤ ·) texts
          rw [copies] at moved ⊢
          exact List.perm_replicate.mp moved
        exact congrArg (fun texts => JsonValue.list (texts.map .text)) sorted.symm
      · cases read
    · cases read
  · cases read

theorem archiveDays_some (read : archiveDays value = some days) : value = .integer days.1 := by
  unfold archiveDays at read
  split at read
  · split at read
    · cases read
      rfl
    · cases read
  · cases read

theorem gate_parse_ok : (∃ policy, GatePolicy.parse values namespace_ "PLATFORM" schemaRevision = .ok policy) ↔
    namespace_ = gateNamespace ∧ schemaRevision = gateSchemaRevision ∧
      (∀ key, (values.lookup key).isSome = true ↔ key ∈ gateKeys.map (·.key)) ∧
      GateAccepts fun key => values.lookup key := by
  have same : gateKeys.map (·.key) = [acceptanceKey,formalKey,archiveKey] := by decide
  rw [same,←sameKeys_iff]
  constructor
  · rintro ⟨policy,ran⟩
    unfold GatePolicy.parse at ran
    obtain ⟨⟨namespace',_,revision⟩,ran⟩ := require_bind_ok.mp ran
    obtain ⟨keys,ran⟩ := require_bind_ok.mp ran
    obtain ⟨acceptance,acceptanceRead,ran⟩ := orRaise_bind_ok.mp ran
    obtain ⟨formal,formalRead,ran⟩ := orRaise_bind_ok.mp ran
    obtain ⟨days,daysRead,_⟩ := orRaise_bind_ok.mp ran
    exact ⟨namespace',revision,keys,Option.isSome_iff_exists.mpr ⟨_,acceptanceRead⟩,
      Option.isSome_iff_exists.mpr ⟨_,formalRead⟩,Option.isSome_iff_exists.mpr ⟨_,daysRead⟩⟩
  · rintro ⟨namespace',revision,keys,acceptance,formal,archive⟩
    obtain ⟨_,acceptanceRead⟩ := Option.isSome_iff_exists.mp acceptance
    obtain ⟨_,formalRead⟩ := Option.isSome_iff_exists.mp formal
    obtain ⟨_,daysRead⟩ := Option.isSome_iff_exists.mp archive
    exact ⟨_,require_bind_ok.mpr ⟨⟨namespace',rfl,revision⟩,require_bind_ok.mpr ⟨keys,orRaise_bind_ok.mpr ⟨_,acceptanceRead,
      orRaise_bind_ok.mpr ⟨_,formalRead,orRaise_bind_ok.mpr ⟨_,daysRead,rfl⟩⟩⟩⟩⟩⟩

theorem gate_parse_values (ran : GatePolicy.parse values namespace_ scope schemaRevision = .ok policy) (key : String) :
    policy.values.lookup key = values.lookup key := by
  unfold GatePolicy.parse at ran
  obtain ⟨_,ran⟩ := require_bind_ok.mp ran
  obtain ⟨keys,ran⟩ := require_bind_ok.mp ran
  obtain ⟨acceptance,acceptanceRead,ran⟩ := orRaise_bind_ok.mp ran
  obtain ⟨formal,formalRead,ran⟩ := orRaise_bind_ok.mp ran
  obtain ⟨days,daysRead,ran⟩ := orRaise_bind_ok.mp ran
  cases pure_ok.mp ran
  obtain ⟨_,atAcceptance,acceptanceRead⟩ := Option.bind_eq_some_iff.mp acceptanceRead
  obtain ⟨_,atFormal,formalRead⟩ := Option.bind_eq_some_iff.mp formalRead
  obtain ⟨_,atArchive,daysRead⟩ := Option.bind_eq_some_iff.mp daysRead
  cases capabilitySet_some acceptanceRead
  cases capabilitySet_some formalRead
  cases archiveDays_some daysRead
  by_cases first : key = acceptanceKey
  · subst first
    rw [atAcceptance]
    rfl
  · by_cases second : key = formalKey
    · subst second
      rw [atFormal]
      rfl
    · by_cases third : key = archiveKey
      · subst third
        rw [atArchive]
        rfl
      · have absent : ¬(values.lookup key).isSome = true := by
          rw [sameKeys_iff.mp keys]
          simp [first,second,third]
        rw [Option.not_isSome_iff_eq_none.mp absent]
        simp only [GatePolicy.values,List.lookup_cons,beq_false_of_ne first,beq_false_of_ne second,
          beq_false_of_ne third,List.lookup_nil]

-- An owner accepts a policy exactly when it serves the schema, the policy has the
-- registered keys and each value is accepted; what it returns reads as the policy did.
theorem normalizes_iff :
    (∃ result, owner.normalizeCandidate decimalEqual namespace_ schemaRevision values = .ok result) ↔
      owner.Serves decimalEqual namespace_ schemaRevision ∧
        (∀ key, (values.lookup key).isSome = true ↔ key ∈ owner.keys) ∧ owner.Accepts fun key => values.lookup key := by
  cases owner with
  | identity rows =>
    constructor
    · rintro ⟨result,ran⟩
      obtain ⟨⟨namespace',revision⟩,ran⟩ := require_bind_ok.mp ran
      obtain ⟨_,catalog,ran⟩ := bind_ok.mp ran
      obtain ⟨matched,_⟩ := require_bind_ok.mp catalog
      split at ran
      · rename_i policy accepted
        obtain ⟨_,keys,accepts⟩ := identity_accepts_iff.mp ⟨policy,accepted⟩
        exact ⟨⟨namespace',revision,matched⟩,keys,accepts⟩
      · cases ran
    · rintro ⟨⟨namespace',revision,matched⟩,keys,accepts⟩
      obtain ⟨policy,accepted⟩ := identity_accepts_iff.mpr ⟨revision,keys,accepts⟩
      refine ⟨values,require_bind_ok.mpr ⟨⟨namespace',revision⟩,
        bind_ok.mpr ⟨_,require_bind_ok.mpr ⟨matched,rfl⟩,?_⟩⟩⟩
      rw [accepted]
      rfl
  | gate =>
    constructor
    · rintro ⟨result,ran⟩
      obtain ⟨_,catalog,ran⟩ := bind_ok.mp ran
      obtain ⟨revision,ran⟩ := require_bind_ok.mp ran
      split at ran
      · rename_i policy parsed
        obtain ⟨namespace',_,keys,accepts⟩ := gate_parse_ok.mp ⟨policy,parsed⟩
        exact ⟨⟨namespace',revision⟩,keys,accepts⟩
      · cases ran
    · rintro ⟨⟨namespace',revision⟩,keys,accepts⟩
      obtain ⟨policy,parsed⟩ := gate_parse_ok.mpr ⟨namespace',revision,keys,accepts⟩
      refine ⟨policy.values,bind_ok.mpr ⟨_,require_bind_ok.mpr ⟨namespace',rfl⟩,require_bind_ok.mpr ⟨revision,?_⟩⟩⟩
      rw [parsed]
      rfl

theorem normalize_lookup
    (ran : owner.normalizeCandidate decimalEqual namespace_ schemaRevision values = .ok result) (key : String) :
    result.lookup key = values.lookup key := by
  cases owner with
  | identity rows =>
    obtain ⟨_,ran⟩ := require_bind_ok.mp ran
    obtain ⟨_,_,ran⟩ := bind_ok.mp ran
    split at ran
    · cases pure_ok.mp ran
      rfl
    · cases ran
  | gate =>
    obtain ⟨_,_,ran⟩ := bind_ok.mp ran
    obtain ⟨_,ran⟩ := require_bind_ok.mp ran
    split at ran
    · rename_i policy parsed
      cases pure_ok.mp ran
      exact gate_parse_values parsed key
    · cases ran

end EngineeringPlatform.Configuration
