import EngineeringPlatform.CanonicalJson
import EngineeringPlatform.Checked
-- The canonical forms of delivery evidence, on the texts they are computed from.
namespace EngineeringPlatform.CanonicalEvidence
open Checked PythonText Trimming CanonicalJson

-- `hexdigest` of the SHA-256 of a text in UTF-8, and the JSON of a time.
structure Hashing (τ : Type) where
  sha256 : Text → Text
  isoformat : τ → Text

-- No two texts collide, and no two times are written alike.
structure Hashing.Faithful {τ : Type} (hashing : Hashing τ) : Prop where
  collisionFree : ∀ one two, hashing.sha256 one = hashing.sha256 two → one = two
  times : ∀ one two, hashing.isoformat one = hashing.isoformat two → one = two

inductive ValueError where
  | message (text : String)
  | unicodeEncode
  deriving DecidableEq

structure EvidenceCoverageConflict where
  message : Text
  deriving DecidableEq

variable {τ : Type} (hashing : Hashing τ)

def strip (value : Text) : Text := trim whiteSpace value

def sorted (values : List Text) : List Text := values.insertionSort (· ≤ ·)

-- `^sha256:[0-9a-f]{64}$`
def sha256Pattern (value : Text) : Bool :=
  value.take 7 = text "sha256:" ∧ value.length = 71 ∧
    (value.drop 7).all fun point => asciiDigit point ∨ (97 ≤ point ∧ point ≤ 102)

-- A surrogate has no UTF-8.
def canonicalHash (payload : Json) : Except ValueError Text := do
  let canonical := dumps payload
  require (canonical.any surrogate = false) .unicodeEncode
  pure (text "sha256:" ++ hashing.sha256 canonical)

-- Its only errors are messages.
def normalizedWorkItemIds (values : List Text) : Except String (List Text) := do
  let normalized := sorted (values.map strip)
  require (normalized ≠ [] ∧ [] ∉ normalized) "at least one WorkItem is required"
  require normalized.Nodup "duplicate WorkItem IDs are not allowed"
  pure normalized

structure SnapshotSubject where
  requirementId : Text
  requirementVersion : Int
  requiredWorkItemSetVersion : Int
  requiredWorkItemSetHash : Text
  deriving DecidableEq

def snapshotPayload (subject : SnapshotSubject) (workItemIds : List Text) : Fields :=
  [(text "requirementId",.text subject.requirementId),
    (text "requirementVersion",.integer subject.requirementVersion),
    (text "requiredWorkItemSetHash",.text subject.requiredWorkItemSetHash),
    (text "requiredWorkItemSetVersion",.integer subject.requiredWorkItemSetVersion),
    (text "workItemIds",.list (workItemIds.map .text))]

def canonicalDeliverySnapshotHash (subject : SnapshotSubject) (workItemIds : List Text) : Except ValueError Text := do
  let stableRequirementId := strip subject.requirementId
  require (stableRequirementId ≠ []) (.message "requirement ID is required")
  require (1 ≤ subject.requirementVersion ∧ 1 ≤ subject.requiredWorkItemSetVersion)
    (.message "snapshot versions must be positive")
  require (sha256Pattern subject.requiredWorkItemSetHash = true) (.message "required WorkItem set hash is invalid")
  let normalizedIds ← (normalizedWorkItemIds workItemIds).mapError ValueError.message
  canonicalHash hashing (.object <| snapshotPayload {subject with requirementId := stableRequirementId} normalizedIds)

def commaSeparated (values : List Text) : Text := [44].intercalate values

def validateEvidenceCoverage (requiredWorkItemIds evidenceWorkItemIds : List Text) :
    Except EvidenceCoverageConflict (List Text) := do
  let required ← (normalizedWorkItemIds requiredWorkItemIds).mapError fun message => ⟨text message⟩
  let rawEvidence := evidenceWorkItemIds.map strip
  require rawEvidence.Nodup ⟨text "duplicate WorkItem evidence"⟩
  let evidence := sorted rawEvidence
  let missing := sorted (required.filter (· ∉ evidence))
  let extra := sorted (evidence.filter (· ∉ required))
  require (missing = []) ⟨text "missing WorkItem evidence: " ++ commaSeparated missing⟩
  require (extra = []) ⟨text "extra WorkItem evidence: " ++ commaSeparated extra⟩
  pure evidence

structure ArtifactReference where
  artifactId : Text
  artifactVersion : Text
  artifactHash : Text
  deriving DecidableEq

structure ExternalValidationReference (τ : Type) where
  id : Text
  workItemId : Text
  integrationMergeRequestBindingId : Text
  targetCommitSha : Text
  integrationMergeCommitSha : Text
  reference : Text
  notes : Text
  artifactReferences : List ArtifactReference
  submittedBy : Text
  submittedAt : Option τ
  deriving DecidableEq

structure IntegrationBaselineEvidenceItem (τ : Type) where
  workItemId : Text
  repositoryId : Text
  taskBranch : Text
  taskCommitSha : Text
  integrationMergeRequestBindingId : Text
  integrationMergeRequestIid : Int
  integrationMergeCommitSha : Text
  executorType : Text
  executorId : Text
  artifactReferences : List ArtifactReference
  externalValidation : ExternalValidationReference τ
  deriving DecidableEq

-- `model_dump(mode="json")`
def ArtifactReference.fields (item : ArtifactReference) : Fields :=
  [(text "artifact_id",.text item.artifactId),(text "artifact_version",.text item.artifactVersion),
    (text "artifact_hash",.text item.artifactHash)]

def ArtifactReference.dump (item : ArtifactReference) : Json := .object item.fields

def ExternalValidationReference.fields (validation : ExternalValidationReference τ) : Fields :=
  [(text "id",.text validation.id),(text "work_item_id",.text validation.workItemId),
    (text "integration_merge_request_binding_id",.text validation.integrationMergeRequestBindingId),
    (text "target_commit_sha",.text validation.targetCommitSha),
    (text "integration_merge_commit_sha",.text validation.integrationMergeCommitSha),
    (text "reference",.text validation.reference),(text "notes",.text validation.notes),
    (text "artifact_references",.list (validation.artifactReferences.map ArtifactReference.dump)),
    (text "submitted_by",.text validation.submittedBy),
    (text "submitted_at",match validation.submittedAt with
      | some time => .text (hashing.isoformat time)
      | none => .null)]

def ExternalValidationReference.dump (validation : ExternalValidationReference τ) : Json :=
  .object (validation.fields hashing)

def IntegrationBaselineEvidenceItem.fields (item : IntegrationBaselineEvidenceItem τ) : Fields :=
  [(text "work_item_id",.text item.workItemId),(text "repository_id",.text item.repositoryId),
    (text "task_branch",.text item.taskBranch),(text "task_commit_sha",.text item.taskCommitSha),
    (text "integration_merge_request_binding_id",.text item.integrationMergeRequestBindingId),
    (text "integration_merge_request_iid",.integer item.integrationMergeRequestIid),
    (text "integration_merge_commit_sha",.text item.integrationMergeCommitSha),
    (text "executor_type",.text item.executorType),(text "executor_id",.text item.executorId),
    (text "artifact_references",.list (item.artifactReferences.map ArtifactReference.dump)),
    (text "external_validation",item.externalValidation.dump hashing)]

def IntegrationBaselineEvidenceItem.dump (item : IntegrationBaselineEvidenceItem τ) : Json := .object (item.fields hashing)

structure BaselineSubject where
  integrationBaselineId : Text
  requirementId : Text
  requirementVersion : Int
  requiredWorkItemSetVersion : Int
  requiredWorkItemSetHash : Text
  deliverySnapshotId : Text
  deliverySnapshotHash : Text
  deriving DecidableEq

def baselinePayload (subject : BaselineSubject) (items : List (IntegrationBaselineEvidenceItem τ)) : Fields :=
  [(text "deliverySnapshotHash",.text subject.deliverySnapshotHash),
    (text "deliverySnapshotId",.text subject.deliverySnapshotId),
    (text "integrationBaselineId",.text subject.integrationBaselineId),
    (text "items",.list (items.map (IntegrationBaselineEvidenceItem.dump hashing))),
    (text "requiredWorkItemSetHash",.text subject.requiredWorkItemSetHash),
    (text "requiredWorkItemSetVersion",.integer subject.requiredWorkItemSetVersion),
    (text "requirementId",.text subject.requirementId),
    (text "requirementVersion",.integer subject.requirementVersion)]

def sortedItems (items : List (IntegrationBaselineEvidenceItem τ)) : List (IntegrationBaselineEvidenceItem τ) :=
  items.insertionSort fun one two => one.workItemId ≤ two.workItemId

def canonicalIntegrationBaselineHash (subject : BaselineSubject) (items : List (IntegrationBaselineEvidenceItem τ)) :
    Except ValueError Text := do
  let normalizedItems := sortedItems items
  let workItemIds : List Text := normalizedItems.map IntegrationBaselineEvidenceItem.workItemId
  require (workItemIds ≠ []) (.message "Integration Baseline Evidence requires WorkItems")
  require workItemIds.Nodup (.message "duplicate WorkItem Evidence is not allowed")
  require (1 ≤ subject.requirementVersion ∧ 1 ≤ subject.requiredWorkItemSetVersion)
    (.message "Evidence versions must be positive")
  require (sha256Pattern subject.requiredWorkItemSetHash = true ∧ sha256Pattern subject.deliverySnapshotHash = true)
    (.message "Evidence hashes must be canonical SHA-256")
  canonicalHash hashing (.object <| baselinePayload hashing subject normalizedItems)

theorem sorted_perm (values : List Text) : (sorted values).Perm values := List.perm_insertionSort _ _

theorem sorted_pairwise (values : List Text) : (sorted values).Pairwise (· ≤ ·) := List.pairwise_insertionSort _ _

theorem sorted_unique (ordered : ids.Pairwise (· ≤ ·)) (perm : ids.Perm values) : ids = sorted values :=
  (perm.trans (sorted_perm values).symm).eq_of_pairwise' ordered (sorted_pairwise values)

theorem sorted_eq (perm : values.Perm others) : sorted values = sorted others :=
  sorted_unique (sorted_pairwise values) ((sorted_perm values).trans perm)

theorem sorted_nil : sorted values = [] ↔ values = [] := by
  rw [←List.length_eq_zero_iff,(sorted_perm values).length_eq,List.length_eq_zero_iff]

theorem normalizedWorkItemIds_ok : normalizedWorkItemIds values = .ok ids ↔
    values ≠ [] ∧ (∀ value ∈ values, strip value ≠ []) ∧ (values.map strip).Nodup ∧ sorted (values.map strip) = ids := by
  have blank : ([] ∉ sorted (values.map strip)) ↔ ∀ value ∈ values, strip value ≠ [] := by
    rw [(sorted_perm _).mem_iff]
    simp only [List.mem_map,not_exists,not_and,ne_eq]
  simp only [normalizedWorkItemIds,require_bind_ok,pure_ok,ne_eq,sorted_nil,List.map_eq_nil_iff,blank,(sorted_perm _).nodup_iff]
  tauto

theorem normalizedWorkItemIds_perm (perm : values.Perm others) : normalizedWorkItemIds values = normalizedWorkItemIds others := by
  unfold normalizedWorkItemIds
  rw [sorted_eq (perm.map strip)]

-- The evidence of exactly the required work items, each of them once.
structure Covers (required evidence : List Text) : Prop where
  filled : required ≠ []
  named : ∀ id ∈ required, strip id ≠ []
  distinct : (required.map strip).Nodup
  single : (evidence.map strip).Nodup
  same : ∀ id, id ∈ evidence.map strip ↔ id ∈ required.map strip

theorem validateEvidenceCoverage_ok : validateEvidenceCoverage required evidence = .ok ids ↔
    Covers required evidence ∧ ids.Pairwise (· ≤ ·) ∧ ids.Perm (evidence.map strip) := by
  unfold validateEvidenceCoverage
  simp only [bind_ok,mapError_ok,normalizedWorkItemIds_ok,require_ok,pure_ok,sorted_nil,List.filter_eq_nil_iff]
  constructor
  · rintro ⟨_,⟨filled,named,distinct,rfl⟩,_,single,_,missing,_,extra,rfl⟩
    refine ⟨⟨filled,named,distinct,single,fun id => ?_⟩,sorted_pairwise _,sorted_perm _⟩
    have covered (id : Text) (member : id ∈ required.map strip) : id ∈ evidence.map strip := by
      have present := missing id ((sorted_perm _).mem_iff.mpr member)
      rw [decide_eq_true_eq,Decidable.not_not] at present
      exact (sorted_perm _).mem_iff.mp present
    have asked (member : id ∈ evidence.map strip) : id ∈ required.map strip := by
      have present := extra id ((sorted_perm _).mem_iff.mpr member)
      rw [decide_eq_true_eq,Decidable.not_not] at present
      exact (sorted_perm _).mem_iff.mp present
    exact ⟨asked,covered id⟩
  · rintro ⟨covers,ordered,perm⟩
    refine ⟨_,⟨covers.filled,covers.named,covers.distinct,rfl⟩,⟨⟩,covers.single,⟨⟩,fun id member => ?_,⟨⟩,
      fun id member => ?_,(sorted_unique ordered perm).symm⟩
    · have present := (covers.same id).mpr ((sorted_perm _).mem_iff.mp member)
      rw [decide_eq_true_eq,Decidable.not_not]
      exact (sorted_perm _).mem_iff.mpr present
    · have present := (covers.same id).mp ((sorted_perm _).mem_iff.mp member)
      rw [decide_eq_true_eq,Decidable.not_not]
      exact (sorted_perm _).mem_iff.mpr present

theorem list_injective {α : Type} {dump : α → Json} (injective : Function.Injective fun item => (dump item).sortKeys)
    {items others : List α} (same : (Json.list (items.map dump)).sortKeys = (Json.list (others.map dump)).sortKeys) :
    items = others := by
  simp only [Json.sortKeys,sortItems_map,List.map_map,Json.list.injEq] at same
  exact List.map_injective_iff.mpr injective same

theorem ArtifactReference.dump_injective : Function.Injective fun item : ArtifactReference => item.dump.sortKeys := by
  intro one two same
  have values : one.fields.map (fun field => field.2.sortKeys) = two.fields.map fun field => field.2.sortKeys :=
    object_values (by simp only [fields,List.map]; decide) rfl same
  simp only [fields,List.map,Json.sortKeys,List.cons.injEq,Json.text.injEq,and_true] at values
  obtain ⟨id,version,hash⟩ := values
  cases one
  cases two
  cases id
  cases version
  cases hash
  rfl

variable {hashing}

theorem ExternalValidationReference.dump_injective (faithful : hashing.Faithful) :
    Function.Injective fun validation : ExternalValidationReference τ => (validation.dump hashing).sortKeys := by
  intro one two same
  have values : (one.fields hashing).map (fun field => field.2.sortKeys) = (two.fields hashing).map fun field => field.2.sortKeys :=
    object_values (by simp only [fields,List.map]; decide) rfl same
  simp only [fields,List.map,List.cons.injEq,and_true] at values
  obtain ⟨id,item,binding,target,merge,reference,notes,artifacts,submitter,time⟩ := values
  simp only [Json.sortKeys,Json.text.injEq] at id item binding target merge reference notes submitter
  have references := list_injective ArtifactReference.dump_injective artifacts
  have submitted : one.submittedAt = two.submittedAt := by
    cases first : one.submittedAt with
    | none =>
      cases second : two.submittedAt with
      | none => rfl
      | some instant => simp only [first,second,Json.sortKeys,reduceCtorEq] at time
    | some instant =>
      cases second : two.submittedAt with
      | none => simp only [first,second,Json.sortKeys,reduceCtorEq] at time
      | some other =>
        simp only [first,second,Json.sortKeys,Json.text.injEq] at time
        rw [faithful.times instant other time]
  cases one
  cases two
  simp_all only

theorem IntegrationBaselineEvidenceItem.dump_injective (faithful : hashing.Faithful) :
    Function.Injective fun item : IntegrationBaselineEvidenceItem τ => (item.dump hashing).sortKeys := by
  intro one two same
  have values : (one.fields hashing).map (fun field => field.2.sortKeys) = (two.fields hashing).map fun field => field.2.sortKeys :=
    object_values (by simp only [fields,List.map]; decide) rfl same
  simp only [fields,List.map,List.cons.injEq,and_true] at values
  obtain ⟨item,repository,branch,commit,binding,iid,merge,executor,executorId,artifacts,validation⟩ := values
  simp only [Json.sortKeys,Json.text.injEq,Json.integer.injEq] at item repository branch commit binding iid merge executor executorId
  have references := list_injective ArtifactReference.dump_injective artifacts
  have validated := ExternalValidationReference.dump_injective faithful validation
  cases one
  cases two
  simp_all only

theorem canonicalHash_same (faithful : hashing.Faithful) (made : canonicalHash hashing payload = .ok digest)
    (made' : canonicalHash hashing other = .ok digest) : payload.sortKeys = other.sortKeys := by
  simp only [canonicalHash,require_bind_ok,pure_ok] at made made'
  have digests := List.append_cancel_left (made.2.trans made'.2.symm)
  exact sortKeys_of_dumps (faithful.collisionFree _ _ digests)

theorem canonicalDeliverySnapshotHash_ok (made : canonicalDeliverySnapshotHash hashing subject ids = .ok digest) :
    ∃ normalized, normalizedWorkItemIds ids = .ok normalized ∧
      canonicalHash hashing (.object <| snapshotPayload {subject with requirementId := strip subject.requirementId} normalized) =
        .ok digest := by
  simp only [canonicalDeliverySnapshotHash,bind_ok,mapError_ok] at made
  obtain ⟨_,_,_,_,_,_,normalized,found,made⟩ := made
  exact ⟨normalized,found,made⟩

theorem snapshotPayload_injective
    (same : (Json.object <| snapshotPayload one ids).sortKeys = (Json.object <| snapshotPayload two others).sortKeys) :
    one = two ∧ ids = others := by
  have values : (snapshotPayload one ids).map (fun field => field.2.sortKeys) =
      (snapshotPayload two others).map fun field => field.2.sortKeys :=
    object_values (by simp only [snapshotPayload,List.map]; decide) rfl same
  simp only [snapshotPayload,List.map,List.cons.injEq,and_true] at values
  obtain ⟨requirement,version,hash,set,items⟩ := values
  simp only [Json.sortKeys,Json.text.injEq,Json.integer.injEq] at requirement version hash set
  have workItems : ids = others := by
    refine @list_injective _ Json.text (fun id other written => ?_) _ _ items
    simpa only [Json.sortKeys,Json.text.injEq] using written
  cases one
  cases two
  simp_all only [and_self]

theorem canonicalDeliverySnapshotHash_perm (subject : SnapshotSubject) (perm : ids.Perm others) :
    canonicalDeliverySnapshotHash hashing subject ids = canonicalDeliverySnapshotHash hashing subject others := by
  unfold canonicalDeliverySnapshotHash
  rw [normalizedWorkItemIds_perm perm]

theorem canonicalDeliverySnapshotHash_same (faithful : hashing.Faithful)
    (made : canonicalDeliverySnapshotHash hashing one ids = .ok digest)
    (made' : canonicalDeliverySnapshotHash hashing two others = .ok digest) :
    {one with requirementId := strip one.requirementId} = {two with requirementId := strip two.requirementId} ∧
      (ids.map strip).Perm (others.map strip) := by
  obtain ⟨normalized,found,written⟩ := canonicalDeliverySnapshotHash_ok made
  obtain ⟨normalized',found',written'⟩ := canonicalDeliverySnapshotHash_ok made'
  obtain ⟨subjects,rfl⟩ := snapshotPayload_injective (canonicalHash_same faithful written written')
  obtain ⟨_,_,_,sorting⟩ := normalizedWorkItemIds_ok.mp found
  obtain ⟨_,_,_,sorting'⟩ := normalizedWorkItemIds_ok.mp found'
  refine ⟨subjects,?_⟩
  calc (ids.map strip).Perm normalized := sorting ▸ (sorted_perm _).symm
    _ |>.Perm (others.map strip) := sorting' ▸ sorted_perm _

theorem sortedItems_perm (items : List (IntegrationBaselineEvidenceItem τ)) : (sortedItems items).Perm items :=
  List.perm_insertionSort _ _

theorem sortedItems_ids (items : List (IntegrationBaselineEvidenceItem τ)) :
    (sortedItems items).map IntegrationBaselineEvidenceItem.workItemId =
      sorted (items.map IntegrationBaselineEvidenceItem.workItemId) :=
  List.map_insertionSort _ _ _ _ fun _ _ _ _ => Iff.rfl

variable {items others : List (IntegrationBaselineEvidenceItem τ)}

-- In two orders the items of distinct work items differ in their ids already.
theorem eq_of_ids (perm : items.Perm others)
    (distinct : (items.map IntegrationBaselineEvidenceItem.workItemId).Nodup)
    (same : items.map IntegrationBaselineEvidenceItem.workItemId = others.map IntegrationBaselineEvidenceItem.workItemId) :
    items = others := by
  refine List.ext_getElem perm.length_eq fun index bound bound' => ?_
  refine List.inj_on_of_nodup_map distinct (List.getElem_mem bound) (perm.mem_iff.mpr (List.getElem_mem bound')) ?_
  have ids := congrArg (·[index]?) same
  simpa only [List.getElem?_map,List.getElem?_eq_getElem bound,List.getElem?_eq_getElem bound',Option.map_some,
    Option.some.injEq] using ids

theorem sortedItems_eq (perm : items.Perm others)
    (distinct : (items.map IntegrationBaselineEvidenceItem.workItemId).Nodup) : sortedItems items = sortedItems others := by
  refine eq_of_ids ((sortedItems_perm items).trans (perm.trans (sortedItems_perm others).symm)) ?_ ?_
  · exact ((sortedItems_perm items).map _).nodup_iff.mpr distinct
  · rw [sortedItems_ids,sortedItems_ids,sorted_eq (perm.map _)]

theorem canonicalIntegrationBaselineHash_perm (subject : BaselineSubject)
    (perm : items.Perm others) :
    canonicalIntegrationBaselineHash hashing subject items = canonicalIntegrationBaselineHash hashing subject others := by
  by_cases distinct : (items.map IntegrationBaselineEvidenceItem.workItemId).Nodup
  · unfold canonicalIntegrationBaselineHash
    rw [sortedItems_eq perm distinct]
  -- Both orders are refused before the items are written.
  · unfold canonicalIntegrationBaselineHash
    simp only [sortedItems_ids,sorted_eq (perm.map IntegrationBaselineEvidenceItem.workItemId)]
    have repeated : ¬(sorted (others.map IntegrationBaselineEvidenceItem.workItemId)).Nodup := by
      rwa [(sorted_perm _).nodup_iff,←(perm.map IntegrationBaselineEvidenceItem.workItemId).nodup_iff]
    by_cases filled : sorted (others.map IntegrationBaselineEvidenceItem.workItemId) = []
    · simp only [require,filled,ne_eq,not_true_eq_false,if_false,bind,Except.bind]
    · simp only [require,filled,repeated,ne_eq,not_false_eq_true,if_true,if_false,bind,Except.bind]

theorem canonicalIntegrationBaselineHash_ok (made : canonicalIntegrationBaselineHash hashing subject items = .ok digest) :
    canonicalHash hashing (.object <| baselinePayload hashing subject (sortedItems items)) = .ok digest := by
  simp only [canonicalIntegrationBaselineHash,require_bind_ok] at made
  exact made.2.2.2.2

theorem baselinePayload_injective (faithful : hashing.Faithful)
    (same : (Json.object <| baselinePayload hashing one items).sortKeys =
      (Json.object <| baselinePayload hashing two others).sortKeys) : one = two ∧ items = others := by
  have values : (baselinePayload hashing one items).map (fun field => field.2.sortKeys) =
      (baselinePayload hashing two others).map fun field => field.2.sortKeys :=
    object_values (by simp only [baselinePayload,List.map]; decide) rfl same
  simp only [baselinePayload,List.map,List.cons.injEq,and_true] at values
  obtain ⟨snapshotHash,snapshot,baseline,evidence,hash,set,requirement,version⟩ := values
  simp only [Json.sortKeys,Json.text.injEq,Json.integer.injEq] at snapshotHash snapshot baseline hash set requirement version
  have held := list_injective (IntegrationBaselineEvidenceItem.dump_injective faithful) evidence
  cases one
  cases two
  simp_all only [and_self]

theorem canonicalIntegrationBaselineHash_same (faithful : hashing.Faithful)
    (made : canonicalIntegrationBaselineHash hashing one items = .ok digest)
    (made' : canonicalIntegrationBaselineHash hashing two others = .ok digest) : one = two ∧ items.Perm others := by
  obtain ⟨subjects,same⟩ := baselinePayload_injective faithful
    (canonicalHash_same faithful (canonicalIntegrationBaselineHash_ok made) (canonicalIntegrationBaselineHash_ok made'))
  refine ⟨subjects,?_⟩
  calc items.Perm (sortedItems items) := (sortedItems_perm items).symm
    _ |>.Perm others := same ▸ sortedItems_perm others

-- What the snapshot hash covers of its subject.
def SnapshotSubject.stable (subject : SnapshotSubject) : SnapshotSubject :=
  {subject with requirementId := strip subject.requirementId}

def Differ {α : Type} (members others : List α) : Prop := ∃ member, ¬(member ∈ members ↔ member ∈ others)

theorem Differ.apart {α : Type} {members others : List α} (differ : Differ members others) : ¬members.Perm others :=
  fun perm => differ.elim fun _ different => different perm.mem_iff

theorem evidence_canonical (faithful : hashing.Faithful) :
    (∀ required evidence ids, validateEvidenceCoverage required evidence = .ok ids ↔
      Covers required evidence ∧ ids.Pairwise (· ≤ ·) ∧ ids.Perm (evidence.map strip)) ∧
    (∀ subject (ids others : List Text), ids.Perm others →
      canonicalDeliverySnapshotHash hashing subject ids = canonicalDeliverySnapshotHash hashing subject others) ∧
    (∀ subject (items others : List (IntegrationBaselineEvidenceItem τ)), items.Perm others →
      canonicalIntegrationBaselineHash hashing subject items = canonicalIntegrationBaselineHash hashing subject others) ∧
    (∀ one two ids others digest digest', canonicalDeliverySnapshotHash hashing one ids = .ok digest →
      canonicalDeliverySnapshotHash hashing two others = .ok digest' →
      one.stable ≠ two.stable ∨ Differ (ids.map strip) (others.map strip) → digest ≠ digest') ∧
    ∀ one two items others digest digest', canonicalIntegrationBaselineHash hashing one items = .ok digest →
      canonicalIntegrationBaselineHash hashing two others = .ok digest' →
      one ≠ two ∨ Differ items others → digest ≠ digest' := by
  refine ⟨fun _ _ _ => validateEvidenceCoverage_ok,fun subject _ _ => canonicalDeliverySnapshotHash_perm subject,
    fun subject _ _ => canonicalIntegrationBaselineHash_perm subject,?_,?_⟩
  · rintro one two ids others digest _ made made' different rfl
    obtain ⟨subjects,perm⟩ := canonicalDeliverySnapshotHash_same faithful made made'
    exact different.elim (· subjects) (·.apart perm)
  · rintro one two items others digest _ made made' different rfl
    obtain ⟨subjects,perm⟩ := canonicalIntegrationBaselineHash_same faithful made made'
    exact different.elim (· subjects) (·.apart perm)

-- Texts as their own digests.
def plain : Hashing Text where
  sha256 value := value
  isoformat value := value

def sampleSetHash : Text := text "sha256:0123456789abcdef0123456789abcdef0123456789abcdef0123456789abcdef"

def sampleSubject (requirementId : Text) : SnapshotSubject where
  requirementId := requirementId
  requirementVersion := 1
  requiredWorkItemSetVersion := 1
  requiredWorkItemSetHash := sampleSetHash

def sampleBaseline : BaselineSubject where
  integrationBaselineId := text "baseline"
  requirementId := text "r"
  requirementVersion := 1
  requiredWorkItemSetVersion := 1
  requiredWorkItemSetHash := sampleSetHash
  deliverySnapshotId := text "snapshot"
  deliverySnapshotHash := sampleSetHash

def sampleItem (workItemId executorType : Text) : IntegrationBaselineEvidenceItem Text where
  workItemId := workItemId
  repositoryId := text "repository"
  taskBranch := text "task"
  taskCommitSha := []
  integrationMergeRequestBindingId := []
  integrationMergeRequestIid := 3
  integrationMergeCommitSha := []
  executorType := executorType
  executorId := []
  artifactReferences := []
  externalValidation := ⟨[],workItemId,[],[],[],[],[],[],[],none⟩

def sampleItems (executorType : Text) : List (IntegrationBaselineEvidenceItem Text) :=
  [sampleItem (text "b") executorType,sampleItem (text "a") executorType]

theorem evidence_canonical_sample : Covers [text " a",text "b"] [text "b",text "a"] ∧
    canonicalDeliverySnapshotHash plain (sampleSubject (text "r")) [text "a",text "b"] =
      canonicalDeliverySnapshotHash plain (sampleSubject (text "r")) [text "b",text "a"] ∧
    canonicalIntegrationBaselineHash plain sampleBaseline (sampleItems (text "HUMAN")) =
      canonicalIntegrationBaselineHash plain sampleBaseline (sampleItems (text "HUMAN")).reverse ∧
    canonicalDeliverySnapshotHash plain (sampleSubject (text "r")) [text "a"] ≠
      canonicalDeliverySnapshotHash plain (sampleSubject (text "r")) [text "b"] ∧
    canonicalIntegrationBaselineHash plain sampleBaseline (sampleItems (text "HUMAN")) ≠
      canonicalIntegrationBaselineHash plain sampleBaseline (sampleItems (text "AGENT")) := by
  have faithful : plain.Faithful := ⟨fun _ _ same => same,fun _ _ same => same⟩
  obtain ⟨covers,snapshots,baselines,snapshotsDiffer,baselinesDiffer⟩ := evidence_canonical faithful
  have covered : validateEvidenceCoverage [text " a",text "b"] [text "b",text "a"] = .ok [text "a",text "b"] := by
    decide +kernel
  have made (outcome : Except ValueError Text) (accepted : outcome.toOption.isSome = true) : ∃ digest, outcome = .ok digest :=
    (Option.isSome_iff_exists.mp accepted).imp fun _ => toOption_some.mp
  refine ⟨((covers _ _ _).mp covered).1,snapshots _ _ _ (.swap _ _ _),baselines _ _ _ (List.reverse_perm _).symm,?_,?_⟩
  · intro same
    obtain ⟨digest,first⟩ := made (canonicalDeliverySnapshotHash plain (sampleSubject (text "r")) [text "a"])
      (by decide +kernel)
    exact snapshotsDiffer _ _ _ _ _ _ first (same ▸ first) (.inr ⟨text "a",by decide⟩) rfl
  · intro same
    obtain ⟨digest,first⟩ := made (canonicalIntegrationBaselineHash plain sampleBaseline (sampleItems (text "HUMAN")))
      (by decide +kernel)
    exact baselinesDiffer _ _ _ _ _ _ first (same ▸ first) (.inr ⟨sampleItem (text "a") (text "HUMAN"),by decide +kernel⟩) rfl

-- A requirement id in blanks has the hash of the bare id.
theorem padded_requirement : plain.Faithful ∧ sampleSubject (text "r") ≠ sampleSubject (text " r") ∧
    ∃ digest, canonicalDeliverySnapshotHash plain (sampleSubject (text "r")) [text "a"] = .ok digest ∧
      canonicalDeliverySnapshotHash plain (sampleSubject (text " r")) [text "a"] = .ok digest := by
  refine ⟨⟨fun _ _ same => same,fun _ _ same => same⟩,by decide +kernel,_,?_,rfl⟩
  decide +kernel

end EngineeringPlatform.CanonicalEvidence
