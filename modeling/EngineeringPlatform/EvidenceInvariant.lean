import EngineeringPlatform.EvidenceKeys
namespace EngineeringPlatform.Evidence
open Checked EngineeringPlatform.SourceControl Integration KeyLocks SharedWorkers TransitionRuns
variable (texts : EvidenceTexts)

-- A request is stored once: only the state of its processing moves, and PROCESSED is
-- final.
structure EvidenceRequest.Kept (old new : EvidenceRequest) : Prop where
  messageId : new.messageId = old.messageId
  payloadHash : new.payloadHash = old.payloadHash
  subject : new.subject = old.subject
  workItemIds : new.workItemIds = old.workItemIds
  receivedAt : new.receivedAt = old.receivedAt
  processed : old.state = .processed → new = old

theorem EvidenceRequest.Kept.refl (row : EvidenceRequest) : row.Kept row := ⟨rfl,rfl,rfl,rfl,rfl,fun _ => rfl⟩

theorem EvidenceRequest.Kept.trans {one two three : EvidenceRequest} (first : one.Kept two) (second : two.Kept three) :
    one.Kept three := by
  refine ⟨second.messageId.trans first.messageId,second.payloadHash.trans first.payloadHash,
    second.subject.trans first.subject,second.workItemIds.trans first.workItemIds,
    second.receivedAt.trans first.receivedAt,fun done => ?_⟩
  have same := first.processed done
  subst same
  exact second.processed done

def EvidenceTables.itemRows (t : EvidenceTables) (evidenceId : Uuid) : List EvidenceItemRow :=
  t.items.filter fun row => row.evidenceId = evidenceId

structure Grows (s next : EvidenceStore) : Prop where
  validations : s.tables.validations <+: next.tables.validations
  receipts : s.tables.receipts <+: next.tables.receipts
  evidence : s.tables.evidence <+: next.tables.evidence
  requests : Table.Advances EvidenceRequest.Kept s.tables.evidenceRequest next.tables.evidenceRequest
  items : ∀ header ∈ s.tables.evidence, next.tables.itemRows header.id = s.tables.itemRows header.id
  bindings : ∀ binding ∈ s.mergeRequests.bindings, ∃ supersededAt,
    {binding with supersededAt} ∈ next.mergeRequests.bindings
  moments : s.moments <+: next.moments
  spans : s.spans <+: next.spans

theorem Grows.refl (s : EvidenceStore) : Grows s s :=
  ⟨List.prefix_refl _,List.prefix_refl _,List.prefix_refl _,.refl .refl _,fun _ _ => rfl,fun binding member => ⟨binding.supersededAt,member⟩,
    List.prefix_refl _,List.prefix_refl _⟩

theorem Grows.trans {a b c : EvidenceStore} (first : Grows a b) (second : Grows b c) : Grows a c := by
  refine ⟨first.validations.trans second.validations,first.receipts.trans second.receipts,
    first.evidence.trans second.evidence,first.requests.trans (fun _ _ _ => .trans) second.requests,?_,?_,
    first.moments.trans second.moments,first.spans.trans second.spans⟩
  · intro header member
    exact (second.items header (first.evidence.subset member)).trans (first.items header member)
  · intro binding member
    obtain ⟨_,middle⟩ := first.bindings binding member
    obtain ⟨supersededAt,last⟩ := second.bindings _ middle
    exact ⟨supersededAt,last⟩

-- The validation row that a delivery of some envelope inserts.
def Written (row : ExternalValidationRow) : Prop :=
  ∃ d workspaceId, prepared texts d.envelope = .ok d ∧ row = d.validationRow texts workspaceId

-- What a receipt records: the delivery it answers, and for an ACCEPTED one a canonical
-- validation that describes the delivery and reads back.
def Names (t : EvidenceTables) (d : Delivery) (canonicalId : Uuid) : Prop :=
  ∃ row validation, row ∈ t.validations ∧ row.id = canonicalId ∧ d.Describes texts row ∧
    validationFromRow texts row = .ok validation

structure ReceiptValid (t : EvidenceTables) (receipt : ExternalValidationReceipt) : Prop where
  delivered : ∃ d, prepared texts d.envelope = .ok d ∧ receipt = d.receiptRow texts receipt.outcome receipt.receivedAt ∧
    ∀ canonicalId, receipt.outcome = .accepted canonicalId → Names texts t d canonicalId

structure ValidationValid (t : EvidenceTables) (m : MergeRequests) (row : ExternalValidationRow) : Prop where
  written : Written texts row
  bound : ∃ binding ∈ m.bindings, row.references binding = true
  answered : ∃ receipt ∈ t.receipts, receipt.messageId = row.id ∧ receipt.requestFingerprint = row.requestFingerprint

-- The merge request of an evidence item was proven merged with what the item records.
structure Proves (m : MergeRequests) (requirementId workItemId bindingId : Uuid) (iid : Nat)
    (repositoryId taskBranch headSha mergeCommitSha : String) : Prop where
  context : ∃ context, m.integrationEvidenceContext workItemId = some context ∧
    context.merged = some (headSha,mergeCommitSha) ∧ context.binding.requirementId = requirementId ∧
    context.binding.id = bindingId ∧ context.binding.mergeRequestIid = iid ∧
    context.binding.repositoryId = repositoryId ∧ context.taskBranch = taskBranch

def EvidenceItemRow.ProvenSince (row : EvidenceItemRow) (s : EvidenceStore) (began : Nat) : Prop :=
  ∃ moment m, began ≤ moment ∧ s.moments[moment]? = some m ∧
    Proves m row.requirementId row.workItemId row.integrationMergeRequestBindingId row.integrationMergeRequestIid
      row.repositoryId row.taskBranch row.taskCommitSha row.integrationMergeCommitSha

-- ... while the evidence it belongs to was generated.
def EvidenceItemRow.Proven (row : EvidenceItemRow) (s : EvidenceStore) : Prop :=
  ∃ span ∈ s.spans, span.evidenceId = row.evidenceId ∧ ∃ moment m, span.began ≤ moment ∧ moment ≤ span.ended ∧
    s.moments[moment]? = some m ∧
    Proves m row.requirementId row.workItemId row.integrationMergeRequestBindingId row.integrationMergeRequestIid
      row.repositoryId row.taskBranch row.taskCommitSha row.integrationMergeCommitSha

structure ItemValid (t : EvidenceTables) (row : EvidenceItemRow) : Prop where
  header : ∃ header ∈ t.evidence, header.id = row.evidenceId ∧ header.subject.requirementId = row.requirementId
  validation : (t.externalValidationById row.externalValidationReferenceId).isSome

def Readable (t : EvidenceTables) (header : EvidenceHeader) : Prop :=
  ∃ m evidence, evidenceFromRows texts t m header = .ok evidence

structure TablesValid (t : EvidenceTables) (m : MergeRequests) : Prop where
  keys : t.keys.Nodup
  validations : ∀ row ∈ t.validations, ValidationValid texts t m row
  receipts : ∀ receipt ∈ t.receipts, ReceiptValid texts t receipt
  items : ∀ row ∈ t.items, ItemValid t row
  readable : ∀ header ∈ t.evidence, Readable texts t header
  processed : ∀ messageId row, t.evidenceRequest messageId = some row → row.state = .processed →
    ∃ header ∈ t.evidence, header.snapshot = row.snapshot

structure StoreValid (s : EvidenceStore) : Prop where
  exclusive : s.locks.Exclusive
  bindings : (s.mergeRequests.bindings.map MergeRequestBinding.id).Nodup
  tables : TablesValid texts s.tables s.mergeRequests
  proven : ∀ row ∈ s.tables.items, row.Proven s

-- What a transaction in progress finds after others have moved.
structure Elsewhere (transaction : Nat) (s next : EvidenceStore) : Prop where
  grows : Grows s next
  holds : ∀ key, s.locks.Holds transaction key → next.locks.Holds transaction key
  live : transaction ∈ next.locks.live → transaction ∈ s.locks.live
  begun : s.locks.begun ≤ next.locks.begun
  pending : ∀ writes, evidenceSchema.Pending s.locks s.tables transaction writes →
    evidenceSchema.Pending next.locks next.tables transaction writes
  requests : ∀ messageId, s.locks.Holds transaction (.request messageId) →
    next.tables.evidenceRequest messageId = s.tables.evidenceRequest messageId
  items : ∀ evidenceId, s.locks.Holds transaction (.evidence evidenceId) →
    next.tables.itemRows evidenceId = s.tables.itemRows evidenceId

section
variable {texts} {s next : EvidenceStore}

theorem found_earlier {κ ρ : Type} [DecidableEq κ] {key : ρ → κ} {rows more : List ρ} {k : κ} {row : ρ} (grown : rows <+: more)
    (found : KeyedRows.find key rows k = some row) : KeyedRows.find key more k = some row := by
  obtain ⟨rest,rfl⟩ := grown
  unfold KeyedRows.find at found ⊢
  rw [List.find?_append,found]
  rfl

variable {t t' : EvidenceTables} {m : MergeRequests} {header : EvidenceHeader} {id' : Nat} {transaction : Transaction}

theorem Names.later (grown : t.validations <+: t'.validations) (names : Names texts t d id') :
    Names texts t' d id' := by
  obtain ⟨row,validation,member,rest⟩ := names
  exact ⟨row,validation,grown.subset member,rest⟩

theorem ReceiptValid.later (grown : t.validations <+: t'.validations)
    (valid : ReceiptValid texts t receipt) : ReceiptValid texts t' receipt := by
  obtain ⟨d,ready,row,named⟩ := valid.delivered
  exact ⟨d,ready,row,fun id' outcome => (named id' outcome).later grown⟩

theorem ValidationValid.later {m' : MergeRequests} (receipts : t.receipts <+: t'.receipts)
    (bindings : ∀ binding ∈ m.bindings, ∃ supersededAt, {binding with supersededAt} ∈ m'.bindings)
    (valid : ValidationValid texts t m row) : ValidationValid texts t' m' row := by
  obtain ⟨binding,member,bound⟩ := valid.bound
  obtain ⟨supersededAt,member'⟩ := bindings binding member
  obtain ⟨receipt,stored,same⟩ := valid.answered
  exact ⟨valid.written,⟨_,member',bound⟩,⟨receipt,receipts.subset stored,same⟩⟩

theorem ItemValid.later {row : EvidenceItemRow} (evidence : t.evidence <+: t'.evidence)
    (validations : t.validations <+: t'.validations) (valid : ItemValid t row) : ItemValid t' row := by
  obtain ⟨header,member,same⟩ := valid.header
  obtain ⟨validation,found⟩ := Option.isSome_iff_exists.mp valid.validation
  exact ⟨⟨header,evidence.subset member,same⟩,Option.isSome_iff_exists.mpr ⟨validation,found_earlier validations found⟩⟩

theorem moment_kept {moment : Nat} (moments : s.moments <+: next.moments) (there : s.moments[moment]? = some m) :
    next.moments[moment]? = some m := by
  obtain ⟨more,same⟩ := moments
  rw [←same,List.getElem?_append_left (List.getElem?_eq_some_iff.mp there).1]
  exact there

theorem EvidenceItemRow.Proven.later {row : EvidenceItemRow} (moments : s.moments <+: next.moments)
    (spans : s.spans <+: next.spans) (proven : row.Proven s) : row.Proven next := by
  obtain ⟨span,member,same,moment,m,began,ended,there,proves⟩ := proven
  exact ⟨span,spans.subset member,same,moment,m,began,ended,moment_kept moments there,proves⟩

-- The rows that make up an evidence: none is added, and the validations stay.
theorem items_kept
    (items : t'.itemRows header.id = t.itemRows header.id) (validations : t.validations <+: t'.validations)
    (valid : ∀ row ∈ t.itemRows header.id, (t.externalValidationById row.externalValidationReferenceId).isSome) :
    t'.integrationBaselineEvidenceItems header.id = t.integrationBaselineEvidenceItems header.id := by
  unfold EvidenceTables.integrationBaselineEvidenceItems
  change ((t'.itemRows header.id).filterMap _).mergeSort _ = ((t.itemRows header.id).filterMap _).mergeSort _
  rw [items]
  congr 1
  refine List.filterMap_congr fun row member => ?_
  obtain ⟨validation,found⟩ := Option.isSome_iff_exists.mp (valid row member)
  rw [found,show t'.externalValidationById _ = some validation from found_earlier validations found]

-- Reading evidence back depends on the merge requests in its currentness only.
theorem evidenceFromRows_ok :
    (∃ evidence, evidenceFromRows texts t m header = .ok evidence) ↔
      ∃ items, (t.integrationBaselineEvidenceItems header.id).mapM (fun row => itemFromRow texts row.1 row.2) = .ok items ∧
        ∀ currentness, (IntegrationBaselineEvidence.modelValidate texts ⟨header.id,header.subject,header.evidenceHash,items,
          currentness,header.generatedBy,header.generatedAt⟩).isOk = true := by
  unfold evidenceFromRows
  constructor
  · rintro ⟨evidence,ran⟩
    obtain ⟨items,read,ran⟩ := bind_ok.mp ran
    refine ⟨items,read,fun currentness => ?_⟩
    unfold IntegrationBaselineEvidence.modelValidate at ran ⊢
    simp only [require_bind_ok] at ran
    obtain ⟨versions,hashes,sorted,ran⟩ := ran
    obtain ⟨expected,hashed,ran⟩ := bind_ok.mp ran
    obtain ⟨same,_⟩ := require_bind_ok.mp ran
    simp only [require,if_pos versions,if_pos hashes,if_pos sorted,hashed,if_pos same,bind,Except.bind,pure,Except.pure]
    rfl
  · rintro ⟨items,read,validates⟩
    have ok := validates (evidenceCurrentness t m items)
    cases validated : IntegrationBaselineEvidence.modelValidate texts ⟨header.id,header.subject,header.evidenceHash,items,
      evidenceCurrentness t m items,header.generatedBy,header.generatedAt⟩ with
    | ok evidence => exact ⟨evidence,bind_ok.mpr ⟨items,read,validated⟩⟩
    | error error =>
      rw [validated] at ok
      cases ok

theorem Readable.read (readable : Readable texts t header)
    (m : MergeRequests) : ∃ evidence, evidenceFromRows texts t m header = .ok evidence := by
  obtain ⟨m',evidence,read⟩ := readable
  exact evidenceFromRows_ok.mpr (evidenceFromRows_ok.mp ⟨evidence,read⟩)

theorem Readable.later
    (same : t'.integrationBaselineEvidenceItems header.id = t.integrationBaselineEvidenceItems header.id)
    (readable : Readable texts t header) : Readable texts t' header := by
  obtain ⟨items,read,validates⟩ := evidenceFromRows_ok.mp (readable.read ⟨[],[],[]⟩)
  exact ⟨⟨[],[],[]⟩,evidenceFromRows_ok.mpr ⟨items,same ▸ read,validates⟩⟩

theorem Elsewhere.refl (transaction : Nat) (s : EvidenceStore) : Elsewhere transaction s s :=
  ⟨.refl s,fun _ held => held,fun live => live,Nat.le_refl _,fun _ pending => pending,fun _ _ => rfl,
    fun _ _ => rfl⟩

-- A step that moves nothing but the locks of another transaction.
theorem Elsewhere.locked {locks : Locks EvidenceKey} (holds : ∀ key, s.locks.Holds id' key → locks.Holds id' key)
    (live : id' ∈ locks.live → id' ∈ s.locks.live) (begun : s.locks.begun ≤ locks.begun) :
    Elsewhere id' s {s with locks} :=
  ⟨⟨List.prefix_refl _,List.prefix_refl _,List.prefix_refl _,.refl .refl _,fun _ _ => rfl,
    fun binding member => ⟨binding.supersededAt,member⟩,List.prefix_refl _,List.prefix_refl _⟩,holds,live,begun,
    fun _ pending => pending.later holds,fun _ _ => rfl,fun _ _ => rfl⟩

theorem elsewhere_begin (before : id' < s.locks.begun) : Elsewhere id' s s.begin := by
  refine .locked (fun _ held => held) (fun live => ?_) (Nat.le_succ _)
  rcases List.mem_cons.mp live with rfl | live
  · exact absurd before (Nat.lt_irrefl _)
  · exact live

theorem elsewhere_take {keys : List EvidenceKey} :
    Elsewhere id' s (s.take transaction keys) :=
  .locked (fun _ held => take_holds.mpr (.inr held)) (fun live => live) (Nat.le_refl _)

theorem elsewhere_finish {other : Nat} (differs : id' ≠ other) :
    Elsewhere id' s {s with locks := s.locks.finish other} :=
  .locked (fun _ held => finish_holds.mpr ⟨differs,held⟩) (fun live => (finish_live.mp live).2) (Nat.le_refl _)

theorem elsewhere_savepoint (differs : id' ≠ transaction.id) :
    Elsewhere id' s (s.rollbackToSavepoint transaction messageId) :=
  .locked (fun _ held => keep_holds.mpr ⟨held,.inl differs⟩) (fun live => live) (Nat.le_refl _)

-- What a transaction must have brought about when it comes to commit.
structure Ready (texts : EvidenceTexts) (s : EvidenceStore) (transaction : Transaction) : Prop where
  validations : ∀ row ∈ validationsOf transaction.writes, ValidationValid texts (transaction.view s) s.mergeRequests row
  receipts : ∀ receipt ∈ receiptsOf transaction.writes, ReceiptValid texts (transaction.view s) receipt
  items : ∀ row ∈ itemsOf transaction.writes, ItemValid (transaction.view s) row ∧
    row.ProvenSince s transaction.began ∧ ∃ header ∈ evidenceOf transaction.writes, header.id = row.evidenceId
  readable : ∀ header ∈ evidenceOf transaction.writes, Readable texts (transaction.view s) header
  requests : Table.Advances EvidenceRequest.Kept s.tables.evidenceRequest (transaction.view s).evidenceRequest
  processed : ∀ messageId row, (transaction.view s).evidenceRequest messageId = some row → row.state = .processed →
    s.tables.evidenceRequest messageId = some row ∨
      ∃ header ∈ (transaction.view s).evidence, header.snapshot = row.snapshot

theorem validations_view : s.tables.validations <+: (transaction.view s).validations := by
  rw [Transaction.view,applyAll_validations]
  exact List.prefix_append _ _

theorem receipts_view : s.tables.receipts <+: (transaction.view s).receipts := by
  rw [Transaction.view,applyAll_receipts]
  exact List.prefix_append _ _

theorem evidence_view : s.tables.evidence <+: (transaction.view s).evidence := by
  rw [Transaction.view,applyAll_evidence]
  exact List.prefix_append _ _

theorem applyAll_itemRows {writes : List EvidenceWrite} {evidenceId : Uuid}
    (apart : ∀ row ∈ itemsOf writes, row.evidenceId ≠ evidenceId) :
    (t.applyAll writes).itemRows evidenceId = t.itemRows evidenceId := by
  unfold EvidenceTables.itemRows
  rw [applyAll_items,List.filter_append]
  exact List.append_right_eq_self.mpr (List.filter_eq_nil_iff.mpr fun row member same =>
    apart row member (of_decide_eq_true same))

theorem items_view (pending : Pending s transaction) (ready : Ready texts s transaction)
    (member : header ∈ s.tables.evidence) :
    (transaction.view s).itemRows header.id = s.tables.itemRows header.id := by
  refine applyAll_itemRows fun row written same => ?_
  obtain ⟨_,_,own,inserted,id⟩ := ready.items row written
  obtain ⟨write,here,is⟩ := List.mem_filterMap.mp inserted
  cases write with
  | evidence header' =>
    cases is
    have absent := pending.absent here (show EvidenceKey.evidence own.id ∈ evidenceSchema.inserts (.evidence own) by
      simp [evidenceSchema,EvidenceWrite.inserts])
    refine absent ?_
    rw [id,same]
    change EvidenceKey.evidence header.id ∈ s.tables.keys
    unfold EvidenceTables.keys
    exact List.mem_append_right _ (List.mem_map_of_mem member)
  | _ => cases is

theorem commit_valid (valid : StoreValid texts s) (pending : Pending s transaction)
    (ready : Ready texts s transaction) :
    StoreValid texts (s.commit transaction) ∧ Grows s (s.commit transaction) := by
  have items : ∀ header ∈ s.tables.evidence, (transaction.view s).itemRows header.id = s.tables.itemRows header.id :=
    fun _ => items_view pending ready
  refine ⟨⟨valid.exclusive.finish,valid.bindings,⟨pending.unique,?_,?_,?_,?_,?_⟩,?_⟩,
    ⟨validations_view,receipts_view,evidence_view,ready.requests,items,
      fun binding member => ⟨binding.supersededAt,member⟩,List.prefix_refl _,List.prefix_append _ _⟩⟩
  · intro row member
    have member : row ∈ (s.tables.applyAll transaction.writes).validations := member
    rw [applyAll_validations] at member
    rcases List.mem_append.mp member with stored | new
    · exact (valid.tables.validations row stored).later receipts_view fun binding there => ⟨binding.supersededAt,there⟩
    · exact ready.validations row new
  · intro receipt member
    have member : receipt ∈ (s.tables.applyAll transaction.writes).receipts := member
    rw [applyAll_receipts] at member
    rcases List.mem_append.mp member with stored | new
    · exact (valid.tables.receipts receipt stored).later validations_view
    · exact ready.receipts receipt new
  · intro row member
    have member : row ∈ (s.tables.applyAll transaction.writes).items := member
    rw [applyAll_items] at member
    rcases List.mem_append.mp member with stored | new
    · exact (valid.tables.items row stored).later evidence_view validations_view
    · exact (ready.items row new).1
  · intro header member
    have member : header ∈ (s.tables.applyAll transaction.writes).evidence := member
    rw [applyAll_evidence] at member
    rcases List.mem_append.mp member with stored | new
    · exact (valid.tables.readable header stored).later
        (items_kept (items header stored) validations_view fun row member =>
          (valid.tables.items row (List.mem_of_mem_filter member)).validation)
    · exact ready.readable header new
  · intro messageId row found done
    rcases ready.processed messageId row found done with stored | evidenced
    · obtain ⟨header,member,same⟩ := valid.tables.processed messageId row stored done
      exact ⟨header,evidence_view.subset member,same⟩
    · exact evidenced
  · intro row member
    have member : row ∈ (s.tables.applyAll transaction.writes).items := member
    rw [applyAll_items] at member
    rcases List.mem_append.mp member with stored | new
    · exact EvidenceItemRow.Proven.later (List.prefix_refl s.moments) (List.prefix_append s.spans _)
        (valid.proven row stored)
    · obtain ⟨_,⟨moment,m,began,there,proves⟩,header,inserted,same⟩ := ready.items row new
      refine ⟨⟨header.id,transaction.began,s.moment⟩,?_,same,moment,m,began,?_,there,proves⟩
      · exact List.mem_append_right _ (List.mem_map_of_mem inserted)
      · have bound := (List.getElem?_eq_some_iff.mp there).1
        simp only [EvidenceStore.moments,List.length_append,List.length_reverse,List.length_singleton] at bound
        exact Nat.le_of_lt_succ bound

theorem elsewhere_commit (valid : StoreValid texts s)
    (pending : Pending s transaction) (ready : Ready texts s transaction) (differs : id' ≠ transaction.id) :
    Elsewhere id' s (s.commit transaction) := by
  refine ⟨(commit_valid valid pending ready).2,fun _ held => finish_holds.mpr ⟨differs,held⟩,
    fun live => (finish_live.mp live).2,Nat.le_refl _,fun _ mine => mine.committed valid.exclusive pending differs,?_,?_⟩
  · intro messageId held
    exact applyAll_request fun write member needed =>
      differs (valid.exclusive.one _ _ _ held (pending.reserved write member _ needed))
  · intro evidenceId held
    refine applyAll_itemRows fun row member same => ?_
    obtain ⟨write,there,is⟩ := List.mem_filterMap.mp member
    cases write with
    | item row' =>
      cases is
      exact differs (valid.exclusive.one _ _ _ held (same ▸ pending.reserved _ there _ List.mem_cons_self))
    | _ => cases is

-- The merge requests move.
theorem change_valid (valid : StoreValid texts s) (follows : m.follows s.mergeRequests = true) :
    StoreValid texts {s with mergeRequests := m, earlier := s.mergeRequests :: s.earlier} ∧
      ∀ id', Elsewhere id' s {s with mergeRequests := m, earlier := s.mergeRequests :: s.earlier} := by
  unfold MergeRequests.follows at follows
  simp only [Bool.decide_and,Bool.and_eq_true,decide_eq_true_eq,List.all_eq_true,List.any_eq_true] at follows
  obtain ⟨unique,kept⟩ := follows
  have bindings : ∀ binding ∈ s.mergeRequests.bindings, ∃ supersededAt, {binding with supersededAt} ∈ m.bindings := by
    intro binding member
    obtain ⟨row,there,same⟩ := kept binding member
    refine ⟨row.supersededAt,?_⟩
    rw [←same]
    exact there
  have moments : s.moments <+:
      EvidenceStore.moments {s with mergeRequests := m, earlier := s.mergeRequests :: s.earlier} := by
    unfold EvidenceStore.moments
    rw [List.reverse_cons]
    exact List.prefix_append _ _
  refine ⟨⟨valid.exclusive,unique,⟨valid.tables.keys,?_,valid.tables.receipts,valid.tables.items,valid.tables.readable,
    valid.tables.processed⟩,fun row member => (valid.proven row member).later moments (List.prefix_refl _)⟩,fun id' => ?_⟩
  · intro row member
    exact (valid.tables.validations row member).later (List.prefix_refl _) bindings
  · exact ⟨⟨List.prefix_refl _,List.prefix_refl _,List.prefix_refl _,.refl .refl _,fun _ _ => rfl,bindings,moments,
      List.prefix_refl _⟩,
      fun _ held => held,fun live => live,Nat.le_refl _,fun _ pending => pending,fun _ _ => rfl,fun _ _ => rfl⟩

end

end EngineeringPlatform.Evidence
