import EngineeringPlatform.EvidenceDeliveries
namespace EngineeringPlatform.Evidence
open Checked EngineeringPlatform.SourceControl Integration KeyLocks SharedWorkers TransitionRuns

section
variable (texts : EvidenceTexts) (s : EvidenceStore)

inductive RequestFacts (envelope : IntegrationBaselineRequestEnvelope) : List EvidenceWrite → RequestPhase → Prop where
  | open (phase : RequestPhase) (pursued : phase ≠ .committing) : RequestFacts envelope [] phase
  | found (stored : s.tables.evidenceRequest envelope.messageId = some row) (same : row.Matches envelope) :
    RequestFacts envelope [] .committing
  | inserted (now : Time) : RequestFacts envelope [.request (envelope.row now)] .committing

variable (g : Generation) (transaction : Transaction)

structure Locked (holder : Nat) (request : EvidenceRequest) : Prop where
  holds : s.locks.Holds holder (.request g.messageId)
  stored : s.tables.evidenceRequest g.messageId = some request

structure Claimed (holder : Nat) (claimed : ClaimedRequest) : Prop where
  locked : Locked s g holder claimed.locked
  unprocessed : claimed.locked.state ≠ .processed
  row : ∃ now, claimed.row = claimed.locked.claim now

-- The merge requests proved an item after the transaction had begun.
structure ItemProven (began : Nat) (claimed : ClaimedRequest) (item : IntegrationBaselineEvidenceItem) : Prop where
  proven : ∃ moment m, began ≤ moment ∧ s.moments[moment]? = some m ∧
    Proves m claimed.row.subject.requirementId item.workItemId item.integrationMergeRequestBindingId
      item.integrationMergeRequestIid item.repositoryId item.taskBranch item.taskCommitSha item.integrationMergeCommitSha
  validation : (s.tables.externalValidationById item.externalValidation.id).isSome

structure MergeProven (began : Nat) (claimed : ClaimedRequest) (workItemId : Uuid) (merge : ProvenMerge) : Prop where
  proven : ∃ moment m, began ≤ moment ∧ s.moments[moment]? = some m ∧
    m.integrationEvidenceContext workItemId = some merge.context ∧
    merge.context.merged = some (merge.headSha,merge.mergeCommitSha) ∧
    merge.context.binding.requirementId = claimed.row.subject.requirementId

def generatedWrites (claimed : ClaimedRequest) (header : EvidenceHeader) (items : List IntegrationBaselineEvidenceItem) :
    List EvidenceWrite :=
  [.updatedRequest claimed.row,.evidence header] ++ (items.map (evidenceItemRow texts header.id claimed.row)).map .item

-- The evidence of the request's snapshot: another transaction's, or this one's.
inductive Evidenced (began : Nat) (claimed : ClaimedRequest) (header : EvidenceHeader) : List EvidenceWrite → Prop where
  | found (stored : header ∈ s.tables.evidence) (snapshot : header.snapshot = claimed.row.snapshot) :
    Evidenced began claimed header [.updatedRequest claimed.row]
  | generated (items : List IntegrationBaselineEvidenceItem) (subject : header.subject = claimed.row.subject)
    (proven : ∀ item ∈ items, ItemProven s began claimed item) :
    Evidenced began claimed header (generatedWrites texts claimed header items)

-- What a reading of evidence has in common with every other one.
structure EvidenceRead (t : EvidenceTables) (header : EvidenceHeader) (evidence : IntegrationBaselineEvidence) : Prop where
  id : evidence.id = header.id
  subject : evidence.subject = header.subject
  evidenceHash : evidence.evidenceHash = header.evidenceHash
  generated : evidence.generatedBy = header.generatedBy ∧ evidence.generatedAt = header.generatedAt
  items : (t.integrationBaselineEvidenceItems header.id).mapM (fun row => itemFromRow texts row.1 row.2) =
    .ok evidence.items

inductive GenerationDone : Generated → Prop where
  | replayed (none : transaction.writes = []) (locked : s.tables.evidenceRequest g.messageId = some request)
    (stored : header ∈ s.tables.evidence) (snapshot : header.snapshot = request.snapshot)
    (read : EvidenceRead texts s.tables header evidence) : GenerationDone (.evidence evidence)
  | stored (claimed : Claimed s g transaction.id pair) (before : List EvidenceWrite) (now : Time)
    (written : transaction.writes = before ++ [.updatedRequest (pair.row.complete now)])
    (evidenced : Evidenced texts s transaction.began pair header before)
    (readable : Readable texts (transaction.view s) header)
    (read : EvidenceRead texts (transaction.view s) header evidence) : GenerationDone (.evidence evidence)
  | failed (none : transaction.writes = []) : GenerationDone (.failed error)
  | recorded (claimed : Claimed s g transaction.id pair) (now : Time) (availableAt : Time) (reason : SourceControlReason)
    (written : transaction.writes = [.updatedRequest (pair.locked.fail now availableAt reason)]) :
    GenerationDone (.failed error)

def GenerationFacts : GenerationPhase → Prop
  | .locking => transaction.writes = []
  | .processed request => transaction.writes = [] ∧ Locked s g transaction.id request ∧ request.state = .processed
  | .claiming request => transaction.writes = [] ∧ Locked s g transaction.id request ∧ request.state ≠ .processed
  | .validating claimed | .lost claimed _ =>
    Claimed s g transaction.id claimed ∧ transaction.writes = [.updatedRequest claimed.row]
  | .collecting claimed items _ | .revalidating claimed items | .inserting claimed items =>
    (Claimed s g transaction.id claimed ∧ transaction.writes = [.updatedRequest claimed.row]) ∧
      ∀ item ∈ items, ItemProven s transaction.began claimed item
  | .matching claimed items workItemId merge _ =>
    (Claimed s g transaction.id claimed ∧ transaction.writes = [.updatedRequest claimed.row]) ∧
      (∀ item ∈ items, ItemProven s transaction.began claimed item) ∧ MergeProven s transaction.began claimed workItemId merge
  | .storing claimed items header => Claimed s g transaction.id claimed ∧
      transaction.writes = [.updatedRequest claimed.row,.evidence header] ∧ header.subject = claimed.row.subject ∧
      ∀ item ∈ items, ItemProven s transaction.began claimed item
  | .completing claimed header _ => Claimed s g transaction.id claimed ∧
      Evidenced texts s transaction.began claimed header transaction.writes
  | .readingBack claimed header => Claimed s g transaction.id claimed ∧ ∃ before now,
      transaction.writes = before ++ [.updatedRequest (claimed.row.complete now)] ∧
        Evidenced texts s transaction.began claimed header before
  | .failing claimed _ => Claimed s g transaction.id claimed ∧ transaction.writes = []
  | .committing generated => GenerationDone texts s g transaction generated

end

variable {texts : EvidenceTexts} {s next : EvidenceStore} {transaction : Transaction} {g : Generation}

section
variable (moved : Elsewhere transaction.id s next)
include moved

theorem RequestFacts.later {envelope : IntegrationBaselineRequestEnvelope} {writes : List EvidenceWrite}
    {phase : RequestPhase} (facts : RequestFacts s envelope writes phase) : RequestFacts next envelope writes phase := by
  cases facts with
  | «open» phase pursued => exact .open phase pursued
  | found stored same =>
    obtain ⟨row',stored',kept⟩ := moved.grows.requests _ _ stored
    refine .found stored' ⟨kept.payloadHash.trans same.1,kept.subject.trans same.2.1,kept.workItemIds.trans same.2.2⟩
  | inserted now => exact .inserted now

theorem Locked.later (locked : Locked s g transaction.id request) : Locked next g transaction.id request :=
  ⟨moved.holds _ locked.holds,(moved.requests _ locked.holds).trans locked.stored⟩

theorem Claimed.later (claimed : Claimed s g transaction.id pair) : Claimed next g transaction.id pair :=
  ⟨claimed.locked.later moved,claimed.unprocessed,claimed.row⟩

theorem ItemProven.later (item : ItemProven s transaction.began pair item') : ItemProven next transaction.began pair item' := by
  obtain ⟨moment,m,since,there,proves⟩ := item.proven
  obtain ⟨validation,found⟩ := Option.isSome_iff_exists.mp item.validation
  exact ⟨⟨moment,m,since,moment_kept moved.grows.moments there,proves⟩,
    Option.isSome_iff_exists.mpr ⟨validation,found_earlier moved.grows.validations found⟩⟩

theorem MergeProven.later {found : ProvenMerge} (merge : MergeProven s transaction.began pair workItemId found) :
    MergeProven next transaction.began pair workItemId found := by
  obtain ⟨moment,m,since,there,proves⟩ := merge.proven
  exact ⟨moment,m,since,moment_kept moved.grows.moments there,proves⟩

theorem Evidenced.later {writes : List EvidenceWrite} (evidenced : Evidenced texts s transaction.began pair header writes) :
    Evidenced texts next transaction.began pair header writes := by
  cases evidenced with
  | found stored snapshot => exact .found (moved.grows.evidence.subset stored) snapshot
  | generated items subject proven => exact .generated items subject fun item member => (proven item member).later moved

end

theorem EvidenceRead.later {t t' : EvidenceTables}
    (same : t'.integrationBaselineEvidenceItems header.id = t.integrationBaselineEvidenceItems header.id)
    (read : EvidenceRead texts t header evidence) : EvidenceRead texts t' header evidence :=
  ⟨read.id,read.subject,read.evidenceHash,read.generated,same ▸ read.items⟩

theorem evidenceFromRows_read {t : EvidenceTables} {m : MergeRequests} {header : EvidenceHeader}
    (ran : evidenceFromRows texts t m header = .ok evidence) : EvidenceRead texts t header evidence ∧
      canonicalIntegrationBaselineHash texts evidence.id evidence.subject evidence.items = .ok evidence.evidenceHash := by
  unfold evidenceFromRows at ran
  obtain ⟨items,read,ran⟩ := bind_ok.mp ran
  unfold IntegrationBaselineEvidence.modelValidate at ran
  simp only [require_bind_ok] at ran
  obtain ⟨_,_,_,ran⟩ := ran
  obtain ⟨expected,hashed,ran⟩ := bind_ok.mp ran
  obtain ⟨same,ran⟩ := require_bind_ok.mp ran
  cases pure_ok.mp ran
  exact ⟨⟨rfl,rfl,rfl,⟨rfl,rfl⟩,read⟩,hashed.trans (congrArg Except.ok same.symm)⟩

-- The rows of the items a transaction has written itself.
theorem generated_items {claimed : ClaimedRequest} {header : EvidenceHeader}
    {items : List IntegrationBaselineEvidenceItem} {more : List EvidenceWrite} (none : itemsOf more = []) :
    itemsOf (generatedWrites texts claimed header items ++ more) =
      items.map (evidenceItemRow texts header.id claimed.row) := by
  unfold itemsOf at none ⊢
  unfold generatedWrites
  rw [List.filterMap_append,none]
  simp [List.filterMap_map]

theorem generated_evidence {claimed : ClaimedRequest} {header : EvidenceHeader}
    {items : List IntegrationBaselineEvidenceItem} {more : List EvidenceWrite} (none : evidenceOf more = []) :
    evidenceOf (generatedWrites texts claimed header items ++ more) = [header] := by
  unfold evidenceOf at none ⊢
  unfold generatedWrites
  rw [List.filterMap_append,none]
  simp [List.filterMap_map]

theorem header_reserved {header : EvidenceHeader} (pending : Pending s transaction)
    (member : EvidenceWrite.evidence header ∈ transaction.writes) :
    s.locks.Holds transaction.id (.evidence header.id) :=
  pending.reserved _ member _ (List.mem_cons_of_mem _ List.mem_cons_self)

-- What evidence is made of, once its rows are there.
theorem Evidenced.items {before : List EvidenceWrite} (valid : StoreValid texts s) (pending : Pending s transaction)
    (moved : Elsewhere transaction.id s next) (evidenced : Evidenced texts s transaction.began pair header before)
    (written : transaction.writes = before ++ [.updatedRequest last]) :
    (transaction.view next).integrationBaselineEvidenceItems header.id =
      (transaction.view s).integrationBaselineEvidenceItems header.id := by
  have rows {own : List EvidenceItemRow} (same : itemsOf transaction.writes = own)
      (kept : next.tables.itemRows header.id = s.tables.itemRows header.id) :
      (transaction.view next).itemRows header.id = (transaction.view s).itemRows header.id := by
    unfold EvidenceTables.itemRows at kept ⊢
    unfold Transaction.view
    rw [applyAll_items,applyAll_items,List.filter_append,List.filter_append,kept]
  have validations : validationsOf transaction.writes = [] := by
    rw [written]
    cases evidenced <;> simp [validationsOf,generatedWrites,List.filterMap_map,List.filterMap_append]
  have grown : (transaction.view s).validations <+: (transaction.view next).validations := by
    unfold Transaction.view
    rw [applyAll_validations,applyAll_validations,validations,List.append_nil,List.append_nil]
    exact moved.grows.validations
  cases evidenced with
  | found stored snapshot =>
    refine items_kept (rows rfl (moved.grows.items header stored)) grown fun row member => ?_
    have none : itemsOf transaction.writes = [] := by
      rw [written]
      rfl
    have member : row ∈ (s.tables.applyAll transaction.writes).items := List.mem_of_mem_filter member
    rw [applyAll_items,none,List.append_nil] at member
    exact ((valid.tables.items row member).later evidence_view validations_view).validation
  | generated items subject proven =>
    have reserved : EvidenceWrite.evidence header ∈ transaction.writes := by
      rw [written]
      simp [generatedWrites]
    have held := header_reserved pending reserved
    refine items_kept (rows rfl (moved.items _ held)) grown fun row member => ?_
    have member : row ∈ (s.tables.applyAll transaction.writes).items := List.mem_of_mem_filter member
    rw [applyAll_items,written,generated_items rfl] at member
    rcases List.mem_append.mp member with stored | own
    · exact ((valid.tables.items row stored).later evidence_view validations_view).validation
    · obtain ⟨item,there,rfl⟩ := List.mem_map.mp own
      obtain ⟨validation,found⟩ := Option.isSome_iff_exists.mp (proven item there).validation
      exact Option.isSome_iff_exists.mpr ⟨validation,found_earlier validations_view found⟩

theorem GenerationDone.later (valid : StoreValid texts s) (pending : Pending s transaction)
    (moved : Elsewhere transaction.id s next) (done : GenerationDone texts s g transaction generated) :
    GenerationDone texts next g transaction generated := by
  cases done with
  | replayed none locked stored snapshot read =>
    obtain ⟨row,locked',kept⟩ := moved.grows.requests _ _ locked
    refine .replayed none locked' (moved.grows.evidence.subset stored) ?_ (read.later ?_)
    · rw [snapshot]
      unfold EvidenceRequest.snapshot
      rw [kept.subject]
    · exact items_kept (moved.grows.items _ stored) moved.grows.validations fun row member =>
        (valid.tables.items row (List.mem_of_mem_filter member)).validation
  | stored claimed before now written evidenced readable read =>
    have same := evidenced.items valid pending moved written
    exact .stored (claimed.later moved) before now written (evidenced.later moved) (readable.later same) (read.later same)
  | failed none => exact .failed none
  | recorded claimed now availableAt reason written => exact .recorded (claimed.later moved) now availableAt reason written

theorem GenerationFacts.later (valid : StoreValid texts s) (pending : Pending s transaction)
    (moved : Elsewhere transaction.id s next) (facts : GenerationFacts texts s g transaction phase) :
    GenerationFacts texts next g transaction phase := by
  cases phase with
  | locking => exact facts
  | processed request | claiming request => exact ⟨facts.1,facts.2.1.later moved,facts.2.2⟩
  | validating claimed | lost claimed _ => exact ⟨facts.1.later moved,facts.2⟩
  | collecting claimed items _ | revalidating claimed items | inserting claimed items =>
    exact ⟨⟨facts.1.1.later moved,facts.1.2⟩,fun item member => (facts.2 item member).later moved⟩
  | matching claimed items workItemId merge _ =>
    obtain ⟨⟨claim,written⟩,proven,found⟩ := facts
    exact ⟨⟨claim.later moved,written⟩,fun item member => (proven item member).later moved,found.later moved⟩
  | storing claimed items header =>
    obtain ⟨claim,written,subject,proven⟩ := facts
    exact ⟨claim.later moved,written,subject,fun item member => (proven item member).later moved⟩
  | completing claimed header _ => exact ⟨facts.1.later moved,facts.2.later moved⟩
  | readingBack claimed header =>
    obtain ⟨claim,before,now,written,evidenced⟩ := facts
    exact ⟨claim.later moved,before,now,written,evidenced.later moved⟩
  | failing claimed _ => exact ⟨facts.1.later moved,facts.2⟩
  | committing generated => exact GenerationDone.later valid pending moved facts

end EngineeringPlatform.Evidence
