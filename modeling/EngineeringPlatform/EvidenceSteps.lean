import EngineeringPlatform.EvidenceGenerations
namespace EngineeringPlatform.Evidence
open Checked EngineeringPlatform.SourceControl Integration KeyLocks SharedWorkers TransitionRuns
variable {texts : EvidenceTexts} {s next : EvidenceStore} {transaction : Transaction} {g : Generation}

-- SELECT … FOR UPDATE goes on with the row's lock.
theorem locked_goes {π : Type} {row : EvidenceRequest} {reply : Reply π} {next' : π}
    (ran : row.locked transaction s reply = .goes keys writes next') :
    s.locks.Free transaction.id (.request row.messageId) ∧ reply = .goes keys writes next' := by
  unfold EvidenceRequest.locked at ran
  split at ran
  · rename_i free
    exact ⟨free,ran⟩
  · cases ran

theorem pending_lock (pending : Pending s transaction) {keys : List EvidenceKey} :
    Pending (s.take transaction keys) (transaction.write []) := by
  refine pending.write (fun _ member => by cases member) List.nodup_nil fun _ member => by cases member

theorem request_goes {envelope : IntegrationBaselineRequestEnvelope} {phase next' : RequestPhase}
    (pending : Pending s transaction) (facts : RequestFacts s envelope transaction.writes phase)
    (ran : envelope.statement now transaction s phase = .goes keys writes next') (pursued : phase ≠ .committing) :
    (∀ key ∈ keys, s.locks.Free transaction.id key) ∧ Pending (s.take transaction keys) (transaction.write writes) ∧
      RequestFacts s envelope (transaction.write writes).writes next' := by
  have empty : transaction.writes = [] := by
    cases written : transaction.writes with
    | nil => rfl
    | cons write rest =>
      rw [written] at facts
      cases facts
      exact absurd rfl pursued
  have view : transaction.view s = s.tables := by
    unfold Transaction.view
    rw [empty]
    rfl
  have same : (transaction.write []).writes = [] := by
    change transaction.writes ++ [] = []
    rw [empty,List.append_nil]
  have compared {existing : EvidenceRequest} (found : s.tables.evidenceRequest envelope.messageId = some existing)
      (ran : envelope.compared existing transaction s = .goes keys writes next') :
      (∀ key ∈ keys, s.locks.Free transaction.id key) ∧ Pending (s.take transaction keys) (transaction.write writes) ∧
        RequestFacts s envelope (transaction.write writes).writes next' := by
    obtain ⟨free,ran⟩ := locked_goes ran
    split at ran
    · rename_i matching
      cases ran
      refine ⟨fun key member => ?_,pending_lock pending,?_⟩
      · cases List.mem_singleton.mp member
        exact (KeyedRows.find_some found).2 ▸ free
      · rw [same]
        exact .found found matching
    · cases ran
  cases phase with
  | select =>
    dsimp only [IntegrationBaselineRequestEnvelope.statement] at ran
    rw [view] at ran
    split at ran
    · rename_i existing found
      exact compared found ran
    · cases ran
      exact ⟨(fun _ member => by cases member),pending_read pending,by rw [same]; exact .open .insert (by decide)⟩
  | insert =>
    dsimp only [IntegrationBaselineRequestEnvelope.statement] at ran
    rw [view] at ran
    split at ran
    · split at ran
      · cases ran
        exact ⟨(fun _ member => by cases member),pending_read pending,by rw [same]; exact .open .lost (by decide)⟩
      · rename_i absent
        obtain ⟨free,rfl,rfl,rfl⟩ := holding_goes.mp ran
        refine ⟨free,?_,?_⟩
        · refine @pending_insert _ _ pending (.request (envelope.row now)) rfl (List.nodup_singleton _) ?_
          intro key member
          cases List.mem_singleton.mp member
          rw [view]
          exact request_key.mp absent
        · change RequestFacts s envelope (transaction.writes ++ _) .committing
          rw [empty]
          exact .inserted now
    · cases ran
  | lost =>
    dsimp only [IntegrationBaselineRequestEnvelope.statement] at ran
    rw [view] at ran
    split at ran
    · rename_i existing found
      exact compared found ran
    · cases ran
  | committing => exact absurd rfl pursued

-- Of what was written, nothing but requests.
theorem requests_ready {texts : EvidenceTexts} (validations : validationsOf transaction.writes = [])
    (receipts : receiptsOf transaction.writes = []) (evidence : evidenceOf transaction.writes = [])
    (items : itemsOf transaction.writes = [])
    (kept : Table.Advances EvidenceRequest.Kept s.tables.evidenceRequest (transaction.view s).evidenceRequest)
    (processed : ∀ messageId row, (transaction.view s).evidenceRequest messageId = some row → row.state = .processed →
      s.tables.evidenceRequest messageId = some row ∨
        ∃ header ∈ (transaction.view s).evidence, header.snapshot = row.snapshot) : Ready texts s transaction := by
  refine ⟨?_,?_,?_,?_,kept,processed⟩
  · rw [validations]
    exact fun _ member => by cases member
  · rw [receipts]
    exact fun _ member => by cases member
  · rw [items]
    exact fun _ member => by cases member
  · rw [evidence]
    exact fun _ member => by cases member

theorem nothing_ready {texts : EvidenceTexts} (empty : transaction.writes = []) : Ready texts s transaction := by
  have view : (transaction.view s).evidenceRequest = s.tables.evidenceRequest := by
    unfold Transaction.view
    rw [empty]
    rfl
  refine requests_ready (by rw [empty]; rfl) (by rw [empty]; rfl) (by rw [empty]; rfl) (by rw [empty]; rfl) ?_ ?_
  · rw [view]
    exact .refl .refl _
  · rw [view]
    exact fun messageId row found _ => .inl found

theorem request_ready {envelope : IntegrationBaselineRequestEnvelope} (pending : Pending s transaction)
    (facts : RequestFacts s envelope transaction.writes .committing) : Ready texts s transaction := by
  cases written : transaction.writes with
  | nil => exact nothing_ready written
  | cons write rest =>
    rw [written] at facts
    cases facts with
    | inserted now =>
      have member : EvidenceWrite.request (envelope.row now) ∈ transaction.writes := by
        rw [written]
        exact List.mem_cons_self
      have absent : s.tables.evidenceRequest envelope.messageId = none :=
        request_key.mpr (pending.absent member List.mem_cons_self)
      have view (messageId : Uuid) : (transaction.view s).evidenceRequest messageId =
          if messageId = envelope.messageId then some (envelope.row now) else s.tables.evidenceRequest messageId := by
        unfold Transaction.view
        rw [written]
        exact KeyedRows.find_insert messageId absent
      refine requests_ready (by rw [written]; rfl) (by rw [written]; rfl) (by rw [written]; rfl) (by rw [written]; rfl) ?_ ?_
      · intro messageId row stored
        refine ⟨row,?_,.refl row⟩
        rw [view]
        split
        · rename_i same
          subst same
          cases absent.symm.trans stored
        · exact stored
      · intro messageId row found done
        rw [view] at found
        split at found
        · cases found
          cases done
        · exact .inl found

theorem Claimed.messageId (claimed : Claimed s g holder pair) : pair.row.messageId = g.messageId := by
  obtain ⟨now,row⟩ := claimed.row
  rw [row]
  exact (KeyedRows.find_some claimed.locked.stored).2

-- The request as the transaction that has claimed it sees it.
theorem Claimed.view {more : List EvidenceWrite} (claimed : Claimed s g holder pair)
    (apart : ∀ write ∈ more, EvidenceKey.request g.messageId ∉ write.needs) :
    (s.tables.applyAll (.updatedRequest pair.row :: more)).evidenceRequest g.messageId = some pair.row := by
  have first : (s.tables.apply (.updatedRequest pair.row)).evidenceRequest g.messageId = some pair.row := by
    rw [←claimed.messageId]
    refine updated_request ?_
    rw [claimed.messageId,claimed.locked.stored]
    rfl
  exact (applyAll_request apart).trans first

theorem generated_apart {claimed : ClaimedRequest} {header : EvidenceHeader} {items : List IntegrationBaselineEvidenceItem}
    {messageId : Uuid} : ∀ write ∈ EvidenceWrite.evidence header ::
      (items.map (evidenceItemRow texts header.id claimed.row)).map .item,
        EvidenceKey.request messageId ∉ write.needs := by
  intro write member needed
  rcases List.mem_cons.mp member with rfl | member
  · simp [EvidenceWrite.needs,EvidenceWrite.inserts] at needed
  · obtain ⟨row,_,rfl⟩ := List.mem_map.mp member
    simp [EvidenceWrite.needs] at needed

theorem Evidenced.request {before : List EvidenceWrite} (evidenced : Evidenced texts s began pair header before)
    (claimed : Claimed s g holder pair) : (s.tables.applyAll before).evidenceRequest g.messageId = some pair.row := by
  cases evidenced with
  | found => exact claimed.view fun _ member => by cases member
  | generated => exact claimed.view generated_apart

theorem provenMerge_ok {request : EvidenceRequest} {context : Option IntegrationContext} {merge : ProvenMerge}
    (ran : provenMerge request context = .ok merge) : context = some merge.context ∧
      merge.context.merged = some (merge.headSha,merge.mergeCommitSha) ∧
      merge.context.binding.requirementId = request.subject.requirementId := by
  unfold provenMerge at ran
  obtain ⟨context',rfl,ran⟩ := orRaise_bind_ok.mp ran
  obtain ⟨requirement,ran⟩ := require_bind_ok.mp ran
  obtain ⟨⟨head,mergeCommit⟩,merged,ran⟩ := orRaise_bind_ok.mp ran
  cases pure_ok.mp ran
  exact ⟨rfl,merged,requirement⟩

theorem validationFromRow_id {row : ExternalValidationRow} (ran : validationFromRow texts row = .ok validation) :
    validation.id = row.id := by
  unfold validationFromRow ExternalValidationReference.modelValidate at ran
  obtain ⟨_,_,ran⟩ := bind_ok.mp ran
  obtain ⟨_,ran⟩ := require_bind_ok.mp ran
  obtain ⟨_,_,ran⟩ := orRaise_bind_ok.mp ran
  obtain ⟨_,_,ran⟩ := bind_ok.mp ran
  obtain ⟨_,_,ran⟩ := bind_ok.mp ran
  obtain ⟨_,ran⟩ := require_bind_ok.mp ran
  cases pure_ok.mp ran
  rfl

-- An item is what its context and its latest validation say.
theorem itemFromContext_proven {merge : ProvenMerge} {row : Option ExternalValidationRow}
    (keys : s.tables.keys.Nodup) (latest : ∀ row', row = some row' → row' ∈ s.tables.validations)
    (proven : MergeProven s began pair workItemId merge) (ran : itemFromContext texts workItemId merge row = .ok item) :
    ItemProven s began pair item := by
  unfold itemFromContext at ran
  obtain ⟨row',same,ran⟩ := orRaise_bind_ok.mp ran
  obtain ⟨validation,read,ran⟩ := bind_ok.mp ran
  unfold IntegrationBaselineEvidenceItem.modelValidate at ran
  obtain ⟨_,ran⟩ := require_bind_ok.mp ran
  obtain ⟨_,ran⟩ := require_bind_ok.mp ran
  obtain ⟨_,ran⟩ := require_bind_ok.mp ran
  cases pure_ok.mp ran
  obtain ⟨moment,m,since,there,context,merged,requirement⟩ := proven.proven
  refine ⟨⟨moment,m,since,there,⟨merge.context,context,merged,requirement,rfl,rfl,rfl,rfl⟩⟩,?_⟩
  have found := KeyedRows.find_of_mem (keys_unique keys).validations (latest row' same)
  rw [validationFromRow_id read]
  exact Option.isSome_iff_exists.mpr ⟨row',found⟩

-- What a generation knows once it goes on.
abbrev GoesOn (texts : EvidenceTexts) (s : EvidenceStore) (g : Generation) (transaction : Transaction)
    (keys : List EvidenceKey) (writes : List EvidenceWrite) (phase : GenerationPhase) : Prop :=
  (∀ key ∈ keys, s.locks.Free transaction.id key) ∧ Pending (s.take transaction keys) (transaction.write writes) ∧
    GenerationFacts texts (s.take transaction keys) g (transaction.write writes) phase

theorem write_nothing (transaction : Transaction) : transaction.write [] = transaction := by
  unfold Transaction.write
  rw [List.append_nil]

theorem goesOn_read (pending : Pending s transaction) (facts : GenerationFacts texts s g transaction phase) :
    GoesOn texts s g transaction [] [] phase := by
  refine ⟨(fun _ member => by cases member),pending_read pending,?_⟩
  rw [write_nothing]
  exact facts

-- A write to the request that the transaction has locked.
theorem pending_update (pending : Pending s transaction) (holds : s.locks.Holds transaction.id (.request row.messageId)) :
    Pending (s.take transaction []) (transaction.write [.updatedRequest row]) := by
  refine pending.write (fun write member key needed => ?_) List.nodup_nil fun _ member => by cases member
  cases List.mem_singleton.mp member
  cases List.mem_singleton.mp needed
  exact .inr holds

theorem moment_now (s : EvidenceStore) : s.moments[s.moment]? = some s.mergeRequests := by
  unfold EvidenceStore.moments EvidenceStore.moment
  rw [List.getElem?_append_right (by rw [List.length_reverse]),List.length_reverse,Nat.sub_self]
  rfl

theorem bySnapshot_ok {t : EvidenceTables} {m : MergeRequests} {snapshot : Uuid × String}
    (ran : getIntegrationBaselineEvidenceBySnapshot texts t m snapshot = .ok evidence) :
    ∃ header ∈ t.evidence, header.snapshot = snapshot ∧ evidenceFromRows texts t m header = .ok evidence := by
  unfold getIntegrationBaselineEvidenceBySnapshot at ran
  obtain ⟨header,found,ran⟩ := orRaise_bind_ok.mp ran
  obtain ⟨stored,same⟩ := KeyedRows.find_some found
  exact ⟨header,stored,same,ran⟩

-- The validations are as they are committed: a generation inserts none.
theorem claimed_validations (written : transaction.writes = [.updatedRequest row]) :
    (transaction.view s).validations = s.tables.validations := by
  unfold Transaction.view
  rw [applyAll_validations,written]
  exact List.append_nil _

theorem locking_goes (pending : Pending s transaction) (empty : transaction.writes = [])
    (ran : g.statement texts input transaction s .locking = .goes keys writes phase) :
    GoesOn texts s g transaction keys writes phase := by
  have same : (transaction.write []).writes = [] := by
    rw [write_nothing]
    exact empty
  dsimp only [Generation.statement] at ran
  split at ran
  · cases ran
  · rename_i request found
    obtain ⟨free,ran⟩ := locked_goes ran
    have found : s.tables.evidenceRequest g.messageId = some request := by
      unfold Transaction.view at found
      rw [empty] at found
      exact found
    rw [(KeyedRows.find_some found).2] at free
    have locked : Locked (s.take transaction [.request g.messageId]) g transaction.id request :=
      ⟨take_holds.mpr (.inl ⟨rfl,List.mem_cons_self⟩),found⟩
    have keys (key : EvidenceKey) (member : key ∈ [EvidenceKey.request g.messageId]) :
        s.locks.Free transaction.id key := by
      cases List.mem_singleton.mp member
      exact free
    split at ran
    · rename_i processed
      split at ran
      · cases ran
      · cases ran
        exact ⟨keys,pending_lock pending,same,locked,processed⟩
    · rename_i unprocessed
      cases ran
      exact ⟨keys,pending_lock pending,same,locked,unprocessed⟩

theorem processed_goes (pending : Pending s transaction) (facts : GenerationFacts texts s g transaction (.processed request))
    (ran : g.statement texts input transaction s (.processed request) = .goes keys writes phase) :
    GoesOn texts s g transaction keys writes phase := by
  obtain ⟨empty,locked,_⟩ := facts
  obtain ⟨evidence,read,ran⟩ := checked_goes.mp ran
  cases ran
  obtain ⟨header,stored,same,read⟩ := bySnapshot_ok read
  unfold Transaction.view at stored read
  rw [empty] at stored read
  exact goesOn_read pending (.replayed empty locked.stored stored same (evidenceFromRows_read read).1)

theorem claiming_goes (pending : Pending s transaction) (facts : GenerationFacts texts s g transaction (.claiming request))
    (ran : g.statement texts input transaction s (.claiming request) = .goes keys writes phase) :
    GoesOn texts s g transaction keys writes phase := by
  obtain ⟨empty,locked,unprocessed⟩ := facts
  dsimp only [Generation.statement] at ran
  split at ran
  · cases ran
    have held : s.locks.Holds transaction.id (.request (request.claim input.now).messageId) := by
      change s.locks.Holds transaction.id (.request request.messageId)
      rw [(KeyedRows.find_some locked.stored).2]
      exact locked.holds
    refine ⟨(fun _ member => by cases member),pending_update pending held,⟨locked,unprocessed,⟨_,rfl⟩⟩,?_⟩
    unfold Transaction.write
    rw [empty]
    rfl
  · cases ran

theorem collecting_goes (pending : Pending s transaction) (began : transaction.began ≤ s.moment)
    (facts : GenerationFacts texts s g transaction (.collecting claimed items rest))
    (ran : g.statement texts input transaction s (.collecting claimed items rest) = .goes keys writes phase) :
    GoesOn texts s g transaction keys writes phase := by
  cases rest with
  | nil =>
    cases ran
    exact goesOn_read pending facts
  | cons workItemId rest =>
    obtain ⟨merge,read,ran⟩ := checked_goes.mp ran
    cases ran
    obtain ⟨context,merged,requirement⟩ := provenMerge_ok read
    exact goesOn_read pending ⟨facts.1,facts.2,⟨s.moment,s.mergeRequests,began,moment_now s,context,merged,requirement⟩⟩

theorem matching_goes (valid : StoreValid texts s) (pending : Pending s transaction)
    (facts : GenerationFacts texts s g transaction (.matching claimed items workItemId merge rest))
    (ran : g.statement texts input transaction s (.matching claimed items workItemId merge rest) = .goes keys writes phase) :
    GoesOn texts s g transaction keys writes phase := by
  obtain ⟨⟨claim,written⟩,proven,found⟩ := facts
  obtain ⟨item,read,ran⟩ := checked_goes.mp ran
  cases ran
  refine goesOn_read pending ⟨⟨claim,written⟩,fun one member => ?_⟩
  rcases List.mem_append.mp member with earlier | new
  · exact proven one earlier
  · cases List.mem_singleton.mp new
    refine itemFromContext_proven valid.tables.keys (fun row latest => ?_) found read
    rw [←claimed_validations written]
    exact List.mem_of_mem_filter (RankedRows.top_mem latest)

theorem inserting_goes (pending : Pending s transaction)
    (facts : GenerationFacts texts s g transaction (.inserting claimed items))
    (ran : g.statement texts input transaction s (.inserting claimed items) = .goes keys writes phase) :
    GoesOn texts s g transaction keys writes phase := by
  obtain ⟨⟨claim,written⟩,proven⟩ := facts
  obtain ⟨evidenceHash,_,ran⟩ := checked_goes.mp ran
  dsimp only [insertIntegrationBaselineEvidence] at ran
  split at ran
  · cases ran
  · split at ran
    · cases ran
      exact goesOn_read pending ⟨claim,written⟩
    · rename_i snapshot
      split at ran
      · rename_i fresh
        obtain ⟨free,rfl,rfl,rfl⟩ := holding_goes.mp ran
        have moved : Elsewhere transaction.id s
            (s.take transaction [.snapshot claimed.row.snapshot,.evidence input.evidenceId]) := elsewhere_take
        refine ⟨free,?_,claim.later moved,?_,rfl,fun item member => (proven item member).later moved⟩
        · refine @pending_insert _ _ pending
            (.evidence ⟨input.evidenceId,claimed.row.subject,evidenceHash,strip g.generatedBy,input.now⟩) rfl ?_ ?_
          · simp [EvidenceWrite.inserts]
          · intro key member
            rcases List.mem_cons.mp member with rfl | member
            · exact snapshot_key.mp snapshot
            · cases List.mem_singleton.mp member
              exact evidence_key.mp fresh.1
        · unfold Transaction.write
          rw [written]
          rfl
      · split at ran <;> cases ran

theorem items_insert (rows : List EvidenceItemRow) :
    (rows.map EvidenceWrite.item).flatMap evidenceSchema.inserts = [] := by
  rw [List.flatMap_map]
  exact List.flatMap_eq_nil_iff.mpr fun _ _ => rfl

theorem storing_goes (pending : Pending s transaction)
    (facts : GenerationFacts texts s g transaction (.storing claimed items header))
    (ran : g.statement texts input transaction s (.storing claimed items header) = .goes keys writes phase) :
    GoesOn texts s g transaction keys writes phase := by
  obtain ⟨claim,written,subject,proven⟩ := facts
  dsimp only [Generation.statement] at ran
  split at ran
  · cases ran
    refine ⟨(fun _ member => by cases member),?_,claim,?_⟩
    · refine pending.write (fun write member key needed => ?_) ?_ ?_
      · obtain ⟨row,there,rfl⟩ := List.mem_map.mp member
        obtain ⟨item,_,rfl⟩ := List.mem_map.mp there
        cases List.mem_singleton.mp needed
        exact .inr (header_reserved pending (by rw [written]; simp))
      · rw [items_insert]
        exact List.nodup_nil
      · rw [items_insert]
        exact fun _ member => by cases member
    · unfold Transaction.write
      rw [written]
      exact .generated items subject proven
  · cases ran

theorem lost_goes (pending : Pending s transaction) (facts : GenerationFacts texts s g transaction (.lost claimed now))
    (ran : g.statement texts input transaction s (.lost claimed now) = .goes keys writes phase) :
    GoesOn texts s g transaction keys writes phase := by
  obtain ⟨claim,written⟩ := facts
  dsimp only [Generation.statement] at ran
  split at ran
  · rename_i existing found
    cases ran
    refine goesOn_read pending ⟨claim,?_⟩
    obtain ⟨stored,same⟩ := KeyedRows.find_some found
    unfold Transaction.view at stored
    rw [applyAll_evidence,written] at stored
    rw [written]
    exact .found (List.append_nil s.tables.evidence ▸ stored) same
  · cases ran

theorem completing_goes (pending : Pending s transaction)
    (facts : GenerationFacts texts s g transaction (.completing claimed header now))
    (ran : g.statement texts input transaction s (.completing claimed header now) = .goes keys writes phase) :
    GoesOn texts s g transaction keys writes phase := by
  obtain ⟨claim,evidenced⟩ := facts
  dsimp only [Generation.statement] at ran
  rw [show (transaction.view s).evidenceRequest g.messageId = some claimed.row from evidenced.request claim] at ran
  dsimp only at ran
  split at ran
  · cases ran
    have held : s.locks.Holds transaction.id (.request (claimed.row.complete now).messageId) := by
      change s.locks.Holds transaction.id (.request claimed.row.messageId)
      rw [claim.messageId]
      exact claim.locked.holds
    exact ⟨(fun _ member => by cases member),pending_update pending held,claim,transaction.writes,now,rfl,evidenced⟩
  · cases ran

theorem readingBack_goes (pending : Pending s transaction)
    (facts : GenerationFacts texts s g transaction (.readingBack claimed header))
    (ran : g.statement texts input transaction s (.readingBack claimed header) = .goes keys writes phase) :
    GoesOn texts s g transaction keys writes phase := by
  obtain ⟨claim,before,now,written,evidenced⟩ := facts
  obtain ⟨evidence,read,ran⟩ := checked_goes.mp ran
  cases ran
  exact goesOn_read pending (.stored claim before now written evidenced ⟨_,evidence,read⟩ (evidenceFromRows_read read).1)

theorem failing_goes (pending : Pending s transaction) (facts : GenerationFacts texts s g transaction (.failing claimed error))
    (ran : g.statement texts input transaction s (.failing claimed error) = .goes keys writes phase) :
    GoesOn texts s g transaction keys writes phase := by
  obtain ⟨claim,empty⟩ := facts
  dsimp only [Generation.statement] at ran
  unfold Transaction.view at ran
  rw [empty] at ran
  rw [show (s.tables.applyAll []).evidenceRequest g.messageId = some claimed.locked from claim.locked.stored] at ran
  dsimp only at ran
  split at ran
  · cases ran
    have held : s.locks.Holds transaction.id
        (.request (claimed.locked.fail input.now (retryAt input.now claimed.row.attempts) error.code).messageId) := by
      change s.locks.Holds transaction.id (.request claimed.locked.messageId)
      rw [(KeyedRows.find_some claim.locked.stored).2]
      exact claim.locked.holds
    refine ⟨(fun _ member => by cases member),pending_update pending held,.recorded claim input.now
      (retryAt input.now claimed.row.attempts) error.code ?_⟩
    unfold Transaction.write
    rw [empty]
    rfl
  · cases ran
    exact goesOn_read pending (.failed empty)

-- What the generation comes to know by a statement.
theorem generation_goes (valid : StoreValid texts s) (pending : Pending s transaction) (began : transaction.began ≤ s.moment)
    (facts : GenerationFacts texts s g transaction phase)
    (ran : g.statement texts input transaction s phase = .goes keys writes next') :
    GoesOn texts s g transaction keys writes next' := by
  cases phase with
  | locking => exact locking_goes pending facts ran
  | processed request => exact processed_goes pending facts ran
  | claiming request => exact claiming_goes pending facts ran
  | validating claimed =>
    dsimp only [Generation.statement] at ran
    split at ran
    · split at ran
      · cases ran
      · cases ran
        exact goesOn_read pending ⟨facts,fun _ member => by cases member⟩
    · cases ran
  | collecting claimed items rest => exact collecting_goes pending began facts ran
  | matching claimed items workItemId merge rest => exact matching_goes valid pending facts ran
  | revalidating claimed items =>
    dsimp only [Generation.statement] at ran
    split at ran
    · cases ran
    · cases ran
      exact goesOn_read pending facts
  | inserting claimed items => exact inserting_goes pending facts ran
  | storing claimed items header => exact storing_goes pending facts ran
  | lost claimed now => exact lost_goes pending facts ran
  | completing claimed header now => exact completing_goes pending facts ran
  | readingBack claimed header => exact readingBack_goes pending facts ran
  | failing claimed error => exact failing_goes pending facts ran
  | committing generated =>
    cases ran
    exact goesOn_read pending facts

-- The requests after a transaction that has written to one of them, at last `row`.
theorem updated_view {row old : EvidenceRequest} {before : List EvidenceWrite} (written : transaction.writes = before ++ [.updatedRequest row])
    (there : (s.tables.applyAll before).evidenceRequest row.messageId = some old)
    (apart : ∀ other, other ≠ row.messageId → ∀ write ∈ before, EvidenceKey.request other ∉ write.needs) (messageId : Uuid) :
    (transaction.view s).evidenceRequest messageId =
      if messageId = row.messageId then some row else s.tables.evidenceRequest messageId := by
  have last : transaction.view s = (s.tables.applyAll before).apply (.updatedRequest row) := by
    unfold Transaction.view EvidenceTables.applyAll
    rw [written,List.foldl_append]
    rfl
  rw [last]
  split
  · rename_i same
    rw [same]
    exact updated_request (Option.isSome_iff_exists.mpr ⟨old,there⟩)
  · rename_i differs
    have one : ∀ write ∈ [EvidenceWrite.updatedRequest row], EvidenceKey.request messageId ∉ write.needs := by
      intro write member needed
      cases List.mem_singleton.mp member
      cases List.mem_singleton.mp needed
      exact differs rfl
    exact (applyAll_request (t := s.tables.applyAll before) one).trans (applyAll_request (apart messageId differs))

-- A transaction that has brought one request forward is ready if its evidence is.
theorem updated_ready {row locked : EvidenceRequest}
    (view : ∀ messageId, (transaction.view s).evidenceRequest messageId =
      if messageId = row.messageId then some row else s.tables.evidenceRequest messageId)
    (stored : s.tables.evidenceRequest row.messageId = some locked) (kept : locked.Kept row)
    (evidenced : row.state = .processed → ∃ header ∈ (transaction.view s).evidence, header.snapshot = row.snapshot) :
    Table.Advances EvidenceRequest.Kept s.tables.evidenceRequest (transaction.view s).evidenceRequest ∧
      ∀ messageId row', (transaction.view s).evidenceRequest messageId = some row' → row'.state = .processed →
        s.tables.evidenceRequest messageId = some row' ∨
          ∃ header ∈ (transaction.view s).evidence, header.snapshot = row'.snapshot := by
  refine ⟨fun messageId old found => ?_,fun messageId row' found done => ?_⟩
  · rw [view]
    split
    · rename_i same
      subst same
      cases stored.symm.trans found
      exact ⟨row,rfl,kept⟩
    · exact ⟨old,found,.refl old⟩
  · rw [view] at found
    split at found
    · cases found
      exact .inr (evidenced done)
    · exact .inl found

theorem Claimed.kept (claimed : Claimed s g holder pair) : pair.locked.Kept pair.row := by
  obtain ⟨now,row⟩ := claimed.row
  rw [row]
  exact ⟨rfl,rfl,rfl,rfl,rfl,fun done => absurd done claimed.unprocessed⟩

theorem Claimed.moved (claimed : Claimed s g holder pair) {row : EvidenceRequest} (same : row.messageId = pair.row.messageId)
    (payloadHash : row.payloadHash = pair.row.payloadHash) (subject : row.subject = pair.row.subject)
    (workItemIds : row.workItemIds = pair.row.workItemIds) (receivedAt : row.receivedAt = pair.row.receivedAt) :
    pair.locked.Kept row :=
  have kept := claimed.kept
  ⟨same.trans kept.messageId,payloadHash.trans kept.payloadHash,subject.trans kept.subject,
    workItemIds.trans kept.workItemIds,receivedAt.trans kept.receivedAt,fun done => absurd done claimed.unprocessed⟩

theorem failed_ready (claimed : Claimed s g transaction.id pair)
    (written : transaction.writes = [.updatedRequest (pair.locked.fail now availableAt reason)]) :
    Ready texts s transaction := by
  have stored : s.tables.evidenceRequest pair.locked.messageId = some pair.locked := by
    rw [(KeyedRows.find_some claimed.locked.stored).2]
    exact claimed.locked.stored
  have view := @updated_view s transaction (pair.locked.fail now availableAt reason) pair.locked [] written stored
    fun _ _ _ member => by cases member
  obtain ⟨advances,processed⟩ := @updated_ready _ _ (pair.locked.fail now availableAt reason) _ view stored
    ⟨rfl,rfl,rfl,rfl,rfl,fun done => absurd done claimed.unprocessed⟩ fun done => by cases done
  exact requests_ready (by rw [written]; rfl) (by rw [written]; rfl) (by rw [written]; rfl) (by rw [written]; rfl)
    advances processed

-- A request is PROCESSED together with its evidence.
theorem stored_ready {before : List EvidenceWrite} (claimed : Claimed s g transaction.id pair)
    (written : transaction.writes = before ++ [.updatedRequest (pair.row.complete now)])
    (evidenced : Evidenced texts s transaction.began pair header before)
    (readable : Readable texts (transaction.view s) header) : Ready texts s transaction := by
  have same : (pair.row.complete now).messageId = g.messageId := claimed.messageId
  have stored : s.tables.evidenceRequest (pair.row.complete now).messageId = some pair.locked := by
    rw [same]
    exact claimed.locked.stored
  have there : (s.tables.applyAll before).evidenceRequest (pair.row.complete now).messageId = some pair.row := by
    rw [same]
    exact evidenced.request claimed
  have inserted : header ∈ (transaction.view s).evidence ∧ header.snapshot = pair.row.snapshot := by
    cases evidenced with
    | found stored snapshot => exact ⟨evidence_view.subset stored,snapshot⟩
    | generated items subject proven =>
      refine ⟨?_,by unfold EvidenceHeader.snapshot EvidenceRequest.snapshot; rw [subject]⟩
      unfold Transaction.view
      rw [applyAll_evidence,written,generated_evidence rfl]
      exact List.mem_append_right _ List.mem_cons_self
  have view := updated_view written there fun other differs write member needed => by
    cases evidenced with
    | found =>
      cases List.mem_singleton.mp member
      cases List.mem_singleton.mp needed
      exact differs rfl
    | generated =>
      rcases List.mem_cons.mp member with rfl | member
      · cases List.mem_singleton.mp needed
        exact differs rfl
      · exact generated_apart write member needed
  obtain ⟨advances,processed⟩ := @updated_ready _ _ (pair.row.complete now) _ view stored
    (claimed.moved rfl rfl rfl rfl rfl) fun _ => ⟨header,inserted⟩
  cases evidenced with
  | found =>
    exact requests_ready (by rw [written]; rfl) (by rw [written]; rfl) (by rw [written]; rfl) (by rw [written]; rfl)
      advances processed
  | generated items subject proven =>
    have none : validationsOf transaction.writes = [] ∧ receiptsOf transaction.writes = [] := by
      rw [written]
      simp [validationsOf,receiptsOf,generatedWrites,List.filterMap_map,List.filterMap_append]
    refine ⟨?_,?_,?_,?_,advances,processed⟩
    · rw [none.1]
      exact fun _ member => by cases member
    · rw [none.2]
      exact fun _ member => by cases member
    · rw [written,generated_items rfl,←written]
      intro row member
      obtain ⟨item,there,rfl⟩ := List.mem_map.mp member
      obtain ⟨validation,found⟩ := Option.isSome_iff_exists.mp (proven item there).validation
      refine ⟨⟨⟨header,inserted.1,rfl,?_⟩,?_⟩,(proven item there).proven,header,?_,rfl⟩
      · rw [subject]
        rfl
      · exact Option.isSome_iff_exists.mpr ⟨validation,found_earlier validations_view found⟩
      · rw [written,generated_evidence rfl]
        exact List.mem_singleton_self header
    · rw [written,generated_evidence rfl]
      intro header' member
      cases List.mem_singleton.mp member
      exact readable

theorem GenerationDone.ready (done : GenerationDone texts s g transaction generated) : Ready texts s transaction := by
  cases done with
  | replayed none => exact nothing_ready none
  | stored claimed before now written evidenced readable => exact stored_ready claimed written evidenced readable
  | failed none => exact nothing_ready none
  | recorded claimed now availableAt reason written => exact failed_ready claimed written

end EngineeringPlatform.Evidence
