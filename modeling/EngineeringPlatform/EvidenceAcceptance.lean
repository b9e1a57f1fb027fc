import EngineeringPlatform.EvidenceIdempotence
namespace EngineeringPlatform.Evidence
open Checked EngineeringPlatform.SourceControl Integration KeyLocks SharedWorkers TransitionRuns

section
variable (texts : EvidenceTexts) (storable : ExternalValidationReference → Bool)

-- A delivery that has inserted its validation does not find its message rejected in
-- the meantime.
def unrejected (s : EvidenceStore) : EvidenceWorker → EvidenceEvent → Prop
  | .delivering d transaction (.insertReceipt _),_ => transaction.writes ≠ [] →
      ∀ receipt ∈ s.tables.externalValidationReceipt d.messageId, d.Matches texts receipt → receipt.outcome ≠ .rejected
  | _,_ => True

instance (s : EvidenceStore) (worker : EvidenceWorker) (event : EvidenceEvent) :
    Decidable (unrejected texts s worker event) := by
  unfold unrejected
  split <;> infer_instance

def unrejectedProgram : Program EvidenceStore EvidenceWorker EvidenceChange EvidenceEvent :=
  (evidenceProgram texts storable).restrict (fun _ _ => True) (unrejected texts)

end

def AcceptedIn (t : EvidenceTables) (messageId : Uuid) : Prop :=
  ∃ receipt ∈ t.receipts, receipt.messageId = messageId ∧ ∃ canonicalId, receipt.outcome = .accepted canonicalId

def AllAccepted (t : EvidenceTables) : Prop := ∀ row ∈ t.validations, AcceptedIn t row.id

section
variable (texts : EvidenceTexts) (s : EvidenceStore)

def DeliveryAccepts (d : Delivery) (transaction : Transaction) : DeliveryPhase → Prop
  | .lostReceipt => transaction.writes ≠ [] → ∃ receipt ∈ s.tables.receipts, receipt.messageId = d.messageId ∧
      (d.Matches texts receipt → receipt.outcome ≠ .rejected)
  | .rejection | .insertRejection | .lostRejection => transaction.writes = []
  | .committing _ => ∀ row ∈ validationsOf transaction.writes, AcceptedIn (transaction.view s) row.id
  | _ => True

def EvidenceWorker.Accepts : EvidenceWorker → Prop
  | .delivering d transaction phase => transaction.id ∈ s.locks.live → DeliveryAccepts texts s d transaction phase
  | _ => True

end

section
variable {texts : EvidenceTexts} {storable : ExternalValidationReference → Bool} {s next : EvidenceStore}
  {transaction : Transaction} {d : Delivery} {worker : EvidenceWorker}

theorem AcceptedIn.later {t t' : EvidenceTables} (receipts : t.receipts ⊆ t'.receipts) (accepted : AcceptedIn t messageId) :
    AcceptedIn t' messageId := by
  obtain ⟨receipt,stored,rest⟩ := accepted
  exact ⟨receipt,receipts stored,rest⟩

theorem view_receipts_later (grown : s.tables.receipts <+: next.tables.receipts) :
    (transaction.view s).receipts ⊆ (transaction.view next).receipts := by
  unfold Transaction.view
  rw [applyAll_receipts,applyAll_receipts]
  intro receipt member
  rcases List.mem_append.mp member with stored | own
  · exact List.mem_append_left _ (grown.subset stored)
  · exact List.mem_append_right _ own

theorem DeliveryAccepts.later (grown : s.tables.receipts <+: next.tables.receipts)
    (accepts : DeliveryAccepts texts s d transaction phase) : DeliveryAccepts texts next d transaction phase := by
  cases phase with
  | lostReceipt =>
    intro some
    obtain ⟨receipt,stored,rest⟩ := accepts some
    exact ⟨receipt,grown.subset stored,rest⟩
  | committing answer => exact fun row member => (accepts row member).later (view_receipts_later grown)
  | rejection | insertRejection | lostRejection => exact accepts
  | _ => trivial

theorem EvidenceWorker.Accepts.later (grown : s.tables.receipts <+: next.tables.receipts)
    (live : ∀ transaction ∈ worker.transaction, transaction.id ∈ next.locks.live → transaction.id ∈ s.locks.live)
    (accepts : worker.Accepts texts s) : worker.Accepts texts next := by
  cases worker with
  | delivering d transaction phase => exact fun alive => (accepts (live transaction rfl alive)).later grown
  | _ => trivial

theorem validationFromReceipt_stale {t : EvidenceTables} (found : t.externalValidationReceipt d.messageId = some receipt)
    (raised : validationFromReceipt texts t d = .error .stale) : d.Matches texts receipt ∧ receipt.outcome = .rejected := by
  unfold validationFromReceipt at raised
  rw [found] at raised
  dsimp only at raised
  by_cases same : d.Matches texts receipt
  · rw [require,if_pos same] at raised
    cases outcome : receipt.outcome with
    | rejected => exact ⟨same,rfl⟩
    | accepted canonicalId =>
      rw [outcome] at raised
      simp only [bind,Except.bind] at raised
      cases there : t.externalValidationById canonicalId with
      | none =>
        rw [there] at raised
        cases raised
      | some canonical =>
        rw [there] at raised
        simp only [orRaise,require] at raised
        split at raised
        · rename_i read
          split at read
          · cases read
          · cases read
            cases raised
        · cases read : validationFromRow texts canonical with
          | error error =>
            rw [read] at raised
            cases raised
            cases validationFromRow_invalid canonical _ read
          | ok validation =>
            rw [read] at raised
            cases raised
  · rw [require,if_neg same] at raised
    cases raised

theorem replayed_accepted {t : EvidenceTables} (read : validationFromReceipt texts t d = .ok (some validation)) :
    AcceptedIn t d.messageId := by
  unfold validationFromReceipt at read
  split at read
  · cases read
  · rename_i receipt found
    obtain ⟨_,read⟩ := require_bind_ok.mp read
    split at read
    · cases read
    · rename_i canonicalId outcome
      obtain ⟨stored,message⟩ := receipt_stored found
      exact ⟨receipt,stored,message,canonicalId,outcome⟩

-- EvidenceStale leaves no validation behind.
theorem stale_empty (valid : StoreValid texts s) (facts : DeliveryFacts texts s d transaction.writes phase)
    (accepts : DeliveryAccepts texts s d transaction phase)
    (ran : d.statement texts storable now transaction s phase = .raises .stale) (accepting : phase.accepting = true) :
    transaction.writes = [] := by
  cases phase with
  | receipt | validationById | context => exact facts
  | insertValidation => exact facts.1
  | lostById | lostByHash => exact facts.1
  | insertReceipt canonical =>
    dsimp only [Delivery.statement] at ran
    split at ran
    · exact absurd ran insertReceipt_raises
    · cases ran
  | reading canonical =>
    rcases checked_raises.mp ran with raised | ⟨_,_,ran⟩
    · cases validationFromRow_invalid canonical _ raised
    · cases ran
  | lostReceipt =>
    rcases checked_raises.mp ran with raised | ⟨replayed,_,ran⟩
    · by_contra some
      obtain ⟨receipt,stored,message,outcome⟩ := accepts some
      have found : (transaction.view s).externalValidationReceipt d.messageId = Option.some receipt :=
        (facts.1.receipt d.messageId).trans (receipt_found valid.tables.keys stored message)
      obtain ⟨same,rejected⟩ := validationFromReceipt_stale found raised
      exact outcome same rejected
    · cases replayed <;> cases ran
  | rejection | insertRejection | lostRejection | committing => cases accepting

theorem own_rows {writes : List EvidenceWrite} (tried : Tried texts s d writes) : ∀ row ∈ validationsOf writes, row.id = d.messageId := by
  intro row member
  obtain ⟨workspaceId,rfl,_⟩ := tried.validations row member
  rfl

-- What goes on keeps to it.
theorem accepts_goes (facts : DeliveryFacts texts s d transaction.writes phase)
    (accepts : DeliveryAccepts texts s d transaction phase)
    (allowed : unrejected texts s (.delivering d transaction phase) event)
    (ran : d.statement texts storable now transaction s phase = .goes keys writes next') :
    DeliveryAccepts texts s d (transaction.write writes) next' := by
  cases phase with
  | receipt =>
    obtain ⟨replayed,_,ran⟩ := checked_goes.mp ran
    cases replayed with
    | none =>
      cases ran
      trivial
    | some validation =>
      cases ran
      have empty : transaction.writes = [] := facts
      intro row member
      rw [write_nothing,empty] at member
      cases member
  | validationById =>
    dsimp only [Delivery.statement] at ran
    split at ran
    · obtain ⟨_,_,_,_,rfl⟩ := sameValidation_goes ran
      trivial
    · cases ran
      trivial
  | context =>
    obtain ⟨_,_,ran⟩ := checked_goes.mp ran
    cases ran
    trivial
  | insertValidation workspaceId =>
    dsimp only [Delivery.statement,Delivery.insertExternalValidation] at ran
    split at ran
    · split at ran
      · cases ran
        trivial
      · split at ran
        · split at ran
          · obtain ⟨_,_,_,rfl⟩ := holding_goes.mp ran
            trivial
          · cases ran
        · split at ran <;> cases ran
    · cases ran
  | lostById =>
    dsimp only [Delivery.statement] at ran
    split at ran
    · obtain ⟨_,_,_,_,rfl⟩ := sameValidation_goes ran
      trivial
    · cases ran
      trivial
  | lostByHash =>
    dsimp only [Delivery.statement] at ran
    split at ran
    · cases ran
      trivial
    · cases ran
  | insertReceipt canonical =>
    have tried := Chosen.tried facts
    dsimp only [Delivery.statement] at ran
    split at ran
    · unfold Delivery.insertExternalValidationReceipt at ran
      split at ran
      · rename_i receipt found
        cases ran
        intro some
        rw [write_nothing] at some
        have stored := (tried.receipt d.messageId).symm.trans found
        exact ⟨receipt,(receipt_stored stored).1,(receipt_stored stored).2,allowed some receipt stored⟩
      · obtain ⟨_,_,_,rfl⟩ := holding_goes.mp ran
        trivial
    · cases ran
  | reading canonical =>
    obtain ⟨before,now',inserted,chosen,_⟩ := facts
    obtain ⟨_,_,ran⟩ := checked_goes.mp ran
    cases ran
    intro row member
    rw [write_nothing,inserted] at member
    unfold validationsOf at member
    rw [List.filterMap_append,List.filterMap_cons,List.filterMap_nil,List.append_nil] at member
    refine ⟨d.receiptRow texts (.accepted canonical.id) now',?_,(own_rows chosen.tried row member).symm,canonical.id,rfl⟩
    rw [write_nothing,Transaction.view,applyAll_receipts,inserted]
    unfold receiptsOf
    simp
  | lostReceipt =>
    obtain ⟨tried,_⟩ := facts
    obtain ⟨replayed,read,ran⟩ := checked_goes.mp ran
    cases replayed with
    | none => cases ran
    | some validation =>
      cases ran
      intro row member
      rw [write_nothing] at member ⊢
      rw [own_rows tried row member]
      exact replayed_accepted read
  | rejection =>
    have empty : transaction.writes = [] := accepts
    dsimp only [Delivery.statement] at ran
    split at ran
    · obtain ⟨_,_,_,rfl,rfl⟩ := sameRejection_goes ran
      intro row member
      rw [write_nothing,empty] at member
      cases member
    · cases ran
      rw [write_nothing]
      exact empty
  | insertRejection =>
    have empty : transaction.writes = [] := accepts
    dsimp only [Delivery.statement,Delivery.insertExternalValidationReceipt] at ran
    split at ran
    · cases ran
      rw [write_nothing]
      exact empty
    · obtain ⟨_,_,rfl,rfl⟩ := holding_goes.mp ran
      intro row member
      unfold Transaction.write at member
      rw [empty] at member
      cases member
  | lostRejection =>
    have empty : transaction.writes = [] := accepts
    dsimp only [Delivery.statement] at ran
    split at ran
    · obtain ⟨_,_,_,rfl,rfl⟩ := sameRejection_goes ran
      intro row member
      rw [write_nothing,empty] at member
      cases member
    · cases ran
  | committing answer =>
    cases ran
    intro row member
    rw [write_nothing] at member ⊢
    exact accepts row member

theorem commit_accepted (all : AllAccepted s.tables)
    (own : ∀ row ∈ validationsOf transaction.writes, AcceptedIn (transaction.view s) row.id) :
    AllAccepted (s.commit transaction).tables := by
  intro row member
  have member : row ∈ (s.tables.applyAll transaction.writes).validations := member
  rw [applyAll_validations] at member
  rcases List.mem_append.mp member with stored | new
  · exact (all row stored).later receipts_view.subset
  · exact own row new

theorem RequestFacts.validations {envelope : IntegrationBaselineRequestEnvelope} {writes : List EvidenceWrite}
    (facts : RequestFacts s envelope writes phase) : validationsOf writes = [] := by
  cases facts <;> rfl

theorem GenerationDone.validations {g : Generation} (done : GenerationDone texts s g transaction generated) :
    validationsOf transaction.writes = [] := by
  cases done with
  | replayed none | failed none => rw [none]; rfl
  | stored claimed before now written evidenced =>
    rw [written]
    cases evidenced <;> simp [validationsOf,generatedWrites,List.filterMap_map,List.filterMap_append]
  | recorded claimed now availableAt reason written => rw [written]; rfl

-- A step takes no acceptance back and stores no validation without one.
theorem accepts_stepped (valid : StoreValid texts s) (all : AllAccepted s.tables) (knows : Knows texts s worker)
    (accepts : worker.Accepts texts s) (allowed : unrejected texts s worker event)
    (ran : evidenceProgress texts storable s worker event = some done) :
    AllAccepted done.store.tables ∧ done.worker.Accepts texts done.store := by
  unfold evidenceProgress at ran
  split at ran
  · split at ran <;> cases ran
    · exact ⟨all,fun _ => trivial⟩
    · exact ⟨all,trivial⟩
  · cases ran
    exact ⟨all,trivial⟩
  · cases ran
    exact ⟨all,trivial⟩
  · rename_i d transaction phase input
    split at ran
    · rename_i live
      obtain ⟨_,_,facts⟩ := knows.facts transaction rfl live
      by_cases last : ∃ answer, phase = .committing answer
      · obtain ⟨answer,rfl⟩ := last
        cases ran
        exact ⟨commit_accepted all (accepts live),trivial⟩
      · rw [delivery_step fun answer same => last ⟨answer,same⟩] at ran
        split at ran
        · cases ran
        · rename_i error raised
          split at ran
          · rename_i stale
            cases ran
            obtain ⟨rfl,accepting⟩ := stale
            exact ⟨all,fun _ => stale_empty valid facts (accepts live) raised accepting⟩
          · cases ran
            exact ⟨all,trivial⟩
        · rename_i keys writes next' went
          cases ran
          exact ⟨all,fun _ => (accepts_goes facts (accepts live) allowed went).later (List.prefix_refl _)⟩
    · cases ran
      exact ⟨all,trivial⟩
  · rename_i envelope transaction phase input
    split at ran
    · rename_i live
      obtain ⟨_,facts⟩ := knows.facts transaction rfl live
      by_cases last : phase = .committing
      · subst last
        cases ran
        refine ⟨commit_accepted all fun row member => ?_,trivial⟩
        rw [RequestFacts.validations facts] at member
        cases member
      · rw [request_step last] at ran
        split at ran <;> cases ran <;> exact ⟨all,trivial⟩
    · cases ran
      exact ⟨all,trivial⟩
  · rename_i g transaction phase input
    split at ran
    · rename_i live
      obtain ⟨_,facts⟩ := knows.facts transaction rfl live
      by_cases last : ∃ generated, phase = .committing generated
      · obtain ⟨generated,rfl⟩ := last
        cases ran
        refine ⟨commit_accepted all fun row member => ?_,trivial⟩
        rw [GenerationDone.validations facts] at member
        cases member
      · rw [generation_step fun generated same => last ⟨generated,same⟩] at ran
        split at ran
        · cases ran
        · split at ran <;> cases ran <;> exact ⟨all,trivial⟩
        · cases ran
          exact ⟨all,trivial⟩
    · cases ran
      exact ⟨all,trivial⟩
  · cases ran

theorem change_accepted (changed : s.change change = some next) :
    next.tables = s.tables ∧ next.locks.live ⊆ s.locks.live := by
  cases change with
  | mergeRequests m =>
    dsimp only [EvidenceStore.change] at changed
    split at changed
    · cases changed
      exact ⟨rfl,List.Subset.refl _⟩
    · cases changed
  | abort id =>
    cases changed
    exact ⟨rfl,fun _ live => (finish_live.mp live).2⟩

end

variable (texts : EvidenceTexts) (storable : ExternalValidationReference → Bool)

def acceptanceContract : Contract (unrejectedProgram texts storable) where
  valid s := StoreValid texts s ∧ AllAccepted s.tables
  holds s worker := Knows texts s worker ∧ worker.Accepts texts s
  apart := Apart
  rely := Grows
  symmetric := apart_symmetric
  idle _ _ := ⟨idle_knows,trivial⟩
  idle_apart := apart_idle
  transacted s change next valid changed := by
    have changed := (Program.restrict_transact _ changed).2
    obtain ⟨validNext,grown,kept⟩ := change_stepped valid.1 changed
    obtain ⟨same,live⟩ := change_accepted changed
    refine ⟨⟨validNext,same ▸ valid.2⟩,grown,fun worker known => ⟨kept worker known.1,?_⟩⟩
    exact known.2.later grown.receipts fun _ _ alive => live alive
  acted s worker event next worker' valid known ran := by
    obtain ⟨allowed,ran⟩ := Program.restrict_act _ ran
    obtain ⟨validNext,grown,knows,others⟩ := (evidenceContract texts storable).acted _ _ _ _ _ valid.1 known.1 ran
    obtain ⟨done,progressed,same⟩ := Option.map_eq_some_iff.mp ran
    cases same
    obtain ⟨all,accepts⟩ := accepts_stepped valid.1 valid.2 known.1 known.2 allowed progressed
    have stepped := evidence_stepped valid.1 known.1 progressed
    refine ⟨⟨validNext,all⟩,grown,⟨knows,accepts⟩,fun other known' apart => ?_⟩
    obtain ⟨knows',apart'⟩ := others other known'.1 apart
    refine ⟨⟨knows',known'.2.later grown.receipts fun transaction member alive => ?_⟩,apart'⟩
    have differs : transaction.id ≠ worker.stepsAs s := by
      unfold EvidenceWorker.stepsAs
      cases mine : worker.transaction with
      | none => exact Nat.ne_of_lt (known'.1.begun transaction member).1
      | some own => exact (apart own mine transaction member).symm
    exact (stepped.others _ differs (known'.1.begun transaction member).1).live alive

variable {texts} {storable}

-- Of a run whose steps all keep to `unrejected`.
theorem stored_validations_accepted
    (path : Runs (Enabled (unrejectedProgram texts storable).advance) evidenceInitial labels s) :
    (∀ row ∈ s.store.tables.validations, AcceptedIn s.store.tables row.id) ∧
    (∀ receipt ∈ s.store.tables.receipts, receipt.outcome = .rejected →
      ∀ row ∈ s.store.tables.validations, row.id ≠ receipt.messageId) ∧
    ∀ workItemId bindingId targetCommitSha integrationMergeCommitSha row,
      s.store.tables.latestExternalValidation workItemId bindingId targetCommitSha integrationMergeCommitSha = some row →
        AcceptedIn s.store.tables row.id := by
  have valid := (acceptanceContract texts storable).runs_valid path
    ((acceptanceContract texts storable).initial_valid ⟨initial_valid,fun _ member => by cases member⟩)
  have all : AllAccepted s.store.tables := valid.store.2
  have keys : s.store.tables.keys.Nodup := valid.store.1.tables.keys
  refine ⟨all,?_,?_⟩
  · intro receipt stored rejected row member same
    obtain ⟨receipt',stored',message,canonicalId,outcome⟩ := all row member
    have one : receipt' = receipt :=
      List.inj_on_of_nodup_map (keys_unique keys).receipts stored' stored (message.trans same)
    rw [one,rejected] at outcome
    cases outcome
  · intro _ _ _ _ row found
    exact all row (List.mem_of_mem_filter (RankedRows.top_mem found))

noncomputable abbrev sampleUnrejected := unrejectedProgram sampleReading fun _ => true

-- Two workers of one message have found neither receipt nor validation when the first
-- commits its own; the second then loses both of its INSERTs.
def sampleDeliveries : List EvidenceLabel :=
  [.transact (.mergeRequests sampleMergeRequests),.act 0 (.deliver sampleValidation),.act 1 (.deliver sampleValidation)] ++
    List.replicate 3 (sampleStatement 1) ++ List.replicate 7 (sampleStatement 0) ++ List.replicate 4 (sampleStatement 1)

theorem stored_validations_accepted_once : ∃ s : EvidenceSystem,
    Runs (Enabled sampleUnrejected.advance) evidenceInitial sampleDeliveries s ∧
    answers sampleReading (fun _ => true) s (sampleStatement 1) =
      some (.delivered sampleValidation (.accepted sampleAccepted)) ∧
    s.store.tables.validations.length = 1 ∧
    ∀ row ∈ s.store.tables.validations, AcceptedIn s.store.tables row.id := by
  have done : (execute sampleUnrejected.advance evidenceInitial sampleDeliveries).any (fun s =>
      answers sampleReading (fun _ => true) s (sampleStatement 1) =
        some (.delivered sampleValidation (.accepted sampleAccepted)) ∧
      s.store.tables.validations.length = 1) = true := by decide +kernel
  obtain ⟨s,path,stored⟩ := execute_any done
  obtain ⟨answered,single⟩ := of_decide_eq_true stored
  exact ⟨s,path,answered,single,(stored_validations_accepted path).1⟩

-- One worker reads the merge request before it is observed as merged and another one
-- of the same message after it: the rejection of the first is there when the second
-- has inserted its validation.
def sampleLateMerge : List EvidenceLabel :=
  [.transact (.mergeRequests {sampleMergeRequests with observations := []}),.act 0 (.deliver sampleValidation),
    .act 1 (.deliver sampleValidation)] ++ List.replicate 2 (sampleStatement 1) ++ List.replicate 6 (sampleStatement 0) ++
  [.transact (.mergeRequests sampleMergeRequests)] ++ List.replicate 6 (sampleStatement 1)

theorem rejected_validation_stored : ∃ s : EvidenceSystem,
    Runs (Enabled sampleAccepting.advance) evidenceInitial sampleLateMerge s ∧
    (s.store.tables.validations.map ExternalValidationRow.id = [70] ∧
      s.store.tables.receipts = [⟨70,sampleDigest (.request sampleValidation.content),.rejected,1,10,140⟩]) ∧
    (s.store.tables.latestExternalValidation 10 40 sampleSha sampleSha).map ExternalValidationRow.id = some 70 := by
  have done : (execute sampleAccepting.advance evidenceInitial sampleLateMerge).any (fun s =>
      (s.store.tables.validations.map ExternalValidationRow.id = [70] ∧
        s.store.tables.receipts = [⟨70,sampleDigest (.request sampleValidation.content),.rejected,1,10,140⟩]) ∧
      (s.store.tables.latestExternalValidation 10 40 sampleSha sampleSha).map ExternalValidationRow.id = some 70) = true := by
    decide +kernel
  obtain ⟨s,path,stored⟩ := execute_any done
  obtain ⟨tables,latest⟩ := of_decide_eq_true stored
  exact ⟨s,path,tables,latest⟩

end EngineeringPlatform.Evidence
