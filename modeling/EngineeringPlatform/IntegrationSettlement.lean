import EngineeringPlatform.IntegrationOutcomes
namespace EngineeringPlatform.Integration
open Checked ClaimedRows SharedWorkers EngineeringPlatform.SourceControl
variable {policy : IntegrationPolicy} {s next : IntegrationStore} {holder : Option (Uuid × Nat)}

theorem Seen.asked (seen : Seen s request) : Asked s request.payloadHash := by
  obtain ⟨row,found,moved⟩ := seen
  exact ⟨_,row,found,moved.same.payloadHash⟩

theorem insertMergeRequestBinding_ok (ran : insertMergeRequestBinding binding s = .ok next) :
    (∀ other ∈ s.bindings, other.id ≠ binding.id ∧ other.createEffectId ≠ binding.createEffectId) ∧
      next = {s with bindings := s.bindings ++ [binding]} := by
  simp only [insertMergeRequestBinding,require_bind_ok,pure_ok] at ran
  obtain ⟨keyed,once,_,_,rfl⟩ := ran
  refine ⟨fun other member => ⟨fun same => ?_,fun same => ?_⟩,rfl⟩
  · exact bindingById_ne_none.mpr ⟨other,member,same⟩ keyed
  · exact bindingByEffect_ne_none.mpr ⟨other,member,same⟩ once

theorem replaceBinding_replaced (ran : replaceBinding policy env binding snapshot s = .ok (middle,fact))
    (taken : transitionEffect binding.createEffectId expected attempts change middle = some (next,new))
    (moves : ∀ old : IntegrationEffect, old.state = expected → EffectMoves old (change old))
    (current : binding.supersededAt = none) :
    ∃ old, Replaced s next env.now binding old new ∧ old.state = expected ∧ new = change old := by
  unfold replaceBinding at ran
  obtain ⟨inserted,accepted,ran⟩ := bind_ok.mp ran
  obtain ⟨fresh,rfl⟩ := insertMergeRequestBinding_ok accepted
  have aside := appendMergeRequestObservation_aside (observation policy env.observationId binding.id snapshot env.now)
    {supersedeCurrentIntegrationBinding binding.workItemId env.now s with
      bindings := (supersedeCurrentIntegrationBinding binding.workItemId env.now s).bindings ++ [binding]}
  rw [pure_ok.mp ran] at aside
  obtain ⟨old,found,state,_,rfl,rfl⟩ := transitionEffect_some taken
  rw [aside.effects] at found
  refine ⟨old,⟨aside.outbox,aside.revisions,aside.inbox,aside.effectIds,aside.observations,aside.proofs,aside.callbacks,found,
    moves old state,?_,aside.bindings,current,fun other member => ?_⟩,state,rfl⟩
  · change Table.put _ _ _ = _
    rw [aside.effects]
    rfl
  · obtain ⟨kept,there,moved⟩ := supersede_moves binding.workItemId env.now member
    obtain ⟨id,created⟩ := fresh kept there
    exact ⟨fun same => id (moved.id.trans same),fun same => created (moved.createEffectId.trans same)⟩

-- The binding that a settled create effect leaves is the one its proof speaks of.
theorem Replaced.bound (valid : StoreValid policy s) (replaced : Replaced s next now binding old new)
    (operation : old.operation = .createIntegrationMr) (workItem : old.workItemId = binding.workItemId)
    (requirement : old.requirementId = binding.requirementId) (repository : old.repositoryId = binding.repositoryId)
    (said : proof ∈ s.proofs) (proven : Proven binding proof)
    (settled : settledCreate proof.snapshot.state = some (new.state,new.lastErrorCode))
    (quiet : new.callbackState ≠ .acked) : Bound policy s next now binding old new proof := by
  have plan := replaced.moves.plan
  have final := settledCreate_terminal settled
  have stored : next.effects binding.createEffectId = some new := by
    rw [replaced.effects]
    exact Table.put_same _ _ _
  have rowOld := (valid.rows _ old replaced.found).kept replaced.grows
  have there : binding ∈ next.bindings := replaced.bindings ▸ List.mem_append_right _ (List.mem_singleton_self _)
  refine ⟨replaced,⟨stored,plan.operation.trans operation,plan.workItemId.trans workItem,
    plan.requirementId.trans requirement,plan.repositoryId.trans repository,replaced.proofs _ said,proven,settled⟩,?_⟩
  refine rowOld.open plan quiet (fun absurd => ?_) (fun blocked => ?_) (fun _ => ?_) (fun undecided => ?_)
    fun absurd => ?_
  · rw [absurd] at final
    cases final
  · rw [blocked] at settled
    cases state : proof.snapshot.state <;> simp [state,settledCreate] at settled <;> simp [← settled]
  · unfold replayBinding
    simp only [plan.operation.trans operation]
    exact bindingByEffect_ne_none.mpr ⟨binding,there,(plan.id.trans rowOld.identified).symm⟩
  · cases (final_undecided final).symm.trans undecided
  · cases absurd.symm.trans (plan.operation.trans operation)

theorem Bound.known (bound : Bound policy s next now binding old new proof) : Known next new :=
  ⟨new,bound.valid.identified.symm ▸ bound.made.stored,.refl new⟩

theorem Bound.names (bound : Bound policy s next now binding old new proof) : Names next new (some binding.id) := by
  intro id same
  cases same
  simp only [bound.made.operation]
  exact ⟨binding,bound.replaced.bindings ▸ List.mem_append_right _ (List.mem_singleton_self _),rfl,
    bound.valid.identified.symm⟩

-- The effect of a create request that the worker has under way.
structure Underway (s : IntegrationStore) (request : DeliveryRequest) (admission : Admission)
    (effect : IntegrationEffect) : Prop where
  ours : Ours s request effect
  operation : effect.operation = .createIntegrationMr
  workItem : effect.workItemId = admission.context.workItemId
  requirement : effect.requirementId = admission.context.requirementId
  repository : effect.repositoryId = admission.context.repositoryId

theorem Underway.kept (underway : Underway s request admission effect) (grows : Grows s next) :
    Underway next request admission effect := {underway with ours := underway.ours.kept grows}

theorem Underway.moved (underway : Underway s request admission old) (plan : SamePlan old new) (known : Known next new) :
    Underway next request admission new :=
  ⟨underway.ours.moved plan known,plan.operation.trans underway.operation,plan.workItemId.trans underway.workItem,
    plan.requirementId.trans underway.requirement,plan.repositoryId.trans underway.repository⟩

theorem commitFinalFacts_writes (valid : StoreValid policy s) (injective : Function.Injective policy.payloadHash)
    (seen : Seen s request) (underway : Underway s request admission effect) (said : proof ∈ s.proofs)
    (own : proof.effectId = effect.id) (settled : settledCreate proof.snapshot.state = some (state,reason))
    (ran : commitFinalFacts policy env request admission effect proof state reason s = .ok (next,row)) :
    Writes policy holder s next ∧ Ours next request row ∧ Names next row (some env.bindingId) := by
  unfold commitFinalFacts at ran
  obtain ⟨⟨middle,fact⟩,replacing,ran⟩ := bind_ok.mp ran
  obtain ⟨⟨after,row⟩,taken,ran⟩ := orRaise_bind_ok.mp ran
  obtain ⟨_,ran⟩ := require_bind_ok.mp ran
  obtain ⟨last,completed,ran⟩ := bind_ok.mp ran
  cases pure_ok.mp ran
  have final := settledCreate_terminal settled
  obtain ⟨old,replaced,inFlight,rfl⟩ := replaceBinding_replaced replacing taken
    (fun _ inFlight => settle_moves (congrArg EffectState.terminal inFlight) final reason env.now) rfl
  obtain ⟨stored,there,since⟩ := underway.ours.known
  cases there.symm.trans replaced.found
  obtain ⟨inbox,running,processing,_⟩ := updateDeliveryRequest_ok completed
  rw [replaced.inbox] at running
  have quiet := silent valid injective seen underway.ours replaced.found (.inr inFlight) running processing
  have bound := replaced.bound valid (since.plan.operation.trans underway.operation)
    (since.plan.workItemId.trans underway.workItem) (since.plan.requirementId.trans underway.requirement)
    (since.plan.repositoryId.trans underway.repository) said ⟨own,rfl,rfl,rfl,rfl,rfl,rfl⟩ settled quiet
  have binding : Writes policy holder s after := (Write.bound bound).single
  have mine := underway.ours.moved (since.plan.trans replaced.moves.plan) bound.known
  have started : (old.settle state reason env.now).state ≠ .planned := by
    change state ≠ .planned
    rintro rfl
    cases final
  obtain ⟨(completing : Writes policy holder _ next),_⟩ := completeDeliveryRequest_writes
    (fun row stored => .inr (mine.served started (seen.kept binding.grows) stored)) completed
  exact ⟨binding.trans completing,mine.kept completing.grows,bound.names.kept completing.grows⟩

theorem completeCreateReconciliation_writes (valid : StoreValid policy s) (known : Known s effect)
    (operation : effect.operation = .createIntegrationMr) (said : proof ∈ s.proofs) (own : proof.effectId = effect.id)
    (settled : settledCreate proof.snapshot.state = some (state,reason))
    (ran : completeCreateReconciliation policy env context effect proof state reason s = .ok (next,row)) :
    Writes policy holder s next ∧ Known next row ∧ SamePlan effect row ∧ Names next row (some env.bindingId) ∧
      row.state = state ∧ row.lastErrorCode = reason := by
  unfold completeCreateReconciliation at ran
  obtain ⟨⟨middle,fact⟩,replacing,ran⟩ := bind_ok.mp ran
  obtain ⟨⟨after,row⟩,taken,ran⟩ := orRaise_bind_ok.mp ran
  obtain ⟨_,ran⟩ := require_bind_ok.mp ran
  cases pure_ok.mp ran
  have final := settledCreate_terminal settled
  obtain ⟨old,replaced,held,rfl⟩ := replaceBinding_replaced replacing taken
    (fun _ held => reconcile_moves (congrArg EffectState.terminal held) final reason env.now) rfl
  obtain ⟨stored,there,since⟩ := known
  cases there.symm.trans replaced.found
  have bound := replaced.bound valid (since.plan.operation.trans operation) since.plan.workItemId
    since.plan.requirementId since.plan.repositoryId said ⟨own,rfl,rfl,rfl,rfl,rfl,rfl⟩ settled
    (by simp [IntegrationEffect.reconcile])
  exact ⟨(Write.bound bound).single,bound.known,since.plan.trans replaced.moves.plan,bound.names,
    rfl,rfl⟩

-- A reconciled effect opens its callback again.
theorem reconcile_writes (valid : StoreValid policy s) (known : Known s effect) (final : state.terminal = true)
    (reasoned : state = .blocked → reason ≠ none)
    (bound : ∀ old row, RowValid policy s effect.id old → SamePlan effect old → SamePlan old row → row.state = state →
      row.lastErrorCode = reason → row.namesBinding = true → replayBinding row s ≠ none)
    (merged : ∀ row, SamePlan effect row → row.operation = .mergeIntegrationMr → state = .succeeded →
      MergedAt policy s row)
    (taken : transitionEffect effect.id .reconciliation effect.attempts (IntegrationEffect.reconcile state reason now) s =
      some (next,row)) :
    Writes policy holder s next ∧ Known next row ∧ row.state = state ∧ row.lastErrorCode = reason ∧
      SamePlan effect row := by
  obtain ⟨old,found,held,_,rfl,rfl⟩ := transitionEffect_some taken
  obtain ⟨stored,there,since⟩ := known
  cases there.symm.trans found
  have opened : old.state.terminal = false := by
    rw [held]
    rfl
  have plan : SamePlan old (old.reconcile state reason now) := ⟨rfl,rfl,rfl,rfl,rfl,rfl,rfl,rfl⟩
  have rowOld := valid.rows _ old found
  have settled : RowValid policy s effect.id (old.reconcile state reason now) := by
    refine rowOld.open plan (by simp [IntegrationEffect.reconcile]) (fun planned => ?_) reasoned
      (bound old _ rowOld since.plan plan rfl rfl) (fun undecided => ?_) (merged _ (since.plan.trans plan))
    · change state = .planned at planned
      rw [planned] at final
      cases final
    · have decided := final_undecided final
      cases decided.symm.trans undecided
  obtain ⟨writes,known⟩ := effect_write valid.rows found (reconcile_moves opened final reason now) settled
  exact ⟨writes,known,rfl,rfl,since.plan.trans plan⟩

theorem completeReconciliationBlock_writes (valid : StoreValid policy s) (known : Known s effect)
    (spared : Spared effect reason) (taken : completeReconciliationBlock effect reason now s = some (next,row)) :
    Writes policy holder s next ∧ Known next row ∧ row.state = .blocked ∧ row.lastErrorCode = some reason ∧
      SamePlan effect row :=
  reconcile_writes valid known rfl (fun _ => Option.some_ne_none _)
    (fun old row valid since plan state recorded => valid.block_bound plan
      (spared.imp_left fun operation => since.operation.trans operation) state recorded)
    (fun _ _ _ absurd => by cases absurd) taken

theorem completeMergeReconciliation_writes (valid : StoreValid policy s) (known : Known s effect)
    (operation : effect.operation = .mergeIntegrationMr)
    (merged : reason = none → effect.payload = .merge bindingId snapshot.headSha ∧ snapshot.state = .merged)
    (ran : completeMergeReconciliation policy env bindingId effect snapshot (settledState reason) reason s =
      .ok (next,row)) :
    Writes policy holder s next ∧ Known next row ∧ row.state = settledState reason ∧ row.lastErrorCode = reason ∧
      SamePlan effect row := by
  unfold completeMergeReconciliation at ran
  obtain ⟨recorded,ran⟩ := require_bind_ok.mp ran
  have taken := orRaise_ok.mp ran
  have aside := appendMergeRequestObservation_aside (observation policy env.observationId bindingId snapshot env.now) s
  have observed : Observed policy (appendReadback policy env bindingId snapshot s).1 bindingId snapshot := by
    rcases recorded with appended | repeated
    · exact ⟨_,appended_recorded _ _ appended,rfl,rfl⟩
    · obtain ⟨fact,latest,same⟩ := Option.any_eq_true _ _ |>.mp repeated
      have member := List.mem_filter.mp (RankedRows.top_mem latest)
      exact ⟨fact,member.1,by simpa using member.2,by simpa using same⟩
  have writes : Writes policy holder s (appendReadback policy env bindingId snapshot s).1 := Aside.write aside
  have final : (settledState reason).terminal = true := by cases reason <;> rfl
  obtain ⟨(settling : Writes policy holder _ next),known,state,code,plan⟩ := reconcile_writes (writes.valid valid)
    (known.kept aside.grows) final (fun blocked => by cases reason <;> simp_all [settledState])
    (fun old row valid since plan _ _ _ => valid.replayed plan
      (plan.operation.trans (since.operation.trans operation)))
    (fun row since _ succeeded => by
      have none : reason = none := by cases reason <;> simp_all [settledState]
      obtain ⟨payload,state⟩ := merged none
      exact ⟨bindingId,snapshot,since.payload.trans payload,state,observed⟩) taken
  exact ⟨writes.trans settling,known,state,code,plan⟩

end EngineeringPlatform.Integration
