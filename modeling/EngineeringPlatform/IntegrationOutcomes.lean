import EngineeringPlatform.IntegrationCommits
namespace EngineeringPlatform.Integration
open Checked ClaimedRows SharedWorkers EngineeringPlatform.SourceControl
variable {policy : IntegrationPolicy} {s next : IntegrationStore} {holder : Option (Uuid × Nat)}

theorem Aside.refl (s : IntegrationStore) : Aside s s :=
  ⟨rfl,rfl,rfl,rfl,rfl,rfl,fun _ member => member,fun _ member => member,rfl⟩

theorem Aside.write (aside : Aside s next) : Writes policy holder s next := (Write.aside aside).single

theorem Aside.grows (aside : Aside s next) : Grows s next :=
  (Write.aside aside : Write ⟨fun _ => "",fun _ => "",fun now _ => now⟩ none s next).grows

theorem appendMergeRequestObservation_aside (row : MergeRequestObservation) (s : IntegrationStore) :
    Aside s (appendMergeRequestObservation row s).1 := by
  unfold appendMergeRequestObservation
  split
  · exact .refl s
  · exact ⟨rfl,rfl,rfl,rfl,rfl,rfl,fun _ member => List.mem_append_left _ member,fun _ member => member,rfl⟩

theorem appended_recorded (row : MergeRequestObservation) (s : IntegrationStore)
    (appended : (appendMergeRequestObservation row s).2 ≠ none) :
    row ∈ (appendMergeRequestObservation row s).1.observations := by
  unfold appendMergeRequestObservation at appended ⊢
  split
  · rename_i repeated
    rw [if_pos repeated] at appended
    exact absurd rfl appended
  · exact List.mem_append_right _ (List.mem_singleton_self _)

-- The observation of a snapshot is stored.
def Observed (policy : IntegrationPolicy) (s : IntegrationStore) (bindingId : Uuid)
    (snapshot : GitLabMergeRequestSnapshot) : Prop :=
  ∃ fact ∈ s.observations, fact.bindingId = bindingId ∧ fact.observationDigest = policy.observationDigest snapshot

theorem recordReadback_aside (ran : recordReadback policy env readback s = .ok next) :
    Aside s next ∧ ∀ bindingId snapshot, readback = some (bindingId,snapshot) →
      Observed policy next bindingId snapshot := by
  unfold recordReadback at ran
  split at ran
  · cases pure_ok.mp ran
    exact ⟨.refl s,fun _ _ absurd => by cases absurd⟩
  · rename_i bindingId snapshot
    have aside := appendMergeRequestObservation_aside (observation policy env.observationId bindingId snapshot env.now) s
    have recorded := appended_recorded (observation policy env.observationId bindingId snapshot env.now) s
    unfold appendReadback at ran
    split at ran
    · rename_i appended
      cases pure_ok.mp ran
      rw [appended] at aside recorded
      refine ⟨aside,fun _ _ same => ?_⟩
      cases same
      exact ⟨_,recorded (Option.some_ne_none _),rfl,rfl⟩
    · cases ran

-- While the request of a fingerprint is in processing, nobody has heard of its effect.
theorem unheard (valid : RequestsValid policy s) (injective : Function.Injective policy.payloadHash)
    (found : s.inbox messageId = some row) (state : row.state = .processing)
    (hash : row.payloadHash = fingerprint) : ¬ Heard s fingerprint := by
  rintro ⟨other,row',found',same,processed⟩
  have meet := valid.unique injective found found' (hash.trans same.symm)
  subst meet
  cases found.symm.trans found'
  rw [state] at processed
  cases processed

theorem Seen.moves (seen : Seen s request) (found : s.inbox request.messageId = some row) : RequestMoves request row := by
  obtain ⟨other,stored,moved⟩ := seen
  cases stored.symm.trans found
  exact moved

-- The effect of a request, as a worker that processes the request holds it.
structure Ours (s : IntegrationStore) (request : DeliveryRequest) (effect : IntegrationEffect) : Prop where
  known : Known s effect
  fingerprint : effect.requestFingerprint = request.payloadHash
  item : effect.workItemId = request.workItemId

theorem Ours.kept (ours : Ours s request effect) (grows : Grows s next) : Ours next request effect :=
  ⟨ours.known.kept grows,ours.fingerprint,ours.item⟩

theorem Ours.moved (ours : Ours s request old) (plan : SamePlan old new) (known : Known next new) :
    Ours next request new :=
  ⟨known,plan.fingerprint.trans ours.fingerprint,plan.workItemId.trans ours.item⟩

theorem Ours.served (ours : Ours s request effect) (started : effect.state ≠ .planned) (seen : Seen s request)
    (found : s.inbox request.messageId = some row) : Served s row := by
  obtain ⟨stored,there,moved⟩ := ours.known
  have hash := (seen.moves found).same.payloadHash
  exact ⟨effect.id,stored,there,moved.plan.fingerprint.trans (ours.fingerprint.trans hash.symm),moved.started started⟩

-- The first processing settles its effect and completes its request in one transaction:
-- while the request is in processing, no callback of the effect has been acknowledged.
theorem silent (valid : StoreValid policy s) (injective : Function.Injective policy.payloadHash)
    (seen : Seen s request) (ours : Ours s request effect) (found : s.effects effect.id = some old)
    (expected : old.state = .planned ∨ old.state = .inFlight) (running : s.inbox request.messageId = some row)
    (processing : row.state = .processing) : old.callbackState ≠ .acked := by
  intro acked
  have rowOld := valid.rows _ old found
  obtain ⟨stored,there,since⟩ := ours.known
  cases there.symm.trans found
  rcases expected with planned | inFlight
  · rw [rowOld.planned planned] at acked
    cases acked
  · have hash : row.payloadHash = old.requestFingerprint :=
      (seen.moves running).same.payloadHash.trans (ours.fingerprint.symm.trans since.plan.fingerprint.symm)
    exact unheard valid.requests injective running processing hash (rowOld.heard inFlight acked)

theorem settle_moves {old : IntegrationEffect} (opened : old.state.terminal = false) (final : state.terminal = true)
    (reason : Option SourceControlReason) (now : Time) : EffectMoves old (old.settle state reason now) := by
  refine opened_moves opened ⟨rfl,rfl,rfl,rfl,rfl,rfl,rfl,rfl⟩ (Nat.le_refl _) ?_
  change state ≠ .planned
  rintro rfl
  cases final

theorem reconcile_moves {old : IntegrationEffect} (opened : old.state.terminal = false) (final : state.terminal = true)
    (reason : Option SourceControlReason) (now : Time) : EffectMoves old (old.reconcile state reason now) := by
  refine opened_moves opened ⟨rfl,rfl,rfl,rfl,rfl,rfl,rfl,rfl⟩ (Nat.le_refl _) ?_
  change state ≠ .planned
  rintro rfl
  cases final

theorem final_undecided {state : EffectState} (final : state.terminal = true) : undecided state = false := by
  cases state <;> simp_all [EffectState.terminal,undecided]

-- The binding a merge effect speaks of is in place.
theorem RowValid.replayed {old new : IntegrationEffect} (valid : RowValid policy s id' old) (plan : SamePlan old new)
    (operation : new.operation = .mergeIntegrationMr) : replayBinding new s ≠ none := by
  obtain ⟨bindingId,headSha,payload,present⟩ := valid.merges (plan.operation.symm.trans operation)
  unfold replayBinding
  simp only [operation,plan.payload,payload]
  exact present

-- A block that names no binding, or whose binding is in place.
def Spared (effect : IntegrationEffect) (reason : SourceControlReason) : Prop :=
  effect.operation = .mergeIntegrationMr ∨ reason ≠ .externalMergeDrift

theorem RowValid.block_bound {old new : IntegrationEffect} (valid : RowValid policy s id' old) (plan : SamePlan old new)
    (spared : Spared old reason) (state : new.state = .blocked) (recorded : new.lastErrorCode = some reason)
    (names : new.namesBinding = true) : replayBinding new s ≠ none := by
  simp only [IntegrationEffect.namesBinding,state,recorded,reduceCtorEq,true_and,false_or,Option.some.injEq,
    decide_eq_true_eq] at names
  rcases spared with operation | otherwise
  · exact valid.replayed plan (plan.operation.trans operation)
  · exact absurd names otherwise

theorem settle_writes (valid : StoreValid policy s) (injective : Function.Injective policy.payloadHash)
    (seen : Seen s request) (ours : Ours s request effect) (expected : before = .planned ∨ before = .inFlight)
    (final : state.terminal = true) (reasoned : state = .blocked → reason ≠ none)
    (bound : ∀ old row, RowValid policy s effect.id old → SamePlan effect old → SamePlan old row → row.state = state →
      row.lastErrorCode = reason → row.namesBinding = true → replayBinding row s ≠ none)
    (merged : ∀ row, SamePlan effect row → row.operation = .mergeIntegrationMr → state = .succeeded →
      MergedAt policy s row)
    (taken : transitionEffect effect.id before effect.attempts (IntegrationEffect.settle state reason now) s =
      some (middle,row))
    (completed : completeDeliveryRequest request.messageId request.attempts now' middle = .ok next) :
    Writes policy holder s next ∧ Ours next request row ∧ row.state = state ∧ row.lastErrorCode = reason ∧
      SamePlan effect row := by
  obtain ⟨old,found,stateOld,held,rfl,rfl⟩ := transitionEffect_some taken
  obtain ⟨stored,there,since⟩ := ours.known
  cases there.symm.trans found
  have rowOld := valid.rows _ old found
  have plan : SamePlan old (old.settle state reason now) := ⟨rfl,rfl,rfl,rfl,rfl,rfl,rfl,rfl⟩
  have opened : old.state.terminal = false := by
    rw [stateOld]
    rcases expected with rfl | rfl <;> rfl
  have moves := settle_moves opened final reason now
  have started : (old.settle state reason now).state ≠ .planned := by
    change state ≠ .planned
    rintro rfl
    cases final
  obtain ⟨inbox,running,processing,_⟩ := updateDeliveryRequest_ok completed
  have quiet := silent valid injective seen ours found (stateOld ▸ expected) running processing
  have settled : RowValid policy s effect.id (old.settle state reason now) := by
    refine rowOld.open plan quiet started reasoned (bound old _ rowOld since.plan plan rfl rfl) (fun undecided => ?_)
      (merged _ (since.plan.trans plan))
    have decided := final_undecided final
    cases decided.symm.trans undecided
  obtain ⟨(writes : Writes policy holder s _),known⟩ := effect_write valid.rows found moves settled
  have own := ours.moved (since.plan.trans plan) known
  obtain ⟨(completing : Writes policy holder _ next),_⟩ :=
    completeDeliveryRequest_writes (fun row stored => .inr (own.served started (seen.kept writes.grows) stored)) completed
  exact ⟨writes.trans completing,own.kept completing.grows,rfl,rfl,since.plan.trans plan⟩

theorem completeEffectBlock_writes (valid : StoreValid policy s) (injective : Function.Injective policy.payloadHash)
    (seen : Seen s request) (ours : Ours s request effect)
    (expected : effect.state = .planned ∨ effect.state = .inFlight) (spared : Spared effect reason)
    (ran : completeEffectBlock policy env request effect reason readback s = .ok (next,row)) :
    Writes policy holder s next ∧ Ours next request row ∧ SamePlan effect row := by
  unfold completeEffectBlock at ran
  obtain ⟨middle,recorded,ran⟩ := bind_ok.mp ran
  obtain ⟨⟨after,row⟩,taken,ran⟩ := orRaise_bind_ok.mp ran
  obtain ⟨last,completed,ran⟩ := bind_ok.mp ran
  cases pure_ok.mp ran
  obtain ⟨aside,_⟩ := recordReadback_aside recorded
  have writes : Writes policy holder s middle := aside.write
  obtain ⟨settling,own,_,_,plan⟩ := settle_writes (writes.valid valid) injective (seen.kept aside.grows)
    (ours.kept aside.grows) expected rfl (fun _ => Option.some_ne_none _)
    (fun old row valid since plan state recorded => valid.block_bound plan
      (spared.imp_left fun operation => since.operation.trans operation) state recorded)
    (fun _ _ _ absurd => by cases absurd) taken completed
  exact ⟨writes.trans settling,own,plan⟩

theorem commitMergeSuccess_writes (valid : StoreValid policy s) (injective : Function.Injective policy.payloadHash)
    (seen : Seen s request) (ours : Ours s request effect)
    (operation : effect.operation = .mergeIntegrationMr) (payload : effect.payload = .merge bindingId readback.headSha)
    (state : readback.state = .merged)
    (ran : commitMergeSuccess policy env request bindingId effect readback s = .ok (next,row)) :
    Writes policy holder s next ∧ Ours next request row ∧ SamePlan effect row := by
  unfold commitMergeSuccess at ran
  obtain ⟨middle,recorded,ran⟩ := bind_ok.mp ran
  obtain ⟨⟨after,row⟩,taken,ran⟩ := orRaise_bind_ok.mp ran
  obtain ⟨last,completed,ran⟩ := bind_ok.mp ran
  cases pure_ok.mp ran
  obtain ⟨aside,observed⟩ := recordReadback_aside recorded
  have writes : Writes policy holder s middle := aside.write
  obtain ⟨settling,own,_,_,plan⟩ := settle_writes (writes.valid valid) injective (seen.kept aside.grows)
    (ours.kept aside.grows) (.inr rfl) rfl (fun absurd => by cases absurd)
    (fun old row valid since plan _ _ _ => valid.replayed plan
      (plan.operation.trans (since.operation.trans operation)))
    (fun row since _ _ => ⟨bindingId,readback,since.payload.trans payload,state,observed _ _ rfl⟩) taken completed
  exact ⟨writes.trans settling,own,plan⟩

theorem markUnknown_writes (valid : StoreValid policy s) (seen : Seen s request) (ours : Ours s request effect)
    (ran : markUnknown policy now request effect s = .ok (next,row)) :
    Writes policy holder s next ∧ Ours next request row ∧ row.state = .unknown ∧ SamePlan effect row := by
  unfold markUnknown at ran
  obtain ⟨⟨after,row⟩,taken,ran⟩ := orRaise_bind_ok.mp ran
  obtain ⟨last,completed,ran⟩ := bind_ok.mp ran
  cases pure_ok.mp ran
  obtain ⟨old,found,state,_,rfl,rfl⟩ := transitionEffect_some taken
  obtain ⟨stored,there,since⟩ := ours.known
  cases there.symm.trans found
  have plan : SamePlan old (old.unresolved policy now) := ⟨rfl,rfl,rfl,rfl,rfl,rfl,rfl,rfl⟩
  have opened : old.state.terminal = false := by
    rw [state]
    rfl
  have started : (old.unresolved policy now).state ≠ .planned := by simp [IntegrationEffect.unresolved]
  have unresolved := (valid.rows _ old found).undecided plan (.inl rfl) (Option.some_ne_none _)
  obtain ⟨(writes : Writes policy holder s _),known⟩ :=
    effect_write valid.rows found (opened_moves opened plan (Nat.le_refl _) started) unresolved
  have own := ours.moved (since.plan.trans plan) known
  obtain ⟨(completing : Writes policy holder _ next),_⟩ :=
    completeDeliveryRequest_writes (fun row stored => .inr (own.served started (seen.kept writes.grows) stored)) completed
  exact ⟨writes.trans completing,own.kept completing.grows,rfl,since.plan.trans plan⟩

theorem commitMergeFact_writes (seen : Seen s request) (mine : Mine s request)
    (recordable : Recordable request reason)
    (ran : commitMergeFact policy env request bindingId readback reason s = .ok next) :
    Writes policy (some (request.messageId,request.attempts)) s next := by
  unfold commitMergeFact at ran
  obtain ⟨middle,recorded,ran⟩ := bind_ok.mp ran
  obtain ⟨aside,_⟩ := recordReadback_aside recorded
  have mine : Mine middle request := by
    unfold Mine
    rw [aside.inbox]
    exact mine
  exact aside.write.trans (recordPreflightOutcome_writes (seen.kept aside.grows) mine recordable ran)

end EngineeringPlatform.Integration
