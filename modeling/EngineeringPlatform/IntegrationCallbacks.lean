import EngineeringPlatform.IntegrationSettlement
namespace EngineeringPlatform.Integration
open Checked ClaimedRows SharedWorkers EngineeringPlatform.SourceControl
variable {policy : IntegrationPolicy} {s next : IntegrationStore} {holder : Option (Uuid × Nat)}

theorem Heard.of_processed (found : s.inbox messageId = some row) (processed : row.state = .processed) :
    Heard s row.payloadHash := ⟨messageId,row,found,rfl,processed⟩

-- What a worker may say of an effect: the outcome of a settled one, or that an undecided
-- one is. An effect in flight is spoken of once its request is processed.
structure Sayable (s : IntegrationStore) (effect : IntegrationEffect) (subject : CallbackSubject) (kind : CallbackKind)
    (reason : Option SourceControlReason) (bindingId : Option Uuid) : Prop where
  known : Known s effect
  item : effect.workItemId = subject.workItemId
  names : Names s effect bindingId
  heard : effect.state = .inFlight → Heard s effect.requestFingerprint
  said : effect.outcome = some (kind,reason) ∨ undecided effect.state = true ∧ kind = .pending ∧ reason = none

theorem Sayable.kept (sayable : Sayable s effect subject kind reason bindingId) (grows : Grows s next) :
    Sayable next effect subject kind reason bindingId :=
  ⟨sayable.known.kept grows,sayable.item,sayable.names.kept grows,fun inFlight => (sayable.heard inFlight).kept grows,
    sayable.said⟩

theorem Sayable.started (sayable : Sayable s effect subject kind reason bindingId) : effect.state ≠ .planned := by
  intro planned
  rcases sayable.said with outcome | ⟨open_,_⟩
  · have final := outcome_terminal outcome
    rw [planned] at final
    cases final
  · rw [planned] at open_
    cases open_

theorem RowValid.mark (valid : RowValid policy s id' row) (started : row.state ≠ .planned)
    (heard : callback = .acked → row.state = .inFlight → Heard s row.requestFingerprint)
    (answered : callback = .acked → row.state.terminal = true → Answered s row) (now : Time) :
    RowValid policy s id' (row.mark callback now) :=
  ⟨valid.identified,valid.asked,valid.merges,fun planned => absurd planned started,valid.reasoned,
    fun inFlight acked => heard acked inFlight,fun final acked => answered acked final,valid.bound,valid.due,
    valid.merged⟩

theorem mark_moves (row : IntegrationEffect) (callback : RequirementCallbackState) (now : Time) :
    EffectMoves row (row.mark callback now) :=
  ⟨⟨rfl,rfl,rfl,rfl,rfl,rfl,rfl,rfl⟩,Nat.le_refl _,id,fun _ => ⟨rfl,rfl,rfl⟩⟩

-- The row stays locked around the call, so that what is acknowledged is what was said.
theorem recordEffectCallback_writes (valid : StoreValid policy s)
    (sayable : Sayable s effect subject kind reason bindingId) (answer : CallbackAnswer) (now : Time) :
    Writes policy holder s
      (recordEffectCallback effect ⟨.effect effect.id,subject,kind,bindingId,reason⟩ answer now s).1 := by
  unfold recordEffectCallback
  split
  · exact .refl
  · rename_i locked found
    split
    · exact .refl
    · rename_i matching
      obtain ⟨same,state,_⟩ : locked.id = effect.id ∧ locked.state = effect.state ∧ locked.attempts = effect.attempts := by
        simpa using matching
      obtain ⟨⟨id,stored⟩,_⟩ := effectBySubject_some found
      have row := valid.rows id locked stored
      cases row.identified
      obtain ⟨other,there,since⟩ := sayable.known
      rw [← same] at there
      cases there.symm.trans stored
      have told : Told s ⟨.effect effect.id,subject,kind,bindingId,reason⟩ := by
        refine ⟨locked,same ▸ stored,sayable.item.symm.trans since.plan.workItemId.symm,
          sayable.names.moved since.plan,?_⟩
        rcases sayable.said with outcome | ⟨_,pending⟩
        · exact .inr ((since.outcome (outcome_terminal outcome)).trans outcome)
        · exact .inl pending
      have calling : Writes policy holder s (s.called ⟨.effect effect.id,subject,kind,bindingId,reason⟩) :=
        (Write.called told).single
      have started : locked.state ≠ .planned := state ▸ sayable.started
      split
      · exact .refl
      · split
        · exact .refl
        · cases answer with
          | accepted =>
            have after := calling.valid valid
            have marked : RowValid policy (s.called ⟨.effect effect.id,subject,kind,bindingId,reason⟩) locked.id
                (locked.mark .acked now) := by
              refine (after.rows _ locked stored).mark started (fun _ inFlight => ?_) (fun _ final => ?_) now
              · rw [since.plan.fingerprint]
                exact (sayable.heard (state ▸ inFlight)).kept calling.grows
              · refine ⟨_,List.mem_append_right _ (List.mem_singleton_self _),congrArg _ same.symm,?_⟩
                rcases sayable.said with outcome | ⟨open_,_⟩
                · exact (since.outcome (outcome_terminal outcome)).trans outcome
                · rw [state] at final
                  cases (final_undecided final).symm.trans open_
            exact calling.trans (effect_write after.rows stored (mark_moves _ _ _) marked).1
          | refused =>
            exact (effect_write valid.rows stored (mark_moves _ _ _)
              ((valid.rows _ locked stored).mark started (fun absurd => by cases absurd)
                (fun absurd => by cases absurd) now)).1
          | acceptedLost => exact calling

theorem preflight_chosen {row : DeliveryRequest} (found : row.preflight = some reason) :
    row.lastErrorCode = some reason ∧ reason ∈ row.kind.preflightReasons := by
  simpa [DeliveryRequest.preflight,Option.filter_eq_some_iff] using found

theorem finishPreflightCallback_writes (seen : Seen s request)
    (chosen : reason ∈ request.kind.preflightReasons) (item : subject.workItemId = request.workItemId)
    (bindingId : Option Uuid) (answer : CallbackAnswer) (now : Time) :
    Writes policy holder s (finishPreflightCallback request.messageId request.attempts
      ⟨.message request.messageId,subject,blockedKind reason,bindingId,some reason⟩ reason answer now s) := by
  unfold finishPreflightCallback
  split
  · exact .refl
  · rename_i row found
    split
    · exact .refl
    · rename_i current
      obtain ⟨_,_,recorded⟩ : row.state = .processing ∧ row.attempts = request.attempts ∧
          row.lastErrorCode = some reason := by simpa using current
      have same := (seen.moves found).same
      have rejected : row.preflight = some reason := preflight_some recorded (same.kind ▸ chosen)
      have told : Told s ⟨.message request.messageId,subject,blockedKind reason,bindingId,some reason⟩ :=
        ⟨row,reason,found,item.trans (congrArg DeliveryPayload.workItemId same.payload).symm,rejected,rfl,rfl⟩
      have calling : Writes policy holder s
          (s.called ⟨.message request.messageId,subject,blockedKind reason,bindingId,some reason⟩) :=
        (Write.called told).single
      split
      · exact .refl
      · cases answer with
        | refused => exact .refl
        | acceptedLost => exact calling
        | accepted =>
          dsimp only
          split
          · rename_i next completed
            refine calling.trans (completeDeliveryRequest_writes (fun other stored => .inl ?_) completed).1
            cases found.symm.trans stored
            exact ⟨reason,rejected,_,List.mem_append_right _ (List.mem_singleton_self _),
              congrArg _ same.messageId.symm,rfl⟩
          · exact calling

end EngineeringPlatform.Integration
