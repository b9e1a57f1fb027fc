import EngineeringPlatform.IntegrationWrites
namespace EngineeringPlatform.Integration
open Checked ClaimedRows SharedWorkers EngineeringPlatform.SourceControl
variable {policy : IntegrationPolicy} {s next : IntegrationStore} {holder : Option (Uuid × Nat)}

theorem Write.single (write : Write policy holder s next) : Writes policy holder s next := .single write

-- A request as a worker claimed or read it …
def Seen (s : IntegrationStore) (request : DeliveryRequest) : Prop :=
  ∃ row, s.inbox request.messageId = some row ∧ RequestMoves request row
-- … whose error code nobody else writes under the same claim …
def Mine (s : IntegrationStore) (request : DeliveryRequest) : Prop :=
  ∀ row, s.inbox request.messageId = some row → row.attempts = request.attempts →
    row.lastErrorCode = request.lastErrorCode
-- … and an effect, as it was at some moment of the run.
def Known (s : IntegrationStore) (effect : IntegrationEffect) : Prop :=
  ∃ row, s.effects effect.id = some row ∧ EffectMoves effect row

theorem Seen.kept (seen : Seen s request) (grows : Grows s next) : Seen next request := by
  obtain ⟨row,found,moved⟩ := seen
  obtain ⟨row',stored,further⟩ := grows.inbox _ row found
  exact ⟨row',stored,moved.trans further⟩

theorem Known.kept (known : Known s effect) (grows : Grows s next) : Known next effect := by
  obtain ⟨row,found,moved⟩ := known
  obtain ⟨row',stored,further⟩ := grows.effects _ row found
  exact ⟨row',stored,moved.trans further⟩

theorem known_row (valid : Table.Every (RowValid policy s) s.effects) (found : s.effects id' = some row) : Known s row := by
  have same := (valid id' row found).identified
  exact ⟨row,same ▸ found,.refl row⟩

theorem preflight_same {one two : DeliveryRequest} (kind : two.kind = one.kind)
    (reason : two.lastErrorCode = one.lastErrorCode) : two.preflight = one.preflight := by
  unfold DeliveryRequest.preflight
  rw [kind,reason]

theorem preflight_some {row : DeliveryRequest} (recorded : row.lastErrorCode = some reason)
    (chosen : reason ∈ row.kind.preflightReasons) : row.preflight = some reason := by
  simp [DeliveryRequest.preflight,recorded,chosen]

theorem updateDeliveryRequest_ok (ran : updateDeliveryRequest messageId attempts change s = .ok next) :
    ∃ old, s.inbox messageId = some old ∧ old.state = .processing ∧ old.attempts = attempts ∧
      next = {s with inbox := s.inbox.put messageId (change old)} := by
  obtain ⟨⟨rows,row⟩,taken,rfl⟩ := map_ok.mp ran
  obtain ⟨old,found,state,held,rfl,rfl⟩ := transition_some (orRaise_ok.mp taken)
  exact ⟨old,found,state,held _ rfl,rfl⟩

-- A write to a row in PROCESSING that leaves its terms and its error code.
theorem quiet_moves {old new : DeliveryRequest} (state : old.state = .processing) (same : SameRequest old new)
    (attempts : old.attempts ≤ new.attempts) (reason : new.lastErrorCode = old.lastErrorCode) :
    RequestMoves old new := by
  refine ⟨same,attempts,fun processed => ?_,fun recorded found => ?_⟩
  · rw [state] at processed
    cases processed
  · rw [preflight_same same.kind reason]
    exact found

theorem completeDeliveryRequest_writes
    (answered : ∀ row, s.inbox messageId = some row → Refused s row ∨ Served s row)
    (ran : completeDeliveryRequest messageId attempts now s = .ok next) :
    Writes policy holder s next ∧ ∃ old new, s.inbox messageId = some old ∧ old.state = .processing ∧
      old.attempts = attempts ∧ SameRequest old new ∧ new.state = .processed ∧
      next = {s with inbox := s.inbox.put messageId new} := by
  obtain ⟨old,found,state,held,rfl⟩ := updateDeliveryRequest_ok ran
  have same : SameRequest old (old.complete now) := ⟨rfl,rfl,rfl⟩
  have write : Write policy holder s _ := .inbox found (quiet_moves state same (Nat.le_refl _) rfl)
    (fun _ => .inl rfl) fun _ => answered old found
  exact ⟨write.single,old,_,found,state,held,same,rfl,rfl⟩

-- What may be recorded under a claim: a first reason, or the recorded one again.
def Recordable (request : DeliveryRequest) (reason : SourceControlReason) : Prop :=
  reason ∈ request.kind.preflightReasons ∧ (request.preflight = none ∨ request.preflight = some reason)

theorem mine_preflight (seen : Seen s request) (mine : Mine s request)
    (found : s.inbox request.messageId = some old) (held : old.attempts = request.attempts) :
    SameRequest request old ∧ old.preflight = request.preflight := by
  obtain ⟨row,stored,moved⟩ := seen
  cases stored.symm.trans found
  exact ⟨moved.same,preflight_same moved.same.kind (mine old found held)⟩

theorem recordPreflightOutcome_writes (seen : Seen s request) (mine : Mine s request)
    (recordable : Recordable request reason)
    (ran : recordPreflightOutcome request.messageId request.attempts reason now s = .ok next) :
    Writes policy (some (request.messageId,request.attempts)) s next := by
  obtain ⟨old,found,state,held,rfl⟩ := updateDeliveryRequest_ok ran
  obtain ⟨same,recorded⟩ := mine_preflight seen mine found held
  have chosen : (old.record reason now).preflight = some reason := by
    refine preflight_some rfl ?_
    change reason ∈ old.kind.preflightReasons
    rw [same.kind]
    exact recordable.1
  have moves : RequestMoves old (old.record reason now) := by
    refine ⟨⟨rfl,rfl,rfl⟩,Nat.le_refl _,fun processed => ?_,fun other before => ?_⟩
    · rw [state] at processed
      cases processed
    · rw [recorded] at before
      rcases recordable.2 with none | again
      · rw [none] at before
        cases before
      · rw [again] at before
        cases before
        exact chosen
  refine (Write.inbox found moves (fun _ => .inr (by rw [held])) fun processed => ?_).single
  cases processed.symm.trans state

theorem releaseDeliveryRequest_writes (seen : Seen s request) (mine : Mine s request)
    (unrecorded : request.preflight = none)
    (ran : releaseDeliveryRequest request.messageId request.attempts now s = .ok next) :
    Writes policy (some (request.messageId,request.attempts)) s next := by
  obtain ⟨old,found,state,held,rfl⟩ := updateDeliveryRequest_ok ran
  obtain ⟨_,recorded⟩ := mine_preflight seen mine found held
  have moves : RequestMoves old (old.release now) := by
    refine ⟨⟨rfl,rfl,rfl⟩,Nat.le_refl _,fun processed => ?_,fun other before => ?_⟩
    · rw [state] at processed
      cases processed
    · rw [recorded,unrecorded] at before
      cases before
  exact (Write.inbox found moves (fun _ => .inr (by rw [held])) fun processed => by cases processed).single

theorem claimDeliveryRequest_writes (ran : claimDeliveryRequest messageId kind now s = some (next,row)) :
    Writes policy holder s next ∧ next.inbox messageId = some row ∧ row.kind = kind ∧
      ∃ old, s.inbox messageId = some old ∧ row = old.claim now ∧ next = {s with inbox := s.inbox.put messageId row} := by
  unfold claimDeliveryRequest at ran
  split at ran
  · rename_i old found
    split at ran
    · rename_i checked
      cases ran
      have moves : RequestMoves old (old.claim now) := by
        refine ⟨⟨rfl,rfl,rfl⟩,Nat.le_succ _,fun processed => ?_,fun _ recorded => recorded⟩
        have claimable := checked.2
        simp [DeliveryRequest.claimable,processed] at claimable
      have write : Write policy holder s _ := .inbox found moves
        (fun same => by simp [DeliveryRequest.claim] at same) fun processed => by cases processed
      exact ⟨write.single,
        Table.put_same _ _ _,checked.1,old,found,rfl,rfl⟩
    · cases ran
  · cases ran

theorem transitionEffect_some (taken : transitionEffect id' expected attempts change s = some (next,new)) :
    ∃ old, s.effects id' = some old ∧ old.state = expected ∧ old.attempts = attempts ∧ new = change old ∧
      next = s.putEffects (s.effects.put id' new) := by
  obtain ⟨⟨rows,row⟩,moved,same⟩ := Option.map_eq_some_iff.mp taken
  cases same
  obtain ⟨old,found,state,held,rfl,rfl⟩ := transition_some moved
  exact ⟨old,found,state,held _ rfl,rfl,rfl⟩

-- One row aged, the others left alone.
theorem effect_write (valid : Table.Every (RowValid policy s) s.effects) (found : s.effects id' = some old)
    (moves : EffectMoves old new) (row : RowValid policy s id' new) :
    Writes policy holder s (s.putEffects (s.effects.put id' new)) ∧
      Known (s.putEffects (s.effects.put id' new)) new := by
  refine ⟨(Write.effects (.put EffectMoves.refl fun before stored => ?_) (fun id other stored => ?_)
    (valid.put row)).single,new,?_,.refl new⟩
  · cases found.symm.trans stored
    exact moves
  · rcases Table.put_some stored with ⟨rfl,_⟩ | ⟨_,there⟩
    · rw [found]
      exact Option.some_ne_none _
    · rw [there]
      exact Option.some_ne_none _
  · change (s.effects.put id' new) new.id = _
    rw [row.identified]
    exact Table.put_same _ _ _

theorem opened_moves {old new : IntegrationEffect} (opened : old.state.terminal = false) (plan : SamePlan old new)
    (attempts : old.attempts ≤ new.attempts) (started : new.state ≠ .planned) : EffectMoves old new := by
  refine ⟨plan,attempts,fun _ => started,fun settled => ?_⟩
  rw [opened] at settled
  cases settled

-- A row whose callback is open and whose outcome names no binding is valid as soon as
-- its plan is.
theorem RowValid.open {old new : IntegrationEffect} (valid : RowValid policy s id' old) (plan : SamePlan old new)
    (callback : new.callbackState ≠ .acked) (planned : new.state ≠ .planned)
    (reasoned : new.state = .blocked → new.lastErrorCode ≠ none)
    (bound : new.namesBinding = true → replayBinding new s ≠ none)
    (due : undecided new.state = true → new.nextReconcileAt ≠ none)
    (merged : new.operation = .mergeIntegrationMr → new.state = .succeeded → MergedAt policy s new) :
    RowValid policy s id' new := by
  refine ⟨plan.id.trans valid.identified,?_,?_,fun state => absurd state planned,reasoned,
    fun _ acked => absurd acked callback,fun _ acked => absurd acked callback,bound,due,merged⟩
  · rw [plan.fingerprint]
    exact valid.asked
  · rw [plan.operation,plan.payload]
    exact valid.merges

-- An undecided row needs no more, whatever its callback is.
theorem RowValid.undecided {old new : IntegrationEffect} (valid : RowValid policy s id' old) (plan : SamePlan old new)
    (state : new.state = .unknown ∨ new.state = .reconciliation) (due : new.nextReconcileAt ≠ none) :
    RowValid policy s id' new := by
  refine ⟨plan.id.trans valid.identified,?_,?_,?_,?_,?_,?_,?_,fun _ => due,?_⟩
  · rw [plan.fingerprint]
    exact valid.asked
  · rw [plan.operation,plan.payload]
    exact valid.merges
  all_goals rcases state with state | state <;> simp [state,EffectState.terminal,IntegrationEffect.namesBinding]

theorem startEffect_writes (valid : Table.Every (RowValid policy s) s.effects) (known : Known s effect)
    (taken : startEffect effect now s = some (next,new)) :
    Writes policy holder s next ∧ Known next new ∧ SamePlan effect new ∧ new.state = .inFlight := by
  obtain ⟨old,found,state,held,rfl,rfl⟩ := transitionEffect_some taken
  obtain ⟨row,stored,since⟩ := known
  cases stored.symm.trans found
  have row := valid _ old found
  have opened : old.state.terminal = false := by
    rw [state]
    rfl
  have plan : SamePlan old (old.start now) := ⟨rfl,rfl,rfl,rfl,rfl,rfl,rfl,rfl⟩
  have started : RowValid policy s effect.id (old.start now) := row.open plan
    (by simp [IntegrationEffect.start,row.planned state]) (by simp [IntegrationEffect.start])
    (by simp [IntegrationEffect.start]) (by simp [IntegrationEffect.start,IntegrationEffect.namesBinding])
    (by simp [IntegrationEffect.start]) (by simp [IntegrationEffect.start])
  obtain ⟨writes,known⟩ :=
    effect_write valid found (opened_moves opened plan (Nat.le_succ _) (by simp [IntegrationEffect.start])) started
  exact ⟨writes,known,since.plan.trans plan,rfl⟩

theorem renewReconciliationLease_writes (valid : Table.Every (RowValid policy s) s.effects) (known : Known s effect)
    (taken : renewReconciliationLease effect now s = some (next,new)) :
    Writes policy holder s next ∧ Known next new ∧ SamePlan effect new := by
  obtain ⟨old,found,state,held,rfl,rfl⟩ := transitionEffect_some taken
  obtain ⟨row,stored,since⟩ := known
  cases stored.symm.trans found
  have opened : old.state.terminal = false := by
    rw [state]
    rfl
  have plan : SamePlan old (old.renew now) := ⟨rfl,rfl,rfl,rfl,rfl,rfl,rfl,rfl⟩
  obtain ⟨writes,known⟩ := effect_write valid found
    (opened_moves opened plan (Nat.le_refl _) (by simp [IntegrationEffect.renew,state]))
    ((valid _ old found).undecided plan (.inr state) (Option.some_ne_none _))
  exact ⟨writes,known,since.plan.trans plan⟩

theorem returnReconciliationUnknown_writes (policy : IntegrationPolicy) (effect : IntegrationEffect) (now : Time)
    (valid : Table.Every (RowValid policy s) s.effects) :
    Writes policy holder s (returnReconciliationUnknown policy effect now s) := by
  unfold returnReconciliationUnknown
  split
  · rename_i moved new taken
    obtain ⟨old,found,state,_,rfl,rfl⟩ := transitionEffect_some taken
    have opened : old.state.terminal = false := by
      rw [state]
      rfl
    have plan : SamePlan old (old.unresolved policy now) := ⟨rfl,rfl,rfl,rfl,rfl,rfl,rfl,rfl⟩
    have row := (valid _ old found).undecided plan (.inl rfl) (Option.some_ne_none _)
    exact (effect_write valid found
      (opened_moves opened plan (Nat.le_refl _) (by simp [IntegrationEffect.unresolved])) row).1
  · exact .refl

theorem claimEffects_writes (valid : Table.Every (RowValid policy s) s.effects)
    (ran : claimEffects limit now ids s = some (next,claimed)) :
    Writes policy holder s next ∧ ∀ effect ∈ claimed, Known next effect := by
  unfold claimEffects at ran
  split at ran
  · rename_i checked
    cases ran
    have aged : Table.Advances EffectMoves s.effects (claimAll s.effects ids (IntegrationEffect.claim now)) := by
      refine .updateAll fun id row found => ?_
      split
      · rename_i chosen
        have due := checked.2.2 id chosen
        rw [found,Option.any_some] at due
        have opened : row.state.terminal = false := by
          simp only [reconcilable,decide_eq_true_eq] at due
          rcases due.1 with same | same | same <;> rw [same] <;> rfl
        exact opened_moves opened ⟨rfl,rfl,rfl,rfl,rfl,rfl,rfl,rfl⟩ (Nat.le_succ _)
          (by simp [IntegrationEffect.claim])
      · exact .refl row
    have rows : Table.Every (RowValid policy s) (claimAll s.effects ids (IntegrationEffect.claim now)) := by
      intro id row found
      obtain ⟨old,stored,⟨_,rfl⟩ | ⟨_,rfl⟩⟩ := claimAll_some found
      · exact (valid id old stored).undecided ⟨rfl,rfl,rfl,rfl,rfl,rfl,rfl,rfl⟩ (.inr rfl) (Option.some_ne_none _)
      · exact valid id _ stored
    have write : Write policy holder s (s.putEffects (claimAll s.effects ids (IntegrationEffect.claim now))) := by
      refine .effects aged (fun id row found => ?_) rows
      obtain ⟨old,stored,_⟩ := claimAll_some found
      rw [stored]
      exact Option.some_ne_none _
    refine ⟨write.single,fun effect member => ?_⟩
    obtain ⟨id,_,stored⟩ := List.mem_filterMap.mp member
    exact known_row (fun id row found => (rows id row found).kept write.grows) stored
  · cases ran

theorem makeIntegrationEffectDue_writes (valid : Table.Every (RowValid policy s) s.effects) :
    Writes policy holder s (makeIntegrationEffectDue event now s) := by
  refine (Write.effects (.updateAll fun id row found => ?_) (fun id row found => ?_) fun id row found => ?_).single
  · split
    · exact ⟨⟨rfl,rfl,rfl,rfl,rfl,rfl,rfl,rfl⟩,Nat.le_refl _,fun started => started,fun _ => ⟨rfl,rfl,rfl⟩⟩
    · exact .refl row
  · obtain ⟨old,stored,_⟩ := Table.updateAll_some found
    rw [stored]
    exact Option.some_ne_none _
  · obtain ⟨old,stored,rfl⟩ := Table.updateAll_some found
    split
    · rename_i wakes
      simp only [MergeRequestEvent.wakes,decide_eq_true_eq] at wakes
      exact (valid id old stored).undecided ⟨rfl,rfl,rfl,rfl,rfl,rfl,rfl,rfl⟩ (.inl wakes.2.1) (Option.some_ne_none _)
    · exact valid id old stored

theorem effectBySubject_some (found : s.effectBySubject operation subject = some row) :
    (∃ id, s.effects id = some row) ∧ row.operation = operation ∧ row.subject = subject := by
  have member := List.mem_of_find?_eq_some found
  obtain ⟨id,_,stored⟩ := List.mem_filterMap.mp member
  have chosen := List.find?_some found
  simp only [decide_eq_true_eq] at chosen
  exact ⟨⟨id,stored⟩,chosen⟩

theorem effectsByFingerprint_mem (member : row ∈ s.effectsByFingerprint operation workItemId fingerprint) :
    (∃ id, s.effects id = some row) ∧ row.operation = operation ∧ row.workItemId = workItemId ∧
      row.requestFingerprint = fingerprint := by
  obtain ⟨there,chosen⟩ := List.mem_filter.mp (List.mem_of_mem_take member)
  obtain ⟨id,_,stored⟩ := List.mem_filterMap.mp there
  simp only [decide_eq_true_eq] at chosen
  exact ⟨⟨id,stored⟩,chosen⟩

-- An effect planned for a request, with what its operation names in place.
theorem planEffect_writes (valid : StoreValid policy s) (row : RowValid policy s effect.id effect)
    (ran : planEffect effect s = .ok (next,found)) :
    Writes policy holder s next ∧ Known next found ∧ found.operation = effect.operation ∧
      found.subject = effect.subject := by
  unfold planEffect at ran
  split at ran
  · rename_i found there
    cases pure_ok.mp ran
    obtain ⟨⟨id,stored⟩,same⟩ := effectBySubject_some there
    exact ⟨.refl,known_row valid.rows stored,same⟩
  · rename_i absent
    obtain ⟨after,inserted,same⟩ := map_ok.mp ran
    cases same
    simp only [insertEffect,require_bind_ok,pure_ok] at inserted
    obtain ⟨fresh,_,rfl⟩ := inserted
    refine ⟨(Write.planned fresh (fun id other stored operation subject => ?_) row).single,
      ⟨effect,Table.put_same _ _ _,.refl effect⟩,rfl,rfl⟩
    have listed : other ∈ s.effectRows := List.mem_filterMap.mpr ⟨id,valid.listed id other stored,stored⟩
    have missing := List.find?_eq_none.mp absent other listed
    simp [operation,subject] at missing

end EngineeringPlatform.Integration
