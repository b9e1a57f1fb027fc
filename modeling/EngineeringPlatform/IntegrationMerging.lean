import EngineeringPlatform.IntegrationCreating
-- The steps of a worker that processes the request to merge, and those that end the
-- processing of either request.
namespace EngineeringPlatform.Integration
open Checked ClaimedRows SharedWorkers EngineeringPlatform.SourceControl
variable {policy : IntegrationPolicy} {s next : IntegrationStore} {before after : IntegrationWorker}

theorem storedMergeEffect_some (stored : storedMergeEffect request binding effects = .ok (some effect)) :
    effects = [effect] ∧ ∃ headSha, effect.payload = .merge binding.id headSha := by
  unfold storedMergeEffect at stored
  split at stored
  · cases stored
  · rename_i only
    split at stored
    · rename_i bindingId headSha payload
      split at stored
      · rename_i matching
        cases stored
        exact ⟨rfl,headSha,payload.trans (by rw [matching.2.2.2.2.2.1])⟩
      · cases stored
    · cases stored
  · cases stored

theorem readStoredMergeFacts_ok (read : readStoredMergeFacts request includeEffect s = .ok facts) :
    request.integrationMergeRequestBindingId = some facts.binding.id ∧
      storedMergeEffect request facts.binding (if includeEffect then
        s.effectsByFingerprint .mergeIntegrationMr request.workItemId request.payloadHash else []) = .ok facts.effect := by
  unfold readStoredMergeFacts at read
  obtain ⟨bindingId,named,read⟩ := orRaise_bind_ok.mp read
  obtain ⟨binding,_,read⟩ := orRaise_bind_ok.mp read
  obtain ⟨current,_,read⟩ := orRaise_bind_ok.mp read
  obtain ⟨fact,_,read⟩ := orRaise_bind_ok.mp read
  obtain ⟨_,read⟩ := require_bind_ok.mp read
  obtain ⟨same,read⟩ := require_bind_ok.mp read
  obtain ⟨effect,stored,read⟩ := bind_ok.mp read
  cases pure_ok.mp read
  exact ⟨named.trans (by rw [same.2.1]),stored⟩

theorem storedFacts_found (valid : Table.Every (RowValid policy s) s.effects)
    (read : readStoredMergeFacts request true s = .ok facts) (stored : facts.effect = some effect) :
    Found s .mergeIntegrationMr request effect ∧ ∃ headSha, effect.payload = .merge facts.binding.id headSha := by
  obtain ⟨_,there⟩ := readStoredMergeFacts_ok read
  rw [if_pos rfl,stored] at there
  obtain ⟨only,payload⟩ := storedMergeEffect_some there
  exact ⟨found_effect valid (only ▸ List.mem_singleton_self _),payload⟩

theorem replayMerge_knows (found : Found s .mergeIntegrationMr request effect)
    (payload : effect.payload = .merge bindingId headSha) (heard : Heard s request.payloadHash) :
    (replayMerge request bindingId effect).Knows s ∧ (replayMerge request bindingId effect).held = none := by
  have names : Names s effect (some bindingId) := names_merge found.operation payload
  unfold replayMerge
  split
  · exact ⟨trivial,rfl⟩
  · split
    · rename_i open_
      exact callPending_knows found.ours.known found.ours.item names (fun _ => found.ours.fingerprint ▸ heard) open_
    · exact callOutcome_knows found.ours.known found.ours.item names

variable {request : DeliveryRequest} {stored : Option IntegrationEffect} {admission : MergeAdmission}

theorem routeMerge_takes (valid : StoreValid policy s) {claimed : Bool}
    (holds : (IntegrationWorker.merge (.requested request claimed)).Holds s) :
    Takes policy s s (.merge (.requested request claimed)) (routeMerge request claimed s) := by
  have read : Read s .mergeMr request := holds.knows
  have here (held : claimed = true) (other : DeliveryRequest) (same : some request = some other) :
      (IntegrationWorker.merge (.requested request claimed)).held = some other := by
    subst held
    exact same
  unfold routeMerge
  split
  · rename_i reason recorded
    split
    · exact .stop holds fun _ => .refl
    · split
      · exact .still policy holds ⟨read.seen,(preflight_chosen recorded).2,rfl⟩ fun _ absurd => by cases absurd
      · exact .stop holds fun _ => .refl
  · rename_i unrecorded
    have opened : Opened s .mergeMr request := ⟨read,unrecorded⟩
    split
    · split
      · rename_i held
        exact .still policy holds ⟨opened,fun _ absurd => by cases absurd⟩ (here held)
      · exact .stop holds fun _ => .refl
    · exact .stop holds fun _ => .refl
    · rename_i facts there
      have own (effect : IntegrationEffect) (stored : facts.effect = some effect) :
          Found s .mergeIntegrationMr request effect ∧ ∃ headSha, effect.payload = .merge facts.binding.id headSha :=
        storedFacts_found valid.rows there stored
      split
      · rename_i effect started
        obtain ⟨stored,started⟩ := Option.filter_eq_some_iff.mp started
        obtain ⟨found,payload⟩ := own effect stored
        split
        · exact .stop holds fun _ => .refl
        · rename_i open_
          refine .still policy holds ⟨read.seen,fun unclaimed => ?_,found,by simpa using started,payload⟩
            fun _ absurd => by cases absurd
          exact read.seen.heard (by simpa [unclaimed] using open_)
      · split
        · rename_i held
          exact .still policy holds ⟨opened,fun effect stored => (own effect stored).1⟩ (here held)
        · exact .stop holds fun _ => .refl

theorem mergeConflict_knows (opened : Opened s .mergeMr request) (item : admission.context.workItemId = request.workItemId)
    (mergeRequest : GitLabMergeRequestSnapshot) :
    (mergeConflict request admission mergeRequest).Knows s ∧
      (mergeConflict request admission mergeRequest).held = some request := by
  unfold mergeConflict
  split
  · exact ⟨⟨opened.read.seen,opened.recordable (by decide),item⟩,rfl⟩
  · exact ⟨blocking_knows opened (by decide) item _,rfl⟩

theorem mergeBlockedReason_mem (answers : AdmissionAnswers) (blocked : mergeBlockedReason answers = some reason) :
    reason ∈ mergePreflightReasons := by
  unfold mergeBlockedReason at blocked
  repeat' split at blocked
  all_goals cases blocked
  all_goals decide

theorem readMergeAdmission_admitted (read : readMergeAdmission request answers s = .ok admission) :
    Admitted s request admission ∧ admission.blockedReason = mergeBlockedReason answers ∧
      Current s admission.binding admission.repositoryProfile := by
  unfold readMergeAdmission at read
  obtain ⟨valid,read⟩ := require_bind_ok.mp read
  obtain ⟨bindingId,named,read⟩ := orRaise_bind_ok.mp read
  obtain ⟨repository,stored,read⟩ := orRaise_bind_ok.mp read
  obtain ⟨branch,_,read⟩ := orRaise_bind_ok.mp read
  obtain ⟨binding,there,read⟩ := orRaise_bind_ok.mp read
  obtain ⟨current,here,read⟩ := orRaise_bind_ok.mp read
  obtain ⟨fact,_,read⟩ := orRaise_bind_ok.mp read
  obtain ⟨facts,read⟩ := require_bind_ok.mp read
  cases pure_ok.mp read
  simp only [mergeContextValid,decide_eq_true_eq] at valid
  simp only [mergeFactsValid,decide_eq_true_eq] at facts
  obtain ⟨_,_,known,same,_,_,item,owner,project,_⟩ := facts
  obtain ⟨stored,authorized⟩ := Option.filter_eq_some_iff.mp stored
  simp only [repositoryAuthorized,decide_eq_true_eq] at authorized
  refine ⟨⟨sameRequest_item valid.1,?_,?_,project.symm⟩,rfl,?_,repository,owner ▸ stored,authorized.1,rfl⟩
  · rw [← valid.2.2.2.2.1,named,known]
  · exact ⟨binding,(KeyedRows.find_some there).1,.refl binding⟩
  · rw [item,here,same]

theorem admitMerge_takes {collided : Bool}
    (answers : AdmissionAnswers) (holds : (IntegrationWorker.merge (.admitting request stored collided)).Holds s) :
    Takes policy s s (.merge (.admitting request stored collided)) (admitMerge request stored collided answers s) := by
  obtain ⟨opened,found⟩ := holds.knows
  unfold admitMerge
  split
  · exact .stop holds fun _ => .refl
  · rename_i admission read
    obtain ⟨admitted,blocked,_⟩ := readMergeAdmission_admitted read
    split
    · exact .still policy holds ⟨opened,admitted,found⟩ fun _ held => held
    · rename_i reason refused
      have chosen := mergeBlockedReason_mem answers (blocked.symm.trans refused)
      refine .still policy holds (blocking_knows opened ?_ admitted.item _) fun _ held => held
      change _ ∈ mergePreflightReasons
      split
      · decide
      · exact chosen

theorem mergeRequestFailure_ends {reasons : SourceControlReason → Prop} (closed : reasons .mrClosed)
    (repository : reasons .repositoryNotAuthorized) (error : GitLabError) :
    Ends reasons (mergeRequestFailure error) := by
  cases error
  case mergeRequestNotFound => exact ends_rejected closed
  case accessDenied => exact ends_rejected repository
  case projectNotFound => exact ends_rejected repository
  case providerUnavailable => exact ends_unresolved _
  case resultUnknown => exact ends_unresolved _
  all_goals exact ends_uncaught _

theorem readMergeProviderProof_raises (profile : GitLabRepositoryProfile) (binding : MergeRequestBinding)
    (answers : MergeAnswers) :
    Raises (Ends (· ∈ mergePreflightReasons)) (readMergeProviderProof profile binding answers) := by
  have source (mergeRequest : GitLabMergeRequestSnapshot) :
      Raises (Ends (· ∈ mergePreflightReasons)) (readSource mergeRequest answers.source) := by
    unfold readSource
    split
    · exact raises_pure
    · split
      · exact raises_pure
      · exact raises_error (ends_rejected (by decide))
    · exact raises_error (accessFailure_ends (by decide) _)
  unfold readMergeProviderProof
  refine (raises_mapError (projectFailure_ends (by decide) (by decide) (by decide) (by decide))).bind fun _ => ?_
  refine raises_require (ends_rejected (by decide)) fun _ => ?_
  refine (raises_mapError (mergeRequestFailure_ends (by decide) (by decide))).bind fun _ => ?_
  refine raises_require (ends_rejected (by decide)) fun _ => raises_require (ends_unresolved _) fun _ => ?_
  refine (source _).bind fun _ => raises_require (ends_rejected (by decide)) fun _ => ?_
  exact raises_require (ends_rejected (by decide)) fun _ => raises_pure

theorem proveMerge_takes {collided : Bool} (answers : MergeAnswers)
    (holds : (IntegrationWorker.merge (.proving request admission stored collided)).Holds s) :
    Takes policy s s (.merge (.proving request admission stored collided))
      (proveMerge request admission stored collided answers) := by
  obtain ⟨opened,admitted,found⟩ := holds.knows
  unfold proveMerge
  split
  · rename_i proof _
    split
    · obtain ⟨knows,held⟩ := mergeConflict_knows opened admitted.item proof.mergeRequest
      exact .still policy holds knows fun _ same => held.symm.trans same
    · exact .still policy holds ⟨opened,admitted,found⟩ fun _ held => held
  · rename_i reason readback failed
    have chosen := readMergeProviderProof_raises _ _ _ _ failed reason readback rfl
    refine .still policy holds (blocking_knows opened ?_ admitted.item _) fun _ held => held
    change _ ∈ mergePreflightReasons
    split
    · decide
    · exact chosen
  · split
    · exact .still policy holds (blocking_knows opened (by decide) admitted.item _) fun _ held => held
    · exact .still policy holds ⟨opened.read.seen,opened.unrecorded⟩ fun _ held => held
  · exact .stop holds fun _ => .refl

theorem validatedMergeEffect_some (valid : validatedMergeEffect effect admission fingerprint = some headSha) :
    effect.operation = .mergeIntegrationMr ∧ effect.workItemId = admission.context.workItemId ∧
      effect.requestFingerprint = fingerprint ∧ effect.payload = .merge admission.binding.id headSha := by
  unfold validatedMergeEffect at valid
  split at valid
  · rename_i payload
    obtain ⟨⟨operation,workItem,_,_,same,named,_⟩,chosen⟩ := Option.ite_none_right_eq_some.mp valid
    cases chosen
    exact ⟨operation,workItem,same,payload.trans (by rw [named])⟩
  · cases valid

theorem classifyCurrentMergeEffect_some
    (classified : classifyCurrentMergeEffect request admission currentHeadSha stored s = .ok (some effect)) :
    stored = some effect ∧ ∃ headSha, validatedMergeEffect effect admission request.payloadHash = some headSha := by
  unfold classifyCurrentMergeEffect at classified
  split at classified
  · obtain ⟨_,absurd⟩ := require_bind_ok.mp classified
    cases pure_ok.mp absurd
  · obtain ⟨headSha,valid,classified⟩ := orRaise_bind_ok.mp classified
    split at classified
    · obtain ⟨_,same⟩ := require_bind_ok.mp classified
      cases pure_ok.mp same
      exact ⟨rfl,headSha,valid⟩
    · obtain ⟨_,_,classified⟩ := orRaise_bind_ok.mp classified
      obtain ⟨_,same⟩ := require_bind_ok.mp classified
      cases pure_ok.mp same
      exact ⟨rfl,headSha,valid⟩

theorem providerBlockReason_mem (blocked : providerBlockReason mergeRequest = some reason) :
    reason ∈ mergePreflightReasons := by
  unfold providerBlockReason at blocked
  repeat' split at blocked
  all_goals cases blocked
  all_goals decide

theorem settleMerge_knows (seen : Seen s request) (merges : Merges s request admission effect headSha)
    (expected : effect.state = .planned ∨ effect.state = .inFlight) (reason : SourceControlReason)
    (readback : Option GitLabMergeRequestSnapshot) :
    (settleMerge request admission effect reason readback).Knows s :=
  ⟨seen,merges.found.ours,expected,.inl merges.found.operation,merges.admitted.item,
    names_merge merges.found.operation merges.payload⟩

theorem decideMerge_takes {proof : MergeProviderProof} {existing : Option IntegrationEffect}
    (holds : (IntegrationWorker.merge (.classifying request admission stored proof)).Holds s)
    (own : ∀ effect ∈ existing, effect.state = .planned ∧ ∃ headSha, Merges s request admission effect headSha) :
    Takes policy s s (.merge (.classifying request admission stored proof))
      (decideMerge request admission proof existing) := by
  obtain ⟨opened,admitted,_⟩ := holds.knows
  unfold decideMerge
  split
  · rename_i effect reason _
    obtain ⟨planned,headSha,merges⟩ := own effect rfl
    exact .still policy holds (settleMerge_knows opened.read.seen merges (.inl planned) _ _) fun _ absurd => by cases absurd
  · rename_i reason blocked
    have chosen : reason ∈ mergePreflightReasons := by
      unfold mergeProviderReason at blocked
      rw [if_neg (by simp)] at blocked
      exact providerBlockReason_mem blocked
    split
    · exact .still policy holds ⟨opened.read.seen,opened.recordable chosen,admitted.item⟩ fun _ held => held
    · exact .still policy holds (blocking_knows opened chosen admitted.item _) fun _ held => held
  · exact .still policy holds ⟨opened,admitted⟩ fun _ held => held

theorem classifyMerge_takes
    {proof : MergeProviderProof} (holds : (IntegrationWorker.merge (.classifying request admission stored proof)).Holds s) :
    Takes policy s s (.merge (.classifying request admission stored proof))
      (classifyMerge request admission stored proof s) := by
  obtain ⟨opened,admitted,found⟩ := holds.knows
  unfold classifyMerge
  split
  · obtain ⟨knows,held⟩ := mergeConflict_knows opened admitted.item proof.mergeRequest
    exact .still policy holds knows fun _ same => held.symm.trans same
  · exact decideMerge_takes holds fun _ absurd => by cases absurd
  · rename_i effect classified
    obtain ⟨there,headSha,valid⟩ := classifyCurrentMergeEffect_some classified
    have merges : Merges s request admission effect headSha :=
      ⟨admitted,found effect there,(validatedMergeEffect_some valid).2.2.2⟩
    split
    · exact .stop holds fun _ => .refl
    · rename_i planned
      have planned : effect.state = .planned := by simpa using planned
      split
      · exact .still policy holds (settleMerge_knows opened.read.seen merges (.inl planned) _ _)
          fun _ absurd => by cases absurd
      · refine decideMerge_takes holds fun other same => ?_
        cases same
        exact ⟨planned,headSha,merges⟩

theorem acquireMergeEffect_writes {holder : Option (Uuid × Nat)} (valid : StoreValid policy s) (seen : Seen s request)
    (admitted : Admitted s request admission) (ran : acquireMergeEffect env request admission headSha s = .ok (next,effect)) :
    Writes policy holder s next ∧ Known next effect := by
  obtain ⟨writes,known,_⟩ := planEffect_writes valid
    (plannedEffect_valid seen.asked fun _ => ⟨_,_,rfl,admitted.bears.present⟩) ran
  exact ⟨writes,known⟩

theorem commitMerge_takes (valid : StoreValid policy s) (injective : Function.Injective policy.payloadHash)
    {effect : IntegrationEffect}
    {readback : GitLabMergeRequestSnapshot}
    (holds : (IntegrationWorker.merge (.committing request admission effect readback)).Holds s)
    (env : CompletionEnvironment) (fate : CommitFate) :
    Takes policy s (commitMerge policy env fate request admission effect readback s).1
      (.merge (.committing request admission effect readback))
      (commitMerge policy env fate request admission effect readback s).2 := by
  obtain ⟨seen,merges,state⟩ := holds.knows
  have resolving : (IntegrationWorker.merge (.resolving request admission effect)).Knows s := ⟨seen,merges.admitted⟩
  unfold commitMerge
  split
  · rename_i middle row committed
    obtain ⟨writes,ours,plan⟩ := commitMergeSuccess_writes valid injective seen merges.found.ours merges.found.operation
      merges.payload state committed
    refine .call writes (callOutcome_knows ours.known (ours.item.trans merges.admitted.item.symm) ?_)
    exact names_merge (plan.operation.trans merges.found.operation) (plan.payload.trans merges.payload)
  · rename_i middle row committed
    obtain ⟨writes,_⟩ := commitMergeSuccess_writes valid injective seen merges.found.ours merges.found.operation
      merges.payload state committed
    exact .recording writes (resolving.kept writes.grows) rfl
  · exact .still policy holds resolving fun _ absurd => by cases absurd

theorem resolveMerge_knows (valid : StoreValid policy s) (seen : Seen s request) (admitted : Admitted s request admission)
    (effect : IntegrationEffect) :
    (resolveMerge request admission effect s).Knows s ∧ (resolveMerge request admission effect s).held = none := by
  unfold resolveMerge
  split
  · exact ⟨trivial,rfl⟩
  · rename_i inbox there
    have same := (seen.moves there).same
    split
    · exact ⟨trivial,rfl⟩
    · rename_i facts read
      split
      · exact ⟨trivial,rfl⟩
      · rename_i persisted stored
        obtain ⟨found,headSha,payload⟩ := storedFacts_found valid.rows read stored
        split
        · rename_i settled
          exact replayMerge_knows found payload (.of_processed there settled.2)
        · split
          · have named := (readStoredMergeFacts_ok read).1
            have binding : inbox.integrationMergeRequestBindingId = request.integrationMergeRequestBindingId :=
              congrArg DeliveryPayload.integrationMergeRequestBindingId same.payload
            rw [binding,admitted.named] at named
            rw [← Option.some.inj named] at payload
            have item : inbox.workItemId = request.workItemId := congrArg DeliveryPayload.workItemId same.payload
            exact ⟨⟨seen,⟨found.ours.known,found.ours.fingerprint.trans same.payloadHash,found.ours.item.trans item⟩,
              admitted.item,names_merge found.operation payload⟩,rfl⟩
          · exact ⟨trivial,rfl⟩

theorem mergeStep_takes (valid : StoreValid policy s) (injective : Function.Injective policy.payloadHash)
    {worker : MergeWorker} (holds : (IntegrationWorker.merge worker).Holds s)
    (moved : mergeStep policy s worker event = some (next,after)) : Takes policy s next (.merge worker) after := by
  unfold mergeStep at moved
  split at moved
  case h_1 =>
    cases moved
    exact routeMerge_takes valid holds
  case h_2 request claimed facts effect now =>
    obtain ⟨seen,heard,found,started,headSha,payload⟩ := holds.knows
    split at moved
    · split at moved
      · rename_i completed
        cases moved
        obtain ⟨(writes : Writes policy none s next),heard⟩ :=
          completed_heard seen (fun row stored => found.ours.served started seen stored) completed
        exact .call writes (replayMerge_knows (found.kept writes.grows) payload heard)
      · cases moved
        exact .stop holds fun _ => .refl
    · rename_i unclaimed
      cases moved
      exact .call .refl (replayMerge_knows found payload (heard (by simpa using unclaimed)))
  case h_3 answers =>
    cases moved
    exact admitMerge_takes answers holds
  case h_4 answers =>
    cases moved
    exact proveMerge_takes answers holds
  case h_5 =>
    cases moved
    exact classifyMerge_takes holds
  case h_6 request admission proof env =>
    obtain ⟨opened,admitted⟩ := holds.knows
    split at moved
    · rename_i effect acquired
      cases moved
      have acquiring (holder : Option (Uuid × Nat)) : Writes policy holder s _ ∧ Known _ effect :=
        acquireMergeEffect_writes valid opened.read.seen admitted acquired
      obtain ⟨writes,known⟩ := acquiring none
      have admitted := admitted.kept writes.grows
      split
      · rename_i checked
        obtain ⟨operation,workItem,fingerprint,payload⟩ := validatedMergeEffect_some checked
        exact .quiet holds (fun holder => (acquiring holder).1) ⟨opened.read.seen.kept writes.grows,_,admitted,
          ⟨⟨known,fingerprint,workItem.trans admitted.item⟩,operation⟩,payload⟩ fun _ absurd => by cases absurd
      · obtain ⟨knows,held⟩ := mergeConflict_knows (opened.kept writes.grows) admitted.item proof.mergeRequest
        exact .quiet holds (fun holder => (acquiring holder).1) knows fun _ same => held.symm.trans same
    · cases moved
      exact .stop holds fun _ => .refl
  case h_7 request admission proof effect now =>
    obtain ⟨seen,headSha,merges⟩ := holds.knows
    split at moved
    · rename_i started
      cases moved
      obtain ⟨(writes : Writes policy none s _),known,plan,inFlight⟩ :=
        startEffect_writes valid.rows merges.found.ours.known started
      have own := plan.payload.trans merges.payload
      split
      · rename_i named
        cases own.symm.trans named
        exact .recording writes ⟨seen.kept writes.grows,⟨merges.admitted.kept writes.grows,
          ⟨merges.found.ours.moved plan known,plan.operation.trans merges.found.operation⟩,own⟩,inFlight⟩ rfl
      · exact .stop holds fun _ => (startEffect_writes valid.rows merges.found.ours.known started).1
    · cases moved
      exact .stop holds fun _ => .refl
  case h_8 request admission proof effect headSha answers =>
    cases moved
    obtain ⟨seen,merges,inFlight⟩ := holds.knows
    split
    · rename_i readback proved
      obtain ⟨state,same⟩ := mergeExactHead_ok proved
      exact .still policy holds ⟨seen,⟨merges.admitted,merges.found,same ▸ merges.payload⟩,state⟩
        fun _ absurd => by cases absurd
    · exact .still policy holds (settleMerge_knows seen merges (.inr inFlight) _ _) fun _ absurd => by cases absurd
    · exact .still policy holds ⟨seen,merges.found.ours,merges.admitted.item,
        names_merge merges.found.operation merges.payload⟩ fun _ absurd => by cases absurd
    · exact .stop holds fun _ => .refl
  case h_9 env fate =>
    have taken := commitMerge_takes valid injective holds env fate
    rw [Option.some.inj moved] at taken
    exact taken
  case h_10 request admission effect =>
    cases moved
    obtain ⟨seen,admitted⟩ := holds.knows
    exact .call .refl (resolveMerge_knows valid seen admitted effect)
  case h_11 => cases moved

theorem finishStep_takes (valid : StoreValid policy s) (injective : Function.Injective policy.payloadHash)
    {worker : FinishWorker} (holds : (IntegrationWorker.finish worker).Holds s)
    (moved : finishStep policy s worker event = some (next,after)) : Takes policy s next (.finish worker) after := by
  unfold finishStep at moved
  split at moved
  case h_1 request subject reason bindingId env =>
    obtain ⟨seen,recordable,item⟩ := holds.knows
    split at moved
    · rename_i recorded
      cases moved
      have writes : Writes policy _ s _ := recordPreflightOutcome_writes seen (holds.mine request rfl) recordable recorded
      exact .recording writes ⟨seen.kept writes.grows,recordable.1,item⟩ rfl
    · cases moved
      exact .stop holds fun _ => .refl
  case h_2 request subject reason bindingId readback env =>
    obtain ⟨seen,recordable,item⟩ := holds.knows
    split at moved
    · rename_i recorded
      cases moved
      have writes := commitMergeFact_writes seen (holds.mine request rfl) recordable recorded
      exact .recording writes ⟨seen.kept writes.grows,recordable.1,item⟩ rfl
    · cases moved
      exact .stop holds fun _ => .refl
  case h_3 request subject reason bindingId answer now =>
    obtain ⟨seen,chosen,item⟩ := holds.knows
    cases moved
    exact .stop holds fun _ => finishPreflightCallback_writes seen chosen item bindingId answer now
  case h_4 request env =>
    obtain ⟨seen,unrecorded⟩ := holds.knows
    split at moved
    · rename_i released
      cases moved
      exact .recording (releaseDeliveryRequest_writes seen (holds.mine request rfl) unrecorded released) trivial rfl
    · cases moved
      exact .stop holds fun _ => .refl
  case h_5 request subject effect reason bindingId readback env =>
    obtain ⟨seen,ours,expected,spared,item,names⟩ := holds.knows
    split at moved
    · rename_i row completed
      cases moved
      obtain ⟨writes,own,plan⟩ := completeEffectBlock_writes valid injective seen ours expected spared completed
      exact .call writes (callOutcome_knows own.known (own.item.trans item.symm) ((names.kept writes.grows).moved plan))
    · cases moved
      exact .stop holds fun _ => .refl
  case h_6 request subject effect bindingId env =>
    obtain ⟨seen,ours,item,names⟩ := holds.knows
    split at moved
    · rename_i row marked
      cases moved
      obtain ⟨writes,own,unknown,plan⟩ := markUnknown_writes valid seen ours marked
      refine .call writes (callPending_knows own.known (own.item.trans item.symm) ((names.kept writes.grows).moved plan)
        (fun inFlight => ?_) ?_)
      · cases unknown.symm.trans inFlight
      · rw [unknown]
        rfl
    · cases moved
      exact .stop holds fun _ => .refl
  case h_7 => cases moved

end EngineeringPlatform.Integration
