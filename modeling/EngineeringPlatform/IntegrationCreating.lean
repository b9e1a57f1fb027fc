import EngineeringPlatform.IntegrationKnowledge
-- The steps of a worker that processes the request to create a merge request.
namespace EngineeringPlatform.Integration
open Checked ClaimedRows SharedWorkers EngineeringPlatform.SourceControl
variable {policy : IntegrationPolicy} {s next : IntegrationStore} {before after : IntegrationWorker}

-- What one step of a worker does: it writes under its own claim only, keeps its claim
-- or takes a fresh one, and knows what its next step needs.
structure Takes (policy : IntegrationPolicy) (s next : IntegrationStore) (before after : IntegrationWorker) : Prop where
  writes : Writes policy before.claim s next
  holds : after.Holds next
  claims : ∀ key, after.claim = some key → before.claim = some key ∨
    ∀ row, s.inbox key.1 = some row → row.attempts < key.2

theorem Takes.quiet (holds : before.Holds s) (writes : ∀ holder, Writes policy holder s next) (knows : after.Knows next)
    (kept : ∀ request, after.held = some request → before.held = some request) : Takes policy s next before after := by
  refine ⟨writes _,⟨knows,fun request held => ?_⟩,fun key claimed => .inl ?_⟩
  · have had := kept request held
    exact (writes none).mine (holds.knows.seen had) (holds.mine request had) (Option.some_ne_none _).symm
  · obtain ⟨request,held,rfl⟩ := Option.map_eq_some_iff.mp claimed
    exact Option.map_eq_some_iff.mpr ⟨request,kept request held,rfl⟩

theorem Takes.still (policy : IntegrationPolicy) (holds : before.Holds s) (knows : after.Knows s)
    (kept : ∀ request, after.held = some request → before.held = some request) : Takes policy s s before after :=
  .quiet holds (fun _ => .refl) knows kept

-- A step that records gives its claim up.
theorem Takes.recording (writes : Writes policy before.claim s next) (knows : after.Knows next)
    (free : after.held = none) : Takes policy s next before after := by
  refine ⟨writes,⟨knows,fun request held => ?_⟩,fun key claimed => ?_⟩
  · cases free.symm.trans held
  · unfold IntegrationWorker.claim at claimed
    rw [free] at claimed
    cases claimed

theorem Takes.stop (holds : before.Holds s) (writes : ∀ holder, Writes policy holder s next) :
    Takes policy s next before .idle := .quiet holds writes trivial fun _ absurd => by cases absurd

theorem Seen.heard (seen : Seen s request) (processed : request.state = .processed) : Heard s request.payloadHash := by
  obtain ⟨row,found,moved⟩ := seen
  have same := moved.final processed
  subst same
  exact .of_processed found processed

theorem completed_heard {holder : Option (Uuid × Nat)} (seen : Seen s request) (served : ∀ row, s.inbox request.messageId = some row → Served s row)
    (ran : completeDeliveryRequest request.messageId request.attempts now s = .ok next) :
    Writes policy holder s next ∧ Heard next request.payloadHash := by
  obtain ⟨(writes : Writes policy holder s next),old,new,found,_,_,same,processed,rfl⟩ :=
    completeDeliveryRequest_writes (fun row stored => .inr (served row stored)) ran
  refine ⟨writes,request.messageId,new,Table.put_same _ _ _,?_,processed⟩
  exact same.payloadHash.trans (seen.moves found).same.payloadHash

theorem found_effect (valid : Table.Every (RowValid policy s) s.effects)
    (member : effect ∈ s.effectsByFingerprint operation request.workItemId request.payloadHash) :
    Found s operation request effect := by
  obtain ⟨⟨id,stored⟩,same,item,fingerprint⟩ := effectsByFingerprint_mem member
  exact ⟨⟨known_row valid stored,fingerprint,item⟩,same⟩

theorem callOutcome_knows (known : Known s effect) (item : effect.workItemId = subject.workItemId)
    (names : Names s effect bindingId) :
    (callOutcome effect subject bindingId).Knows s ∧ (callOutcome effect subject bindingId).held = none := by
  unfold callOutcome
  split
  · rename_i kind reason outcome
    refine ⟨⟨⟨known,item,names,fun inFlight => ?_,.inl outcome⟩,trivial⟩,rfl⟩
    have final := outcome_terminal outcome
    rw [inFlight] at final
    cases final
  · exact ⟨trivial,rfl⟩

theorem callPending_knows (known : Known s effect) (item : effect.workItemId = subject.workItemId)
    (names : Names s effect bindingId) (heard : effect.state = .inFlight → Heard s effect.requestFingerprint)
    (open_ : undecided effect.state = true) :
    (callPending effect subject bindingId).Knows s ∧ (callPending effect subject bindingId).held = none :=
  ⟨⟨⟨known,item,names,heard,.inr ⟨open_,rfl,rfl⟩⟩,trivial⟩,rfl⟩

theorem Takes.call (writes : Writes policy before.claim s next) (knows : after.Knows next ∧ after.held = none) :
    Takes policy s next before after := .recording writes knows.1 knows.2

theorem blocking_knows (opened : Opened s kind request) (chosen : reason ∈ kind.preflightReasons)
    (item : subject.workItemId = request.workItemId) (bindingId : Option Uuid) :
    (blockingPreflight request subject reason bindingId).Knows s :=
  ⟨opened.read.seen,opened.recordable chosen,item⟩

theorem existingEffect_mem (found : existingEffect request branch effects = .ok existing) :
    ∀ chosen ∈ existing, chosen.1 ∈ effects := by
  unfold existingEffect at found
  split at found
  · cases found
    exact fun _ absurd => by cases absurd
  · split at found
    · cases found
      intro chosen same
      cases same
      exact List.mem_singleton_self _
    · cases found
  · cases found

variable {request : DeliveryRequest} {reasons : SourceControlReason → Prop}

theorem routeCreate_takes (policy : IntegrationPolicy) {claimed : Bool} {branch : Option RepositoryBranchBinding}
    {effects : List IntegrationEffect} (now : Time)
    (holds : (IntegrationWorker.create (.looked request claimed branch effects)).Holds s) :
    Takes policy s (routeCreate request claimed branch effects now s).1
      (.create (.looked request claimed branch effects)) (routeCreate request claimed branch effects now s).2 := by
  obtain ⟨read,found⟩ := holds.knows
  have here (held : claimed = true) (other : DeliveryRequest) (same : some request = some other) :
      (IntegrationWorker.create (.looked request claimed branch effects)).held = some other := by
    subst held
    exact same
  unfold routeCreate
  split
  · rename_i reason recorded
    split
    · rename_i held
      exact .still policy holds ⟨read.seen,⟨(preflight_chosen recorded).2,.inr recorded⟩,rfl⟩ (here held)
    · exact .stop holds fun _ => .refl
  · rename_i unrecorded
    have opened : Opened s .createMr request := ⟨read,unrecorded⟩
    split
    · split
      · rename_i held
        exact .still policy holds (blocking_knows opened (by decide) rfl none) (here held)
      · exact .stop holds fun _ => .refl
    · rename_i existing chosen
      have own (one : IntegrationEffect × String) (member : one ∈ existing) :
          Found s .createIntegrationMr request one.1 := found _ (existingEffect_mem chosen one member)
      split
      · split
        · rename_i processed
          exact .still policy holds (read.seen.heard processed.1) fun _ absurd => by cases absurd
        · exact .stop holds fun _ => .refl
      · rename_i held
        have held : claimed = true := by simpa using held
        split
        · rename_i planned
          refine .still policy holds ⟨opened,fun one member => ⟨own one member,?_⟩⟩ (here held)
          have started := Option.all_eq_true _ _ |>.mp planned one member
          simpa using started
        · rename_i started
          split
          · rename_i completed
            obtain ⟨one,member,started⟩ : ∃ one ∈ existing, one.1.state ≠ .planned := by
              cases existing with
              | none => exact absurd rfl started
              | some one => exact ⟨one,rfl,by simpa using started⟩
            have served (row : DeliveryRequest) (stored : s.inbox request.messageId = some row) : Served s row :=
              (own one member).ours.served started read.seen stored
            have completing (holder : Option (Uuid × Nat)) : Writes policy holder s _ ∧ Heard _ request.payloadHash :=
              completed_heard read.seen served completed
            exact .quiet holds (fun holder => (completing holder).1) (completing none).2 fun _ absurd => by cases absurd
          · exact .stop holds fun _ => .refl

theorem decideAdmission_raises (request : DeliveryRequest) (branch : Option RepositoryBranchBinding)
    (answers : AdmissionAnswers) (s : IntegrationStore) :
    Raises (· ∈ createPreflightReasons) (decideAdmission request branch answers s) := by
  unfold decideAdmission
  refine raises_require (by decide) fun _ => raises_require (by decide) fun _ => ?_
  refine (raises_orRaise (by decide)).bind fun _ => (raises_orRaise (by decide)).bind fun _ => ?_
  refine raises_require (by decide) fun _ => (raises_orRaise (by decide)).bind fun _ => ?_
  exact (raises_orRaise (by decide)).bind fun _ => raises_pure

theorem decideAdmission_context (decided : decideAdmission request branch answers s = .ok admission) :
    admission.context = answers.context := by
  unfold decideAdmission at decided
  simp only [require_bind_ok,orRaise_bind_ok,pure_ok] at decided
  obtain ⟨_,_,_,_,_,_,_,_,_,_,_,rfl⟩ := decided
  rfl

theorem sameRequest_item (same : sameRequest request context = true) : context.workItemId = request.workItemId := by
  simp only [sameRequest,decide_eq_true_eq] at same
  exact same.2.2.1

theorem admitCreate_takes {branch : Option RepositoryBranchBinding}
    {existing : Option (IntegrationEffect × String)} (answers : AdmissionAnswers)
    (holds : (IntegrationWorker.create (.admitting request branch existing)).Holds s) :
    Takes policy s s (.create (.admitting request branch existing)) (admitCreate request branch existing answers s) := by
  obtain ⟨opened,found⟩ := holds.knows
  unfold admitCreate
  split
  · exact .stop holds fun _ => .refl
  · rename_i reason read
    obtain ⟨_,decided⟩ := require_bind_ok.mp read
    have chosen := decideAdmission_raises request branch answers s reason (pure_ok.mp decided)
    exact .still policy holds (blocking_knows opened chosen rfl none) fun _ held => held
  · rename_i admission read
    obtain ⟨valid,decided⟩ := require_bind_ok.mp read
    have context := decideAdmission_context (pure_ok.mp decided)
    simp only [createContextValid,decide_eq_true_eq] at valid
    have item : admission.context.workItemId = request.workItemId := context ▸ sameRequest_item valid.1
    exact .still policy holds ⟨opened,item,found⟩ fun _ held => held

-- The reasons a conversation with the provider ends with.
def Ends (reasons : SourceControlReason → Prop) (failure : ProviderFailure) : Prop :=
  ∀ reason readback, failure = .blocked reason readback → reasons reason

theorem ends_rejected (chosen : reasons reason) :
    Ends reasons (rejected reason) := by
  intro other readback same
  cases same
  exact chosen

theorem ends_unresolved (reasons : SourceControlReason → Prop) : Ends reasons .unresolved :=
  fun _ _ absurd => by cases absurd
theorem ends_uncaught (reasons : SourceControlReason → Prop) : Ends reasons .uncaught :=
  fun _ _ absurd => by cases absurd

theorem projectFailure_ends (profile : reasons .projectProfileUnsupported)
    (protection : reasons .targetBranchNotProtected) (target : reasons .targetBranchNotFound)
    (repository : reasons .repositoryNotAuthorized) (error : GitLabError) : Ends reasons (projectFailure error) := by
  cases error with
  | projectPolicyUnsupported => exact ends_rejected profile
  | targetBranchNotProtected => exact ends_rejected protection
  | branchNotFound => exact ends_rejected target
  | accessDenied => exact ends_rejected repository
  | projectNotFound => exact ends_rejected repository
  | providerUnavailable => exact ends_unresolved _
  | resultUnknown => exact ends_unresolved _
  | mergeRequestNotFound => exact ends_uncaught _
  | mergeRequestHeadChanged => exact ends_uncaught _
  | mergeRequestBlocked => exact ends_uncaught _

theorem accessFailure_ends (repository : reasons .repositoryNotAuthorized)
    (error : GitLabError) : Ends reasons (accessFailure error) := by
  cases error
  case accessDenied => exact ends_rejected repository
  case projectNotFound => exact ends_rejected repository
  case providerUnavailable => exact ends_unresolved _
  case resultUnknown => exact ends_unresolved _
  all_goals exact ends_uncaught _

theorem readbackFailure_ends (reasons : SourceControlReason → Prop) (error : GitLabError) :
    Ends reasons (readbackFailure error) := by
  cases error <;> first | exact ends_unresolved _ | exact ends_uncaught _

theorem createSourceFailure_ends (branch : reasons .branchBindingMissing)
    (repository : reasons .repositoryNotAuthorized) (error : GitLabError) : Ends reasons (createSourceFailure error) := by
  cases error
  case branchNotFound => exact ends_rejected branch
  case accessDenied => exact ends_rejected repository
  case providerUnavailable => exact ends_unresolved _
  case resultUnknown => exact ends_unresolved _
  all_goals exact ends_uncaught _

theorem raises_mapError {outcome : Except GitLabError α} {change : GitLabError → ProviderFailure}
    {errors : ProviderFailure → Prop} (each : ∀ error, errors (change error)) : Raises errors (outcome.mapError change) := by
  intro failure raised
  cases outcome with
  | ok found => cases raised
  | error error =>
    cases raised
    exact each error

theorem readProviderPreflight_raises (profile : GitLabRepositoryProfile) (taskBranch baseCommitSha : String)
    (project : Except GitLabError GitLabProjectDeliveryProfile) (source : Except GitLabError BranchSnapshot) :
    Raises (Ends (· ∈ createPreflightReasons)) (readProviderPreflight profile taskBranch baseCommitSha project source) := by
  unfold readProviderPreflight
  refine (raises_mapError (projectFailure_ends (by decide) (by decide) (by decide) (by decide))).bind fun project => ?_
  refine (raises_mapError (createSourceFailure_ends (by decide) (by decide))).bind fun source => ?_
  exact raises_require (ends_rejected (by decide)) fun _ =>
    raises_require (ends_rejected (by decide)) fun _ => raises_pure

theorem proveCreatedOrAdoptedMergeRequest_raises (profile : GitLabRepositoryProfile) (taskBranch : String)
    (bound : List (String × Nat)) (answers : CreateAnswers) :
    Raises (Ends (· ≠ .externalMergeDrift)) (proveCreatedOrAdoptedMergeRequest profile taskBranch bound answers) := by
  have access (error : GitLabError) : Ends (· ≠ .externalMergeDrift) (accessFailure error) :=
    accessFailure_ends (by decide) error
  have choice (candidates : List GitLabMergeRequestSnapshot) :
      Raises (Ends (· ≠ .externalMergeDrift)) (chooseMergeRequest profile taskBranch answers.created candidates) := by
    unfold chooseMergeRequest
    split
    · exact (raises_mapError access).bind fun _ => raises_pure
    · exact raises_require (ends_rejected (by decide)) fun _ => raises_pure
    · exact raises_error (ends_rejected (by decide))
  unfold proveCreatedOrAdoptedMergeRequest
  refine (raises_mapError access).bind fun _ => (choice _).bind fun _ => ?_
  refine (raises_mapError (readbackFailure_ends _)).bind fun _ =>
    (raises_mapError (readbackFailure_ends _)).bind fun _ => ?_
  exact raises_require (ends_unresolved _) fun _ => raises_pure

theorem integrateCreate_takes {admission : Admission}
    {existing : Option (IntegrationEffect × String)} {source : BranchSnapshot}
    (holds : (IntegrationWorker.create (.integrating request admission existing source)).Holds s) :
    Takes policy s s (.create (.integrating request admission existing source))
      (integrateCreate request admission existing source s) := by
  obtain ⟨opened,item,found⟩ := holds.knows
  unfold integrateCreate
  split
  · exact .still policy holds (blocking_knows opened (by decide) rfl none) fun _ held => held
  · split
    · rename_i effect headSha
      obtain ⟨own,planned⟩ := found (effect,headSha) rfl
      split
      · exact .still policy holds
          ⟨opened.read.seen,own.ours,.inl planned,.inr (by decide),item,names_none s effect⟩ fun _ absurd => by cases absurd
      · exact .still policy holds ⟨opened,item⟩ fun _ held => held
    · exact .still policy holds ⟨opened,item⟩ fun _ held => held

theorem validatedEffectPayload_some
    (valid : validatedEffectPayload effect subject requirementId repositoryId fingerprint branchBindingId workItemId =
      some headSha) :
    effect.operation = .createIntegrationMr ∧ effect.workItemId = workItemId ∧ effect.requirementId = requirementId ∧
      effect.repositoryId = repositoryId ∧ effect.requestFingerprint = fingerprint := by
  unfold validatedEffectPayload at valid
  split at valid
  · obtain ⟨⟨operation,_,workItem,requirement,repository,same,_⟩,_⟩ := Option.ite_none_right_eq_some.mp valid
    exact ⟨operation,workItem,requirement,repository,same⟩
  · cases valid

theorem createEffectValid_underway (known : Known s effect) (item : admission.context.workItemId = request.workItemId)
    (valid : createEffectValid request admission headSha effect = true) : Underway s request admission effect := by
  obtain ⟨operation,workItem,requirement,repository,fingerprint⟩ := validatedEffectPayload_some (decide_eq_true_eq.mp valid)
  exact ⟨⟨known,fingerprint,workItem.trans item⟩,operation,workItem,requirement,repository⟩

-- A row as it is planned needs no more than its request and the binding it merges.
theorem plannedEffect_valid (asked : Asked s request.payloadHash) (merges : operation = .mergeIntegrationMr →
      ∃ bindingId headSha, payload = .merge bindingId headSha ∧ s.bindingById bindingId ≠ none) :
    RowValid policy s env.effectId (plannedEffect env request context operation subject payload) :=
  ⟨rfl,asked,merges,fun _ => rfl,nofun,nofun,nofun,nofun,nofun,nofun⟩

theorem acquireCreateEffect_writes {holder : Option (Uuid × Nat)} (valid : StoreValid policy s) (seen : Seen s request)
    (ran : acquireCreateEffect env request admission headSha s = .ok (next,effect)) :
    Writes policy holder s next ∧ Known next effect := by
  obtain ⟨writes,known,_⟩ := planEffect_writes valid (plannedEffect_valid seen.asked fun absurd => by cases absurd) ran
  exact ⟨writes,known⟩

theorem resolveCreate_knows (valid : StoreValid policy s) (seen : Seen s request)
    (found : Found s .createIntegrationMr request effect) :
    (resolveCreate request effect s).Knows s ∧ (resolveCreate request effect s).held = none := by
  have own (persisted : IntegrationEffect) (there : s.effectBySubject .createIntegrationMr effect.subject = some persisted) :
      Ours s request persisted ∧ persisted.id = effect.id := by
    obtain ⟨⟨id,stored⟩,operation,subject⟩ := effectBySubject_some there
    obtain ⟨row,present,moved⟩ := found.ours.known
    have same := valid.distinct _ _ _ _ stored present (operation.trans (moved.plan.operation.trans found.operation).symm)
      (subject.trans moved.plan.subject.symm)
    subst same
    cases stored.symm.trans present
    exact ⟨found.ours.moved moved.plan (known_row valid.rows present),moved.plan.id⟩
  have unknowing (persisted : IntegrationEffect) (ours : Ours s request persisted) :
      (IntegrationWorker.finish (.unknowing request request.subject persisted none)).Knows s :=
    ⟨seen,ours,rfl,names_none s persisted⟩
  unfold resolveCreate
  split
  · rename_i persisted inbox there _
    obtain ⟨ours,same⟩ := own persisted there
    have operation := (effectBySubject_some there).2.1
    split
    · rename_i binding bound
      split
      · split
        · refine callOutcome_knows ours.known ours.item fun id named => ?_
          cases named
          simp only [operation]
          obtain ⟨member,created⟩ := KeyedRows.find_some bound
          exact ⟨binding,member,rfl,created.trans same.symm⟩
        · exact ⟨trivial,rfl⟩
      · split
        · exact ⟨unknowing persisted ours,rfl⟩
        · exact ⟨trivial,rfl⟩
    · split
      · exact ⟨unknowing persisted ours,rfl⟩
      · exact ⟨trivial,rfl⟩
  · exact ⟨trivial,rfl⟩

theorem names_created (operation : effect.operation = .createIntegrationMr) :
    Names s effect ((s.bindingByEffect effect.id).map MergeRequestBinding.id) := by
  intro id named
  obtain ⟨binding,bound,rfl⟩ := Option.map_eq_some_iff.mp named
  simp only [operation]
  obtain ⟨member,created⟩ := KeyedRows.find_some bound
  exact ⟨binding,member,rfl,created⟩

theorem replayCreate_knows (valid : StoreValid policy s) (heard : Heard s request.payloadHash) :
    (replayCreate request s).Knows s ∧ (replayCreate request s).held = none := by
  unfold replayCreate
  split
  · rename_i effect only
    have member : effect ∈ s.effectsByFingerprint .createIntegrationMr request.workItemId request.payloadHash :=
      only ▸ List.mem_singleton_self _
    have found := found_effect valid.rows member
    split
    · exact ⟨trivial,rfl⟩
    · split
      · rename_i open_
        exact callPending_knows found.ours.known found.ours.item (names_none s effect)
          (fun _ => found.ours.fingerprint ▸ heard) open_
      · exact callOutcome_knows found.ours.known found.ours.item (names_created found.operation)
  · exact ⟨trivial,rfl⟩

theorem commitCreate_takes (valid : StoreValid policy s) (injective : Function.Injective policy.payloadHash)
    {admission : Admission} {effect : IntegrationEffect} {proof : ProviderProof}
    (holds : (IntegrationWorker.create (.committing request admission effect proof)).Holds s)
    (settled : settledCreate proof.snapshot.state = some (state,reason)) (env : CompletionEnvironment) (fate : CommitFate) :
    Takes policy s (commitCreate policy env fate request admission effect proof state reason s).1
      (.create (.committing request admission effect proof))
      (commitCreate policy env fate request admission effect proof state reason s).2 := by
  obtain ⟨seen,underway,said,own⟩ := holds.knows
  have resolving : (IntegrationWorker.create (.resolving request effect)).Knows s :=
    ⟨seen,underway.ours,underway.operation⟩
  unfold commitCreate
  split
  · rename_i middle row committed
    obtain ⟨writes,ours,names⟩ := commitFinalFacts_writes valid injective seen underway said own settled committed
    exact .call writes (callOutcome_knows ours.known ours.item names)
  · rename_i middle row committed
    obtain ⟨writes,_⟩ := commitFinalFacts_writes valid injective seen underway said own settled committed
    exact .recording writes (resolving.kept writes.grows) rfl
  · exact .still policy holds resolving fun _ absurd => by cases absurd
  · exact .stop holds fun _ => .refl
  · exact .still policy holds resolving fun _ absurd => by cases absurd

theorem createStep_takes (valid : StoreValid policy s) (injective : Function.Injective policy.payloadHash)
    {worker : CreateWorker} (holds : (IntegrationWorker.create worker).Holds s)
    (moved : createStep policy s worker event = some (next,after)) : Takes policy s next (.create worker) after := by
  unfold createStep at moved
  split at moved
  case h_1 request claimed =>
    cases moved
    have read : Read s .createMr request := holds.knows
    exact .still policy holds ⟨read,fun effect member => found_effect valid.rows member⟩ fun _ held => held
  case h_2 now =>
    have taken := routeCreate_takes policy now holds
    rw [Option.some.inj moved] at taken
    exact taken
  case h_3 answers =>
    cases moved
    exact admitCreate_takes answers holds
  case h_4 request admission existing project source =>
    cases moved
    obtain ⟨opened,item,found⟩ := holds.knows
    split
    · exact .still policy holds ⟨opened,item,found⟩ fun _ held => held
    · rename_i reason readback failed
      have chosen := readProviderPreflight_raises _ _ _ _ _ _ failed reason readback rfl
      exact .still policy holds (blocking_knows opened chosen rfl none) fun _ held => held
    · exact .still policy holds ⟨opened.read.seen,opened.unrecorded⟩ fun _ held => held
    · exact .stop holds fun _ => .refl
  case h_5 =>
    cases moved
    exact integrateCreate_takes holds
  case h_6 request admission headSha env =>
    obtain ⟨opened,item⟩ := holds.knows
    split at moved
    · rename_i effect acquired
      cases moved
      have acquiring (holder : Option (Uuid × Nat)) : Writes policy holder s _ ∧ Known _ effect :=
        acquireCreateEffect_writes valid opened.read.seen acquired
      obtain ⟨writes,known⟩ := acquiring none
      split
      · rename_i checked
        exact .quiet holds (fun holder => (acquiring holder).1) ⟨opened.read.seen.kept writes.grows,createEffectValid_underway known item checked⟩
          fun _ absurd => by cases absurd
      · exact .quiet holds (fun holder => (acquiring holder).1) (blocking_knows (opened.kept writes.grows) (by decide) rfl none) fun _ held => held
    · cases moved
      exact .stop holds fun _ => .refl
  case h_7 request admission effect now =>
    obtain ⟨seen,underway⟩ := holds.knows
    split at moved
    · rename_i started
      cases moved
      obtain ⟨(writes : Writes policy none s _),known,plan,inFlight⟩ :=
        startEffect_writes valid.rows underway.ours.known started
      exact .recording writes ⟨seen.kept writes.grows,underway.moved plan known,inFlight⟩ rfl
    · cases moved
      exact .stop holds fun _ => .refl
  case h_8 =>
    cases moved
    obtain ⟨seen,underway,inFlight⟩ := holds.knows
    exact .still policy holds ⟨seen,underway,inFlight⟩ fun _ absurd => by cases absurd
  case h_9 request admission effect bound answers =>
    obtain ⟨seen,underway,inFlight⟩ := holds.knows
    split at moved
    · rename_i snapshot origin proved
      cases moved
      have aside : Aside s {s with proofs := s.proofs ++ [⟨effect.id,snapshot,origin⟩]} :=
        ⟨rfl,rfl,rfl,rfl,rfl,rfl,fun _ member => member,fun _ member => List.mem_append_left _ member,rfl⟩
      exact .recording aside.write ⟨seen.kept aside.grows,underway.kept aside.grows,
        List.mem_append_right _ (List.mem_singleton_self _),rfl⟩ rfl
    · rename_i reason readback failed
      cases moved
      have spared := proveCreatedOrAdoptedMergeRequest_raises _ _ _ _ _ failed reason readback rfl
      have item : admission.context.subject.workItemId = request.workItemId :=
        underway.workItem.symm.trans underway.ours.item
      exact .still policy holds ⟨seen,underway.ours,.inr inFlight,.inr spared,item,names_none s effect⟩
        fun _ absurd => by cases absurd
    · cases moved
      have item : admission.context.subject.workItemId = request.workItemId :=
        underway.workItem.symm.trans underway.ours.item
      exact .still policy holds ⟨seen,underway.ours,item,names_none s effect⟩ fun _ absurd => by cases absurd
    · cases moved
      exact .stop holds fun _ => .refl
  case h_10 env fate =>
    obtain ⟨⟨state,reason⟩,settled,same⟩ := Option.map_eq_some_iff.mp moved
    have taken := commitCreate_takes valid injective holds settled env fate
    dsimp only at same
    rw [same] at taken
    exact taken
  case h_11 request effect =>
    cases moved
    obtain ⟨seen,found⟩ := holds.knows
    exact .call .refl (resolveCreate_knows valid seen found)
  case h_12 request =>
    cases moved
    exact .call .refl (replayCreate_knows valid holds.knows)
  case h_13 => cases moved

end EngineeringPlatform.Integration
