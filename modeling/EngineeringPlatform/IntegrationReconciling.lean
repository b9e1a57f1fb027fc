import EngineeringPlatform.IntegrationMerging
-- The steps of the reconciler and of the delivery of callbacks.
namespace EngineeringPlatform.Integration
open Checked ClaimedRows SharedWorkers EngineeringPlatform.SourceControl
variable {policy : IntegrationPolicy} {s next : IntegrationStore} {before after : IntegrationWorker}
variable {rest : List IntegrationEffect} {row : IntegrationEffect}

theorem nextReconciled_knows (known : ∀ effect ∈ rest, Known s effect) :
    (nextReconciled rest).Knows s ∧ (nextReconciled rest).held = none := by
  cases rest with
  | nil => exact ⟨trivial,rfl⟩
  | cons effect rest =>
    exact ⟨⟨known effect List.mem_cons_self,fun other member => known other (List.mem_cons_of_mem _ member)⟩,rfl⟩

theorem Rest.next_knows {rest : Rest} (knows : rest.Knows s) : rest.next.Knows s ∧ rest.next.held = none := by
  cases rest with
  | done => exact ⟨trivial,rfl⟩
  | reconcile rest => exact nextReconciled_knows knows
  | deliver rest => exact ⟨knows,rfl⟩

theorem failReconciliation_knows {failure : ProviderFailure} (known : Known s effect)
    (others : ∀ other ∈ rest, Known s other) (names : Names s effect bindingId)
    (ends : Ends (Spared effect) failure) :
    (failReconciliation effect bindingId rest failure).Knows s ∧
      (failReconciliation effect bindingId rest failure).held = none := by
  cases failure with
  | blocked reason readback => exact ⟨⟨⟨known,ends reason readback rfl,names⟩,others⟩,rfl⟩
  | unresolved => exact ⟨⟨known,others⟩,rfl⟩
  | uncaught => exact ⟨trivial,rfl⟩

theorem spared_ends {failure : ProviderFailure} (ends : Ends (· ≠ .externalMergeDrift) failure) : Ends (Spared effect) failure :=
  fun reason readback same => .inr (ends reason readback same)
theorem merge_ends (operation : effect.operation = .mergeIntegrationMr) (failure : ProviderFailure) :
    Ends (Spared effect) failure := fun _ _ _ => .inl operation

theorem readCreateReconciliationContext_raises (effect : IntegrationEffect) (s : IntegrationStore) :
    Raises (· ≠ .externalMergeDrift) (readCreateReconciliationContext effect s) := by
  unfold readCreateReconciliationContext
  refine (raises_orRaise (by decide)).bind fun _ => (raises_orRaise (by decide)).bind fun _ => ?_
  refine (raises_orRaise (by decide)).bind fun _ => raises_require (by decide) fun _ => ?_
  exact raises_require (by decide) fun _ => raises_pure

theorem readMergeReconciliationContext_ok (read : readMergeReconciliationContext effect s = .ok context) :
    effect.payload = .merge context.binding.id context.requestedHeadSha ∧ Bears s context.binding ∧
      context.repositoryProfile.projectId = context.binding.externalProjectId ∧
      Current s context.binding context.repositoryProfile := by
  unfold readMergeReconciliationContext at read
  obtain ⟨⟨bindingId,headSha⟩,named,read⟩ := orRaise_bind_ok.mp read
  obtain ⟨binding,there,read⟩ := orRaise_bind_ok.mp read
  obtain ⟨current,here,read⟩ := orRaise_bind_ok.mp read
  obtain ⟨branch,_,read⟩ := orRaise_bind_ok.mp read
  obtain ⟨fact,_,read⟩ := orRaise_bind_ok.mp read
  obtain ⟨⟨same,names,item,_,owner,_⟩,read⟩ := require_bind_ok.mp read
  obtain ⟨repository,stored,read⟩ := orRaise_bind_ok.mp read
  obtain ⟨_,read⟩ := require_bind_ok.mp read
  cases pure_ok.mp read
  obtain ⟨stored,chosen⟩ := Option.filter_eq_some_iff.mp stored
  simp only [Bool.and_eq_true,repositoryAuthorized,decide_eq_true_eq] at chosen
  refine ⟨?_,⟨binding,(KeyedRows.find_some there).1,.refl binding⟩,chosen.2,?_,repository,owner ▸ stored,chosen.1.1,rfl⟩
  · split at named
    · rename_i payload
      obtain ⟨_,chosen⟩ := Option.ite_none_right_eq_some.mp named
      cases chosen
      exact payload.trans (by rw [names])
    · cases named
  · rw [item,here,same]

theorem discoverCreateCandidate_raises (profile : GitLabRepositoryProfile) (sourceBranch : String)
    (bound : List (String × Nat)) (project : Except GitLabError GitLabProjectDeliveryProfile)
    (candidates : Except GitLabError (List GitLabMergeRequestSnapshot)) :
    Raises (Ends (· ≠ .externalMergeDrift)) (discoverCreateCandidate profile sourceBranch bound project candidates) := by
  have read (error : GitLabError) : Ends (· ≠ .externalMergeDrift) (projectFailure error) :=
    projectFailure_ends (by decide) (by decide) (by decide) (by decide) error
  unfold discoverCreateCandidate
  refine (raises_mapError read).bind fun _ => (raises_mapError read).bind fun _ => ?_
  refine raises_require (ends_rejected (by decide)) fun _ => ?_
  split
  · exact raises_pure
  · exact raises_require (ends_rejected (by decide)) fun _ => raises_pure
  · exact raises_error (ends_rejected (by decide))

theorem retryCreateMergeRequest_raises (profile : GitLabRepositoryProfile) (sourceBranch : String) (workspaceId : Uuid)
    (effect : IntegrationEffect) (context : RequirementBindingContext)
    (created : Except GitLabError GitLabMergeRequestLocator) :
    Raises (Ends (· ≠ .externalMergeDrift))
      (retryCreateMergeRequest profile sourceBranch workspaceId effect context created) := by
  unfold retryCreateMergeRequest
  refine raises_require (ends_rejected (by decide)) fun _ => ?_
  refine (raises_mapError (accessFailure_ends (by decide))).bind fun _ => ?_
  exact raises_require (ends_unresolved _) fun _ => raises_pure

theorem proveCreateMergeRequest_raises (profile : GitLabRepositoryProfile) (sourceBranch : String) (iid : Nat)
    (readback : Except GitLabError GitLabMergeRequestSnapshot) (source : Except GitLabError BranchSnapshot) :
    Raises (Ends (· ≠ .externalMergeDrift)) (proveCreateMergeRequest profile sourceBranch iid readback source) := by
  have read (error : GitLabError) : Ends (· ≠ .externalMergeDrift) (proveReadbackFailure error) := by
    cases error <;> first | exact ends_rejected (by decide) | exact ends_unresolved _ | exact ends_uncaught _
  have branch (error : GitLabError) : Ends (· ≠ .externalMergeDrift) (proveSourceFailure error) := by
    cases error <;> first | exact ends_rejected (by decide) | exact ends_unresolved _ | exact ends_uncaught _
  have opened (headSha : String) :
      Raises (Ends (· ≠ .externalMergeDrift)) (proveOpenSource sourceBranch headSha source) := by
    unfold proveOpenSource
    refine (raises_mapError branch).bind fun _ => raises_require (ends_rejected (by decide)) fun _ => ?_
    intro failure raised
    exact (require_error.mp raised).2 ▸ ends_unresolved _
  unfold proveCreateMergeRequest
  refine (raises_mapError read).bind fun snapshot => raises_require (ends_rejected (by decide)) fun _ => ?_
  refine raises_require (ends_unresolved _) fun _ => raises_require (ends_unresolved _) fun _ => ?_
  dsimp only
  split
  · exact (opened _).bind fun _ => raises_pure
  · exact raises_pure

theorem mergeExactHead_raises (binding : MergeRequestBinding) (requestedHeadSha : String)
    (preflight : GitLabMergeRequestSnapshot) (answers : MergeCallAnswers) :
    Raises (Ends (· ≠ .externalMergeDrift)) (mergeExactHead binding requestedHeadSha preflight answers) := by
  have call (error : GitLabError) : Ends (· ≠ .externalMergeDrift) (mergeCallFailure error) := by
    cases error <;> first | exact ends_rejected (by decide) | exact ends_unresolved _ | exact ends_uncaught _
  have read (error : GitLabError) : Ends (· ≠ .externalMergeDrift) (mergeReadbackFailure error) := by
    cases error <;> first | exact ends_unresolved _ | exact ends_uncaught _
  have shown (reason : SourceControlReason) (readback : Option GitLabMergeRequestSnapshot)
      (chosen : reason ≠ .externalMergeDrift) : Ends (· ≠ .externalMergeDrift) (.blocked reason readback) := by
    intro other _ same
    cases same
    exact chosen
  have branch (readback : GitLabMergeRequestSnapshot) (error : GitLabError) :
      Ends (· ≠ .externalMergeDrift) (mergeSourceFailure readback error) := by
    cases error <;> first | exact shown _ _ (by decide) | exact ends_unresolved _ | exact ends_uncaught _
  unfold mergeExactHead
  refine (raises_mapError call).bind fun _ => (raises_mapError read).bind fun readback => ?_
  refine raises_require ?_ fun _ => ?_
  · split
    · exact ends_rejected (by decide)
    · split
      · exact ends_rejected (by decide)
      · exact ends_unresolved _
  · exact (raises_mapError (branch readback)).bind fun _ =>
      raises_require (shown _ _ (by decide)) fun _ => raises_pure

-- What a recorded outcome gives the delivery of its callback.
theorem callReconciled_takes (policy : IntegrationPolicy) (recorded : Option (IntegrationStore × IntegrationEffect))
    (notice : IntegrationEffect → CallbackKind × Option SourceControlReason) (bindingId : Option Uuid)
    (holds : before.Holds s)
    (others : ∀ other ∈ rest, Known s other)
    (spoken : ∀ after effect, recorded = some (after,effect) → Writes policy before.claim s after ∧ Settled after effect ∧
      Names after effect bindingId ∧ effect.outcome = some (notice effect)) :
    Takes policy s (callReconciled recorded s notice bindingId rest).1 before
      (callReconciled recorded s notice bindingId rest).2 := by
  unfold callReconciled
  split
  · rename_i after effect
    obtain ⟨writes,settled,names,outcome⟩ := spoken after effect rfl
    refine .recording writes ⟨settled,names,fun said same => ?_,rest_kept others writes.grows⟩ rfl
    cases same
    exact outcome
  · obtain ⟨knows,free⟩ := nextReconciled_knows others
    exact .still policy holds knows fun _ held => by cases free.symm.trans held

theorem createNotice_outcome (operation : row.operation = .createIntegrationMr)
    (settled : settledCreate state = some (row.state,row.lastErrorCode)) :
    row.outcome = some (createNotice row.lastErrorCode row) := by
  unfold IntegrationEffect.outcome createNotice
  cases state <;> simp only [settledCreate,Option.some.injEq,Prod.mk.injEq,reduceCtorEq] at settled
  · simp [← settled.1,← settled.2,operation]
  · simp [← settled.1,← settled.2,blockedKind]
  · simp [← settled.1,← settled.2,blockedKind]

theorem mergeNotice_outcome (operation : row.operation = .mergeIntegrationMr)
    (state : row.state = settledState row.lastErrorCode) (spared : row.lastErrorCode ≠ some .externalMergeDrift) :
    row.outcome = some (mergeNotice row.lastErrorCode row) := by
  unfold IntegrationEffect.outcome mergeNotice
  cases code : row.lastErrorCode with
  | none =>
    rw [code] at state
    simp [state,settledState,operation]
  | some reason =>
    rw [code] at state spared
    have spared : reason ≠ .externalMergeDrift := fun same => spared (congrArg some same)
    simp [state,settledState,blockedKind,spared]

theorem blocked_outcome (state : row.state = .blocked) (code : row.lastErrorCode = some reason) :
    row.outcome = some (blockedKind reason,some reason) := by
  simp [IntegrationEffect.outcome,state,code]

theorem reconcileMergeProof_knows (reconciled : Reconciled s effect context)
    (others : ∀ other ∈ rest, Known s other) (proof : MergeProviderProof) :
    (reconcileMergeProof effect context proof rest).Knows s ∧
      (reconcileMergeProof effect context proof rest).held = none := by
  unfold reconcileMergeProof
  split
  · exact ⟨⟨⟨reconciled.known,.inl reconciled.operation,names_merge reconciled.operation reconciled.payload⟩,others⟩,rfl⟩
  · rename_i head
    have head : proof.mergeRequest.headSha = context.requestedHeadSha := by simpa using head
    split
    · rename_i merged
      refine ⟨⟨⟨reconciled.known,reconciled.operation,⟨_,reconciled.payload⟩,fun _ => ⟨head ▸ reconciled.payload,merged⟩,
        ?_⟩,others⟩,rfl⟩
      split
      · exact fun same => by cases same
      · exact fun same => by cases same
    · rename_i unmerged
      split
      · rename_i reason blocked
        refine ⟨⟨⟨reconciled.known,reconciled.operation,⟨_,reconciled.payload⟩,(fun absurd => by cases absurd),
          fun drift => ?_⟩,others⟩,rfl⟩
        exact unmerged (providerBlockReason_drift (blocked.trans drift))
      · exact ⟨⟨reconciled,others⟩,rfl⟩

theorem reconcileMergeCall_knows (reconciled : Reconciled s effect context)
    (others : ∀ other ∈ rest, Known s other) (preflight : GitLabMergeRequestSnapshot) (answers : MergeCallAnswers) :
    let outcome := mergeExactHead context.binding context.requestedHeadSha preflight answers
    (reconcileMergeCall effect context rest outcome).Knows s ∧ (reconcileMergeCall effect context rest outcome).held = none := by
  intro outcome
  cases proved : outcome with
  | ok readback =>
    obtain ⟨state,head⟩ := mergeExactHead_ok proved
    exact ⟨⟨⟨reconciled.known,reconciled.operation,⟨_,reconciled.payload⟩,fun _ => ⟨head ▸ reconciled.payload,state⟩,
      fun absurd => by cases absurd⟩,others⟩,rfl⟩
  | error failure =>
    have ends := mergeExactHead_raises _ _ _ _ failure proved
    have failed (failure : ProviderFailure) : (failReconciliation effect (some context.binding.id) rest failure).Knows s ∧
        (failReconciliation effect (some context.binding.id) rest failure).held = none :=
      failReconciliation_knows reconciled.known others (names_merge reconciled.operation reconciled.payload)
        (merge_ends reconciled.operation failure)
    cases failure with
    | blocked reason readback =>
      cases readback with
      | some readback =>
        refine ⟨⟨⟨reconciled.known,reconciled.operation,⟨_,reconciled.payload⟩,(fun absurd => by cases absurd),
          fun drift => ?_⟩,others⟩,rfl⟩
        cases drift
        exact ends _ _ rfl rfl
      | none => exact failed (.blocked reason none)
    | unresolved => exact failed .unresolved
    | uncaught => exact failed .uncaught

theorem reconcileStep_takes (valid : StoreValid policy s) {worker : ReconcileWorker}
    (holds : (IntegrationWorker.reconcile worker).Holds s)
    (moved : reconcileStep policy s worker event = some (next,after)) : Takes policy s next (.reconcile worker) after := by
  unfold reconcileStep at moved
  split at moved
  case h_1 effect rest =>
    cases moved
    obtain ⟨known,others⟩ := holds.knows
    split
    · rename_i operation
      split
      · exact .call .refl ⟨⟨⟨known,operation⟩,others⟩,rfl⟩
      · rename_i reason failed
        have spared := readCreateReconciliationContext_raises effect s reason failed
        exact .call .refl ⟨⟨⟨known,.inr spared,names_none s effect⟩,others⟩,rfl⟩
    · rename_i operation
      split
      · rename_i context read
        obtain ⟨payload,bears,project,_⟩ := readMergeReconciliationContext_ok read
        exact .call .refl ⟨⟨⟨known,operation,payload,bears,project⟩,others⟩,rfl⟩
      · exact .call .refl ⟨⟨⟨known,.inl operation,names_none s effect⟩,others⟩,rfl⟩
  case h_2 effect context rest project candidates =>
    cases moved
    obtain ⟨⟨known,operation⟩,others⟩ := holds.knows
    split
    · exact .call .refl ⟨⟨⟨known,operation⟩,others⟩,rfl⟩
    · exact .call .refl ⟨⟨⟨known,operation⟩,others⟩,rfl⟩
    · rename_i failure failed
      have ends := discoverCreateCandidate_raises _ _ _ _ _ failure failed
      exact .call .refl (failReconciliation_knows known others (names_none s effect) (spared_ends ends))
  case h_3 effect context rest now =>
    obtain ⟨⟨known,operation⟩,others⟩ := holds.knows
    split at moved
    · rename_i renewed
      cases moved
      obtain ⟨(writes : Writes policy none s _),known,plan⟩ := renewReconciliationLease_writes valid.rows known renewed
      exact .call writes ⟨⟨⟨known,plan.operation.trans operation⟩,rest_kept others writes.grows⟩,rfl⟩
    · cases moved
      exact .call .refl ⟨⟨known,others⟩,rfl⟩
  case h_4 effect context rest bindingContext created =>
    cases moved
    obtain ⟨⟨known,operation⟩,others⟩ := holds.knows
    split
    · exact .call .refl ⟨⟨⟨known,operation⟩,others⟩,rfl⟩
    · rename_i failure failed
      have ends := retryCreateMergeRequest_raises _ _ _ _ _ _ failure failed
      exact .call .refl (failReconciliation_knows known others (names_none s effect) (spared_ends ends))
  case h_5 effect context iid origin rest readback source =>
    obtain ⟨⟨known,operation⟩,others⟩ := holds.knows
    split at moved
    · rename_i snapshot proved
      cases moved
      have aside : Aside s {s with proofs := s.proofs ++ [⟨effect.id,snapshot,origin⟩]} :=
        ⟨rfl,rfl,rfl,rfl,rfl,rfl,fun _ member => member,fun _ member => List.mem_append_left _ member,rfl⟩
      exact .call aside.write ⟨⟨⟨known.kept aside.grows,operation,List.mem_append_right _ (List.mem_singleton_self _),rfl⟩,
        rest_kept others aside.grows⟩,rfl⟩
    · rename_i failure failed
      cases moved
      have ends := proveCreateMergeRequest_raises _ _ _ _ _ failure failed
      exact .call .refl (failReconciliation_knows known others (names_none s effect) (spared_ends ends))
  case h_6 effect context proof rest env =>
    obtain ⟨⟨known,operation,said,own⟩,others⟩ := holds.knows
    split at moved
    · rename_i state reason settled
      have taken := callReconciled_takes policy
        (completeCreateReconciliation policy env context effect proof state reason s).toOption (createNotice reason)
        (some env.bindingId) holds others fun after row recorded => ?_
      · rw [Option.some.inj moved] at taken
        exact taken
      · obtain ⟨writes,known,plan,names,same,code⟩ :=
          completeCreateReconciliation_writes valid known operation said own settled (toOption_some.mp recorded)
        subst same code
        exact ⟨writes,⟨known,settledCreate_terminal settled⟩,names,
          createNotice_outcome (plan.operation.trans operation) settled⟩
    · cases moved
      exact .call .refl ⟨⟨known,others⟩,rfl⟩
  case h_7 effect context rest answers =>
    cases moved
    obtain ⟨reconciled,others⟩ := holds.knows
    split
    · exact .call .refl (reconcileMergeProof_knows reconciled others _)
    · exact .call .refl (failReconciliation_knows reconciled.known others
        (names_merge reconciled.operation reconciled.payload) (merge_ends reconciled.operation _))
  case h_8 effect context proof rest now =>
    obtain ⟨reconciled,others⟩ := holds.knows
    split at moved
    · rename_i renewed
      cases moved
      obtain ⟨(writes : Writes policy none s _),known,plan⟩ :=
        renewReconciliationLease_writes valid.rows reconciled.known renewed
      exact .call writes ⟨⟨⟨known,plan.operation.trans reconciled.operation,plan.payload.trans reconciled.payload,
        reconciled.bears.kept writes.grows,reconciled.project⟩,rest_kept others writes.grows⟩,rfl⟩
    · cases moved
      exact .call .refl ⟨⟨reconciled.known,others⟩,rfl⟩
  case h_9 effect context proof rest answers =>
    cases moved
    obtain ⟨reconciled,others⟩ := holds.knows
    exact .call .refl (reconcileMergeCall_knows reconciled others _ _)
  case h_10 effect bindingId snapshot reason rest env =>
    obtain ⟨⟨known,operation,⟨headSha,payload⟩,merged,spared⟩,others⟩ := holds.knows
    have taken := callReconciled_takes policy
      (completeMergeReconciliation policy env bindingId effect snapshot (settledState reason) reason s).toOption
      (mergeNotice reason) (some bindingId) holds others fun after row recorded => ?_
    · rw [Option.some.inj moved] at taken
      exact taken
    · obtain ⟨writes,known,state,code,plan⟩ :=
        completeMergeReconciliation_writes valid known operation merged (toOption_some.mp recorded)
      subst code
      refine ⟨writes,⟨known,?_⟩,names_merge (plan.operation.trans operation) (plan.payload.trans payload),
        mergeNotice_outcome (plan.operation.trans operation) state spared⟩
      rw [state]
      cases row.lastErrorCode <;> rfl
  case h_11 effect reason bindingId rest env =>
    obtain ⟨⟨known,spared,names⟩,others⟩ := holds.knows
    have taken := callReconciled_takes policy (completeReconciliationBlock effect reason env.now s)
      (fun _ => (blockedKind reason,some reason)) bindingId holds others fun after row recorded => ?_
    · rw [Option.some.inj moved] at taken
      exact taken
    · obtain ⟨writes,known,state,code,plan⟩ := completeReconciliationBlock_writes valid known spared recorded
      exact ⟨writes,⟨known,by rw [state]; rfl⟩,(names.kept writes.grows).moved plan,blocked_outcome state code⟩
  case h_12 effect rest env =>
    cases moved
    obtain ⟨known,others⟩ := holds.knows
    have writes : Writes policy none s _ := returnReconciliationUnknown_writes policy effect env.now valid.rows
    exact .call writes (nextReconciled_knows (rest_kept others writes.grows))
  case h_13 => cases moved

theorem replayBinding_names (effect : IntegrationEffect) (s : IntegrationStore) :
    Names s effect ((replayBinding effect s).map MergeRequestBinding.id) := by
  unfold replayBinding
  cases operation : effect.operation with
  | createIntegrationMr => exact names_created operation
  | mergeIntegrationMr =>
    cases payload : effect.payload with
    | create => exact names_none s effect
    | merge bindingId headSha =>
      intro id named
      obtain ⟨binding,found,rfl⟩ := Option.map_eq_some_iff.mp named
      simp only [operation]
      exact ⟨headSha,payload.trans (by rw [(KeyedRows.find_some found).2])⟩

theorem replayNotice_outcome (noticed : replayNotice effect binding = some said) : effect.outcome = some said := by
  unfold replayNotice at noticed
  split at noticed
  · cases noticed
  · exact noticed

theorem callStep_takes (valid : StoreValid policy s) {worker : CallWorker}
    (holds : (IntegrationWorker.call worker).Holds s)
    (moved : callStep s worker event = some (next,after)) : Takes policy s next (.call worker) after := by
  unfold callStep at moved
  split at moved
  case h_1 =>
    cases moved
    exact .stop holds fun _ => .refl
  case h_2 effect rest =>
    cases moved
    have settled : ∀ other ∈ effect :: rest, Settled s other := holds.knows
    exact .call .refl ⟨⟨settled effect List.mem_cons_self,replayBinding_names effect s,
      fun _ noticed => replayNotice_outcome noticed,fun other member => settled other (List.mem_cons_of_mem _ member)⟩,rfl⟩
  case h_3 effect notice bindingId rest context =>
    cases moved
    obtain ⟨settled,names,said,others⟩ := holds.knows
    unfold addressCallback
    split
    · exact .call .refl (Rest.next_knows others)
    · rename_i same
      split
      · rename_i kind reason
        refine .call .refl ⟨⟨⟨settled.1,?_,names,fun inFlight => ?_,.inl (said _ rfl)⟩,others⟩,rfl⟩
        · simp only [sameCoordinates,Bool.not_eq_false,decide_eq_true_eq] at same
          exact same.1.symm
        · have final := settled.2
          rw [inFlight] at final
          cases final
      · split
        · exact .stop holds fun _ => .refl
        · exact .call .refl (Rest.next_knows others)
  case h_4 effect subject kind reason bindingId rest answer now =>
    obtain ⟨sayable,others⟩ := holds.knows
    have writes : Writes policy none s _ := recordEffectCallback_writes valid sayable answer now
    rcases recorded : recordEffectCallback effect ⟨.effect effect.id,subject,kind,bindingId,reason⟩ answer now s with
      ⟨last,returned⟩
    rw [recorded] at moved writes
    cases moved
    split
    · exact .call writes (Rest.next_knows (others.kept writes.grows))
    · exact .call writes ⟨trivial,rfl⟩
  case h_5 => cases moved

end EngineeringPlatform.Integration
