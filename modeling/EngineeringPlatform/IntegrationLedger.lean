import EngineeringPlatform.IntegrationReconciler
namespace EngineeringPlatform.Integration
open Checked ClaimedRows SharedWorkers EngineeringPlatform.SourceControl
variable {policy : IntegrationPolicy} {s next : IntegrationStore}

def DeliveryRequest.payload (row : DeliveryRequest) : DeliveryPayload :=
  ⟨row.kind,row.requirementId,row.requirementRevision,row.workItemId,row.workItemRevision,
    row.integrationMergeRequestBindingId,row.repositoryId,row.actorId⟩

structure SameRequest (one two : DeliveryRequest) : Prop where
  messageId : two.messageId = one.messageId
  payloadHash : two.payloadHash = one.payloadHash
  payload : two.payload = one.payload

theorem SameRequest.refl (row : DeliveryRequest) : SameRequest row row := ⟨rfl,rfl,rfl⟩
theorem SameRequest.trans (first : SameRequest one two) (second : SameRequest two three) : SameRequest one three :=
  ⟨second.messageId.trans first.messageId,second.payloadHash.trans first.payloadHash,
    second.payload.trans first.payload⟩
theorem SameRequest.kind (same : SameRequest one two) : two.kind = one.kind := congrArg DeliveryPayload.kind same.payload

-- How a row of the inbox ages: a processed row is final, and a recorded rejection
-- of its preflight stays.
structure RequestMoves (old new : DeliveryRequest) : Prop where
  same : SameRequest old new
  attempts : old.attempts ≤ new.attempts
  final : old.state = .processed → new = old
  sticky : ∀ reason, old.preflight = some reason → new.preflight = some reason

theorem RequestMoves.refl (row : DeliveryRequest) : RequestMoves row row :=
  ⟨.refl row,Nat.le_refl _,fun _ => rfl,fun _ recorded => recorded⟩
theorem RequestMoves.trans (first : RequestMoves one two) (second : RequestMoves two three) :
    RequestMoves one three := by
  refine ⟨first.same.trans second.same,Nat.le_trans first.attempts second.attempts,fun processed => ?_,?_⟩
  · have same := first.final processed
    subst same
    exact second.final processed
  · exact fun reason recorded => second.sticky reason (first.sticky reason recorded)

structure SamePlan (old new : IntegrationEffect) : Prop where
  id : new.id = old.id
  operation : new.operation = old.operation
  subject : new.subject = old.subject
  payload : new.payload = old.payload
  workItemId : new.workItemId = old.workItemId
  requirementId : new.requirementId = old.requirementId
  repositoryId : new.repositoryId = old.repositoryId
  fingerprint : new.requestFingerprint = old.requestFingerprint

theorem SamePlan.refl (row : IntegrationEffect) : SamePlan row row := ⟨rfl,rfl,rfl,rfl,rfl,rfl,rfl,rfl⟩
theorem SamePlan.trans (first : SamePlan one two) (second : SamePlan two three) : SamePlan one three :=
  ⟨second.id.trans first.id,second.operation.trans first.operation,second.subject.trans first.subject,
    second.payload.trans first.payload,second.workItemId.trans first.workItemId,
    second.requirementId.trans first.requirementId,second.repositoryId.trans first.repositoryId,
    second.fingerprint.trans first.fingerprint⟩

-- How an effect ages: a started one stays so, and a settled one keeps its outcome.
structure EffectMoves (old new : IntegrationEffect) : Prop where
  plan : SamePlan old new
  attempts : old.attempts ≤ new.attempts
  started : old.state ≠ .planned → new.state ≠ .planned
  settled : old.state.terminal = true →
    new.state = old.state ∧ new.lastErrorCode = old.lastErrorCode ∧ new.attempts = old.attempts

theorem EffectMoves.refl (row : IntegrationEffect) : EffectMoves row row :=
  ⟨.refl row,Nat.le_refl _,id,fun _ => ⟨rfl,rfl,rfl⟩⟩
theorem EffectMoves.trans (first : EffectMoves one two) (second : EffectMoves two three) : EffectMoves one three := by
  refine ⟨first.plan.trans second.plan,Nat.le_trans first.attempts second.attempts,
    fun started => second.started (first.started started),fun settled => ?_⟩
  obtain ⟨state,reason,attempts⟩ := first.settled settled
  obtain ⟨state',reason',attempts'⟩ := second.settled (state ▸ settled)
  exact ⟨state'.trans state,reason'.trans reason,attempts'.trans attempts⟩

theorem outcome_terminal {row : IntegrationEffect} (found : row.outcome = some notice) : row.state.terminal = true := by
  unfold IntegrationEffect.outcome at found
  split at found <;> simp_all [EffectState.terminal]

theorem EffectMoves.outcome (moved : EffectMoves old new) (settled : old.state.terminal = true) :
    new.outcome = old.outcome := by
  obtain ⟨state,reason,_⟩ := moved.settled settled
  unfold IntegrationEffect.outcome
  rw [state,reason,moved.plan.operation]

-- A binding keeps everything but its supersession, which happens once.
structure BindingMoves (old new : MergeRequestBinding) : Prop where
  same : new = {old with supersededAt := new.supersededAt}
  superseded : old.supersededAt ≠ none → new.supersededAt = old.supersededAt

theorem BindingMoves.refl (row : MergeRequestBinding) : BindingMoves row row := ⟨rfl,fun _ => rfl⟩
theorem BindingMoves.trans (first : BindingMoves one two) (second : BindingMoves two three) :
    BindingMoves one three := by
  refine ⟨?_,fun superseded => ?_⟩
  · rw [second.same,first.same]
  · have here := first.superseded superseded
    exact (second.superseded (here ▸ superseded)).trans here
theorem BindingMoves.id (moved : BindingMoves old new) : new.id = old.id := by rw [moved.same]
theorem BindingMoves.createEffectId (moved : BindingMoves old new) : new.createEffectId = old.createEffectId := by
  rw [moved.same]
theorem BindingMoves.workItemId (moved : BindingMoves old new) : new.workItemId = old.workItemId := by
  rw [moved.same]

-- What no step takes back.
structure Grows (s next : IntegrationStore) : Prop where
  inbox : Table.Advances RequestMoves s.inbox next.inbox
  effects : Table.Advances EffectMoves s.effects next.effects
  bindings : ∀ binding ∈ s.bindings, ∃ kept ∈ next.bindings, BindingMoves binding kept
  observations : ∀ fact ∈ s.observations, fact ∈ next.observations
  proofs : ∀ proof ∈ s.proofs, proof ∈ next.proofs
  callbacks : ∀ callback ∈ s.callbacks, callback ∈ next.callbacks

theorem Grows.refl (s : IntegrationStore) : Grows s s :=
  ⟨.refl RequestMoves.refl _,.refl EffectMoves.refl _,fun binding member => ⟨binding,member,.refl _⟩,
    fun _ member => member,fun _ member => member,fun _ member => member⟩
theorem Grows.trans (first : Grows one two) (second : Grows two three) : Grows one three := by
  refine ⟨first.inbox.trans (fun _ _ _ => RequestMoves.trans) second.inbox,
    first.effects.trans (fun _ _ _ => EffectMoves.trans) second.effects,fun binding member => ?_,
    fun fact member => second.observations _ (first.observations _ member),
    fun proof member => second.proofs _ (first.proofs _ member),
    fun callback member => second.callbacks _ (first.callbacks _ member)⟩
  obtain ⟨middle,there,moved⟩ := first.bindings binding member
  obtain ⟨kept,here,further⟩ := second.bindings middle there
  exact ⟨kept,here,moved.trans further⟩

-- The request of a fingerprint is in the inbox …
def Asked (s : IntegrationStore) (fingerprint : String) : Prop :=
  ∃ messageId row, s.inbox messageId = some row ∧ row.payloadHash = fingerprint
-- … or has been processed …
def Heard (s : IntegrationStore) (fingerprint : String) : Prop :=
  ∃ messageId row, s.inbox messageId = some row ∧ row.payloadHash = fingerprint ∧ row.state = .processed
-- … and the Requirement module has accepted the outcome of an effect.
def Answered (s : IntegrationStore) (effect : IntegrationEffect) : Prop :=
  ∃ callback ∈ s.callbacks, callback.source = .effect effect.id ∧
    effect.outcome = some (callback.kind,callback.reasonCode)

theorem Asked.kept (asked : Asked s fingerprint) (grows : Grows s next) : Asked next fingerprint := by
  obtain ⟨messageId,row,found,same⟩ := asked
  obtain ⟨row',stored,moved⟩ := grows.inbox messageId row found
  exact ⟨messageId,row',stored,moved.same.payloadHash.trans same⟩

theorem Heard.kept (heard : Heard s fingerprint) (grows : Grows s next) : Heard next fingerprint := by
  obtain ⟨messageId,row,found,same,processed⟩ := heard
  obtain ⟨row',stored,moved⟩ := grows.inbox messageId row found
  rw [moved.final processed] at stored
  exact ⟨messageId,row,stored,same,processed⟩

theorem Answered.kept (answered : Answered s effect) (grows : Grows s next) : Answered next effect := by
  obtain ⟨callback,member,source,outcome⟩ := answered
  exact ⟨callback,grows.callbacks _ member,source,outcome⟩

-- A binding as it was at some moment of the run.
def Bears (s : IntegrationStore) (binding : MergeRequestBinding) : Prop :=
  ∃ kept ∈ s.bindings, BindingMoves binding kept

theorem Bears.kept (bears : Bears s binding) (grows : Grows s next) : Bears next binding := by
  obtain ⟨kept,member,moved⟩ := bears
  obtain ⟨later,there,further⟩ := grows.bindings kept member
  exact ⟨later,there,moved.trans further⟩

-- The binding that a callback of an effect may name: what the effect created, or what
-- it was to merge.
def Names (s : IntegrationStore) (effect : IntegrationEffect) (bindingId : Option Uuid) : Prop :=
  ∀ id, bindingId = some id → match effect.operation with
    | .createIntegrationMr => ∃ binding ∈ s.bindings, binding.id = id ∧ binding.createEffectId = effect.id
    | .mergeIntegrationMr => ∃ headSha, effect.payload = .merge id headSha

theorem names_none (s : IntegrationStore) (effect : IntegrationEffect) : Names s effect none :=
  fun _ absurd => by cases absurd

theorem Names.kept (names : Names s effect bindingId) (grows : Grows s next) : Names next effect bindingId := by
  intro id named
  have there := names id named
  cases operation : effect.operation with
  | createIntegrationMr =>
    simp only [operation] at there ⊢
    obtain ⟨binding,member,same,created⟩ := there
    obtain ⟨kept,here,moved⟩ := grows.bindings binding member
    exact ⟨kept,here,moved.id.trans same,moved.createEffectId.trans created⟩
  | mergeIntegrationMr =>
    simp only [operation] at there ⊢
    exact there

theorem Names.moved (names : Names s old bindingId) (plan : SamePlan old new) : Names s new bindingId := by
  unfold Names at names ⊢
  rw [plan.operation,plan.id,plan.payload]
  exact names

-- What a callback said of an effect was its outcome, or that it is still undecided;
-- what it said of a message was the recorded rejection of its preflight.
def Told (s : IntegrationStore) (callback : RequirementCallback) : Prop :=
  match callback.source with
  | .effect id => ∃ row, s.effects id = some row ∧ callback.subject.workItemId = row.workItemId ∧
      Names s row callback.bindingId ∧ (callback.kind = .pending ∧ callback.reasonCode = none ∨
        row.outcome = some (callback.kind,callback.reasonCode))
  | .message id => ∃ row reason, s.inbox id = some row ∧ callback.subject.workItemId = row.workItemId ∧
      row.preflight = some reason ∧ callback.kind = blockedKind reason ∧ callback.reasonCode = some reason

theorem Told.kept (told : Told s callback) (grows : Grows s next) : Told next callback := by
  unfold Told at told ⊢
  cases source : callback.source with
  | effect id =>
    simp only [source] at told ⊢
    obtain ⟨row,stored,item,names,said⟩ := told
    obtain ⟨row',found,moved⟩ := grows.effects id row stored
    refine ⟨row',found,item.trans moved.plan.workItemId.symm,(names.kept grows).moved moved.plan,?_⟩
    rcases said with pending | outcome
    · exact .inl pending
    · exact .inr ((moved.outcome (outcome_terminal outcome)).trans outcome)
  | message id =>
    simp only [source] at told ⊢
    obtain ⟨row,reason,stored,item,recorded,said⟩ := told
    obtain ⟨row',found,moved⟩ := grows.inbox id row stored
    exact ⟨row',reason,found,item.trans (congrArg DeliveryPayload.workItemId moved.same.payload).symm,
      moved.sticky reason recorded,said⟩

-- How a processed request was answered: the Requirement module has accepted its
-- rejection, or an effect of its own is under way.
def Refused (s : IntegrationStore) (row : DeliveryRequest) : Prop :=
  ∃ reason, row.preflight = some reason ∧ ∃ callback ∈ s.callbacks,
    callback.source = .message row.messageId ∧ callback.reasonCode = some reason
def Served (s : IntegrationStore) (row : DeliveryRequest) : Prop :=
  ∃ id effect, s.effects id = some effect ∧ effect.requestFingerprint = row.payloadHash ∧ effect.state ≠ .planned

theorem Refused.kept (refused : Refused s row) (grows : Grows s next) : Refused next row := by
  obtain ⟨reason,recorded,callback,member,said⟩ := refused
  exact ⟨reason,recorded,callback,grows.callbacks _ member,said⟩

theorem Served.kept (served : Served s row) (grows : Grows s next) : Served next row := by
  obtain ⟨id,effect,stored,same,started⟩ := served
  obtain ⟨effect',found,moved⟩ := grows.effects id effect stored
  exact ⟨id,effect',found,moved.plan.fingerprint.trans same,moved.started started⟩

theorem bindingById_ne_none : s.bindingById id' ≠ none ↔ ∃ binding ∈ s.bindings, binding.id = id' := by
  simp [IntegrationStore.bindingById,KeyedRows.find]

theorem bindingByEffect_ne_none :
    s.bindingByEffect effectId ≠ none ↔ ∃ binding ∈ s.bindings, binding.createEffectId = effectId := by
  simp [IntegrationStore.bindingByEffect,KeyedRows.find]

theorem bindingById_kept (present : s.bindingById id' ≠ none) (grows : Grows s next) : next.bindingById id' ≠ none := by
  obtain ⟨binding,member,same⟩ := bindingById_ne_none.mp present
  obtain ⟨kept,there,moved⟩ := grows.bindings binding member
  exact bindingById_ne_none.mpr ⟨kept,there,moved.id.trans same⟩

theorem replayBinding_kept (present : replayBinding effect s ≠ none) (grows : Grows s next) :
    replayBinding effect next ≠ none := by
  unfold replayBinding at present ⊢
  cases operation : effect.operation with
  | createIntegrationMr =>
    simp only [operation] at present ⊢
    obtain ⟨binding,member,same⟩ := bindingByEffect_ne_none.mp present
    obtain ⟨kept,there,moved⟩ := grows.bindings binding member
    exact bindingByEffect_ne_none.mpr ⟨kept,there,moved.createEffectId.trans same⟩
  | mergeIntegrationMr =>
    cases payload : effect.payload with
    | merge bindingId headSha =>
      simp only [operation,payload] at present ⊢
      exact bindingById_kept present grows
    | create => simp [operation,payload] at present

-- The outcomes that speak of a binding.
def IntegrationEffect.namesBinding (row : IntegrationEffect) : Bool :=
  row.state = .succeeded ∨ row.state = .blocked ∧ row.lastErrorCode = some .externalMergeDrift

-- The provider has shown the merge request merged at the very head that was asked for,
-- and the observation of it is stored.
def MergedAt (policy : IntegrationPolicy) (s : IntegrationStore) (row : IntegrationEffect) : Prop :=
  ∃ bindingId snapshot, row.payload = .merge bindingId snapshot.headSha ∧ snapshot.state = .merged ∧
    ∃ fact ∈ s.observations, fact.bindingId = bindingId ∧ fact.observationDigest = policy.observationDigest snapshot

theorem MergedAt.kept (merged : MergedAt policy s row) (grows : Grows s next) : MergedAt policy next row := by
  obtain ⟨bindingId,snapshot,payload,state,fact,member,same⟩ := merged
  exact ⟨bindingId,snapshot,payload,state,fact,grows.observations _ member,same⟩

structure RowValid (policy : IntegrationPolicy) (s : IntegrationStore) (id : Uuid) (row : IntegrationEffect) : Prop where
  identified : row.id = id
  asked : Asked s row.requestFingerprint
  merges : row.operation = .mergeIntegrationMr →
    ∃ bindingId headSha, row.payload = .merge bindingId headSha ∧ s.bindingById bindingId ≠ none
  planned : row.state = .planned → row.callbackState = .pending
  reasoned : row.state = .blocked → row.lastErrorCode ≠ none
  heard : row.state = .inFlight → row.callbackState = .acked → Heard s row.requestFingerprint
  answered : row.state.terminal = true → row.callbackState = .acked → Answered s row
  bound : row.namesBinding = true → replayBinding row s ≠ none
  due : undecided row.state = true → row.nextReconcileAt ≠ none
  merged : row.operation = .mergeIntegrationMr → row.state = .succeeded → MergedAt policy s row

theorem RowValid.kept (valid : RowValid policy s id' row) (grows : Grows s next) : RowValid policy next id' row := by
  refine ⟨valid.identified,valid.asked.kept grows,fun operation => ?_,valid.planned,valid.reasoned,
    fun state acked => (valid.heard state acked).kept grows,
    fun settled acked => (valid.answered settled acked).kept grows,
    fun names => replayBinding_kept (valid.bound names) grows,valid.due,
    fun operation succeeded => (valid.merged operation succeeded).kept grows⟩
  obtain ⟨bindingId,headSha,payload,present⟩ := valid.merges operation
  exact ⟨bindingId,headSha,payload,bindingById_kept present grows⟩

-- What the binding of a work item says was proven for the effect that created it,
-- and that effect is settled.
def Proven (binding : MergeRequestBinding) (proof : ProviderProof) : Prop :=
  proof.effectId = binding.createEffectId ∧ proof.snapshot.projectId = binding.externalProjectId ∧
    proof.snapshot.iid = binding.mergeRequestIid ∧ proof.snapshot.sourceBranch = binding.sourceBranch ∧
    proof.snapshot.targetBranch = binding.targetBranch ∧ proof.snapshot.headSha = binding.headSha ∧
    proof.creationOrigin = binding.creationOrigin

structure Made (s : IntegrationStore) (binding : MergeRequestBinding) (row : IntegrationEffect)
    (proof : ProviderProof) : Prop where
  stored : s.effects binding.createEffectId = some row
  operation : row.operation = .createIntegrationMr
  workItem : row.workItemId = binding.workItemId
  requirement : row.requirementId = binding.requirementId
  repository : row.repositoryId = binding.repositoryId
  said : proof ∈ s.proofs
  proven : Proven binding proof
  settled : settledCreate proof.snapshot.state = some (row.state,row.lastErrorCode)

structure BindingsValid (s : IntegrationStore) : Prop where
  keyed : KeyedRows.Unique MergeRequestBinding.id s.bindings
  once : KeyedRows.Unique MergeRequestBinding.createEffectId s.bindings
  current : ∀ one ∈ s.bindings, ∀ two ∈ s.bindings, one.workItemId = two.workItemId →
    one.supersededAt = none → two.supersededAt = none → one = two
  headed : ∀ binding ∈ s.bindings, ∃ one ∈ s.bindings, one.workItemId = binding.workItemId ∧ one.supersededAt = none
  made : ∀ binding ∈ s.bindings, ∃ row proof, Made s binding row proof

structure RequestsValid (policy : IntegrationPolicy) (s : IntegrationStore) : Prop where
  revised : ∀ messageId payload, s.outbox messageId = some payload →
    payload.requirementRevision ≤ s.revisions payload.requirementId
  separate : ∀ one two payload, s.outbox one = some payload → s.outbox two = some payload → one = two
  accepted : ∀ messageId row, s.inbox messageId = some row → row.messageId = messageId ∧
    s.outbox messageId = some row.payload ∧ row.payloadHash = policy.payloadHash row.payload

structure StoreValid (policy : IntegrationPolicy) (s : IntegrationStore) : Prop where
  requests : RequestsValid policy s
  rows : Table.Every (RowValid policy s) s.effects
  listed : ∀ id row, s.effects id = some row → id ∈ s.effectIds
  distinct : ∀ one two row row', s.effects one = some row → s.effects two = some row' →
    row.operation = row'.operation → row.subject = row'.subject → one = two
  bindings : BindingsValid s
  answered : ∀ messageId row, s.inbox messageId = some row → row.state = .processed → Refused s row ∨ Served s row
  told : ∀ callback ∈ s.callbacks, Told s callback

theorem settledCreate_terminal (settled : settledCreate state = some (final,reason)) : final.terminal = true := by
  cases state <;> cases settled <;> rfl

-- With hashes that tell payloads apart, a fingerprint belongs to one message.
theorem RequestsValid.unique (valid : RequestsValid policy s) (injective : Function.Injective policy.payloadHash)
    (first : s.inbox one = some row) (second : s.inbox two = some row') (same : row.payloadHash = row'.payloadHash) :
    one = two := by
  obtain ⟨_,sent,hashed⟩ := valid.accepted one row first
  obtain ⟨_,sent',hashed'⟩ := valid.accepted two row' second
  have payload : row.payload = row'.payload := injective (hashed.symm.trans (same.trans hashed'))
  rw [payload] at sent
  exact valid.separate one two _ sent sent'

end EngineeringPlatform.Integration
