import EngineeringPlatform.IntegrationCallbacks
-- What each worker knows between its transactions, and keeps knowing whatever the
-- others write.
namespace EngineeringPlatform.Integration
open Checked ClaimedRows SharedWorkers EngineeringPlatform.SourceControl
variable {policy : IntegrationPolicy} {s next : IntegrationStore} {holder : Option (Uuid × Nat)}

structure Read (s : IntegrationStore) (kind : DeliveryRequestKind) (request : DeliveryRequest) : Prop where
  seen : Seen s request
  kind : request.kind = kind

-- Its preflight has no outcome yet.
structure Opened (s : IntegrationStore) (kind : DeliveryRequestKind) (request : DeliveryRequest) : Prop where
  read : Read s kind request
  unrecorded : request.preflight = none

theorem Read.kept (read : Read s expected request) (grows : Grows s next) : Read next expected request :=
  {read with seen := read.seen.kept grows}
theorem Opened.kept (opened : Opened s kind request) (grows : Grows s next) : Opened next kind request :=
  {opened with read := opened.read.kept grows}

theorem Opened.recordable (opened : Opened s kind request) (chosen : reason ∈ kind.preflightReasons) :
    Recordable request reason := ⟨opened.read.kind ▸ chosen,.inl opened.unrecorded⟩

-- The effect a worker found for its request.
structure Found (s : IntegrationStore) (operation : EffectOperation) (request : DeliveryRequest)
    (effect : IntegrationEffect) : Prop where
  ours : Ours s request effect
  operation : effect.operation = operation

theorem Found.kept (found : Found s expected request effect) (grows : Grows s next) :
    Found next expected request effect := {found with ours := found.ours.kept grows}

-- The binding is the current one of its work item, and its repository is authorized.
def Current (s : IntegrationStore) (binding : MergeRequestBinding) (profile : GitLabRepositoryProfile) : Prop :=
  s.currentBinding binding.workItemId = some binding ∧ ∃ repository,
    s.repositories binding.repositoryId = some repository ∧ repository.status = .authorized ∧
      repositoryProfile repository = profile

-- An admission to merge, and the binding it was decided on.
structure Admitted (s : IntegrationStore) (request : DeliveryRequest) (admission : MergeAdmission) : Prop where
  item : admission.context.workItemId = request.workItemId
  named : request.integrationMergeRequestBindingId = some admission.binding.id
  bears : Bears s admission.binding
  project : admission.repositoryProfile.projectId = admission.binding.externalProjectId

theorem Admitted.kept (admitted : Admitted s request admission) (grows : Grows s next) :
    Admitted next request admission := {admitted with bears := admitted.bears.kept grows}

-- A merge effect whose payload names that binding.
structure Merges (s : IntegrationStore) (request : DeliveryRequest) (admission : MergeAdmission)
    (effect : IntegrationEffect) (headSha : String) : Prop where
  admitted : Admitted s request admission
  found : Found s .mergeIntegrationMr request effect
  payload : effect.payload = .merge admission.binding.id headSha

theorem Merges.kept (merges : Merges s request admission effect headSha) (grows : Grows s next) :
    Merges next request admission effect headSha :=
  {merges with admitted := merges.admitted.kept grows, found := merges.found.kept grows}

structure Reconciled (s : IntegrationStore) (effect : IntegrationEffect) (context : MergeReconciliationContext) :
    Prop where
  known : Known s effect
  operation : effect.operation = .mergeIntegrationMr
  payload : effect.payload = .merge context.binding.id context.requestedHeadSha
  bears : Bears s context.binding
  project : context.repositoryProfile.projectId = context.binding.externalProjectId

theorem Reconciled.kept (reconciled : Reconciled s effect context) (grows : Grows s next) :
    Reconciled next effect context :=
  {reconciled with known := reconciled.known.kept grows, bears := reconciled.bears.kept grows}

theorem Bears.present (bears : Bears s binding) : s.bindingById binding.id ≠ none := by
  obtain ⟨kept,member,moved⟩ := bears
  exact bindingById_ne_none.mpr ⟨kept,member,moved.id⟩

theorem names_merge (operation : effect.operation = .mergeIntegrationMr)
    (payload : effect.payload = .merge bindingId headSha) : Names s effect (some bindingId) := by
  intro id same
  cases same
  simp only [operation]
  exact ⟨headSha,payload⟩

def CreateWorker.Knows (s : IntegrationStore) : CreateWorker → Prop
  | .requested request _ => Read s .createMr request
  | .looked request _ _ effects =>
    Read s .createMr request ∧ ∀ effect ∈ effects, Found s .createIntegrationMr request effect
  | .admitting request _ existing =>
    Opened s .createMr request ∧
      ∀ found ∈ existing, Found s .createIntegrationMr request found.1 ∧ found.1.state = .planned
  | .preflighting request admission existing | .integrating request admission existing _ =>
    Opened s .createMr request ∧ admission.context.workItemId = request.workItemId ∧
      ∀ found ∈ existing, Found s .createIntegrationMr request found.1 ∧ found.1.state = .planned
  | .acquiring request admission _ =>
    Opened s .createMr request ∧ admission.context.workItemId = request.workItemId
  | .starting request admission effect => Seen s request ∧ Underway s request admission effect
  | .binding request admission effect | .proving request admission effect _ =>
    Seen s request ∧ Underway s request admission effect ∧ effect.state = .inFlight
  | .committing request admission effect proof =>
    Seen s request ∧ Underway s request admission effect ∧ proof ∈ s.proofs ∧ proof.effectId = effect.id
  | .resolving request effect => Seen s request ∧ Found s .createIntegrationMr request effect
  | .replaying request => Heard s request.payloadHash

def MergeWorker.Knows (s : IntegrationStore) : MergeWorker → Prop
  | .requested request _ => Read s .mergeMr request
  | .replaying request claimed facts effect =>
    Seen s request ∧ (claimed = false → Heard s request.payloadHash) ∧
      Found s .mergeIntegrationMr request effect ∧ effect.state ≠ .planned ∧
      ∃ headSha, effect.payload = .merge facts.binding.id headSha
  | .admitting request stored _ =>
    Opened s .mergeMr request ∧ ∀ effect ∈ stored, Found s .mergeIntegrationMr request effect
  | .proving request admission stored _ | .classifying request admission stored _ =>
    Opened s .mergeMr request ∧ Admitted s request admission ∧
      ∀ effect ∈ stored, Found s .mergeIntegrationMr request effect
  | .acquiring request admission _ => Opened s .mergeMr request ∧ Admitted s request admission
  | .starting request admission _ effect => Seen s request ∧ ∃ headSha, Merges s request admission effect headSha
  | .merging request admission _ effect headSha =>
    Seen s request ∧ Merges s request admission effect headSha ∧ effect.state = .inFlight
  | .committing request admission effect readback =>
    Seen s request ∧ Merges s request admission effect readback.headSha ∧ readback.state = .merged
  | .resolving request admission _ => Seen s request ∧ Admitted s request admission

def FinishWorker.Knows (s : IntegrationStore) : FinishWorker → Prop
  | .blocking request subject reason _ | .conflicting request subject reason _ _ =>
    Seen s request ∧ Recordable request reason ∧ subject.workItemId = request.workItemId
  | .refusing request subject reason _ =>
    Seen s request ∧ reason ∈ request.kind.preflightReasons ∧ subject.workItemId = request.workItemId
  | .releasing request => Seen s request ∧ request.preflight = none
  | .settling request subject effect reason bindingId _ =>
    Seen s request ∧ Ours s request effect ∧ (effect.state = .planned ∨ effect.state = .inFlight) ∧
      Spared effect reason ∧ subject.workItemId = request.workItemId ∧ Names s effect bindingId
  | .unknowing request subject effect bindingId =>
    Seen s request ∧ Ours s request effect ∧ subject.workItemId = request.workItemId ∧ Names s effect bindingId

def ReconcileWorker.Knows (s : IntegrationStore) : ReconcileWorker → Prop
  | .reconciling effect rest | .unknowing effect rest => Known s effect ∧ ∀ other ∈ rest, Known s other
  | .discovering effect _ rest | .renewingCreate effect _ rest | .retrying effect _ rest
  | .provingCreate effect _ _ _ rest =>
    (Known s effect ∧ effect.operation = .createIntegrationMr) ∧ ∀ other ∈ rest, Known s other
  | .completingCreate effect _ proof rest =>
    (Known s effect ∧ effect.operation = .createIntegrationMr ∧ proof ∈ s.proofs ∧ proof.effectId = effect.id) ∧
      ∀ other ∈ rest, Known s other
  | .proving effect context rest | .renewingMerge effect context _ rest | .merging effect context _ rest =>
    Reconciled s effect context ∧ ∀ other ∈ rest, Known s other
  | .completingMerge effect bindingId snapshot reason rest =>
    (Known s effect ∧ effect.operation = .mergeIntegrationMr ∧ (∃ headSha, effect.payload = .merge bindingId headSha) ∧
      (reason = none → effect.payload = .merge bindingId snapshot.headSha ∧ snapshot.state = .merged) ∧
      reason ≠ some .externalMergeDrift) ∧ ∀ other ∈ rest, Known s other
  | .blocking effect reason bindingId rest =>
    (Known s effect ∧ Spared effect reason ∧ Names s effect bindingId) ∧ ∀ other ∈ rest, Known s other

def Settled (s : IntegrationStore) (effect : IntegrationEffect) : Prop := Known s effect ∧ effect.state.terminal = true

def Rest.Knows (s : IntegrationStore) : Rest → Prop
  | .done => True
  | .reconcile rest => ∀ effect ∈ rest, Known s effect
  | .deliver rest => ∀ effect ∈ rest, Settled s effect

def CallWorker.Knows (s : IntegrationStore) : CallWorker → Prop
  | .delivering effects => ∀ effect ∈ effects, Settled s effect
  | .addressing effect notice bindingId rest =>
    Settled s effect ∧ Names s effect bindingId ∧ (∀ said, notice = some said → effect.outcome = some said) ∧ rest.Knows s
  | .calling effect subject kind reason bindingId rest => Sayable s effect subject kind reason bindingId ∧ rest.Knows s

def IntegrationWorker.Knows (s : IntegrationStore) : IntegrationWorker → Prop
  | .idle => True
  | .create worker => worker.Knows s
  | .merge worker => worker.Knows s
  | .finish worker => worker.Knows s
  | .reconcile worker => worker.Knows s
  | .call worker => worker.Knows s

theorem CreateWorker.Knows.kept {worker : CreateWorker} (knows : worker.Knows s) (grows : Grows s next) :
    worker.Knows next := by
  cases worker with
  | requested => exact Read.kept knows grows
  | looked => exact ⟨knows.1.kept grows,fun effect member => (knows.2 effect member).kept grows⟩
  | admitting =>
    exact ⟨knows.1.kept grows,fun found member => ⟨(knows.2 found member).1.kept grows,(knows.2 found member).2⟩⟩
  | preflighting =>
    exact ⟨knows.1.kept grows,knows.2.1,
      fun found member => ⟨(knows.2.2 found member).1.kept grows,(knows.2.2 found member).2⟩⟩
  | integrating =>
    exact ⟨knows.1.kept grows,knows.2.1,
      fun found member => ⟨(knows.2.2 found member).1.kept grows,(knows.2.2 found member).2⟩⟩
  | acquiring => exact ⟨knows.1.kept grows,knows.2⟩
  | starting => exact ⟨knows.1.kept grows,knows.2.kept grows⟩
  | binding => exact ⟨knows.1.kept grows,knows.2.1.kept grows,knows.2.2⟩
  | proving => exact ⟨knows.1.kept grows,knows.2.1.kept grows,knows.2.2⟩
  | committing =>
    exact ⟨knows.1.kept grows,knows.2.1.kept grows,grows.proofs _ knows.2.2.1,knows.2.2.2⟩
  | resolving => exact ⟨knows.1.kept grows,knows.2.kept grows⟩
  | replaying => exact Heard.kept knows grows

theorem MergeWorker.Knows.kept {worker : MergeWorker} (knows : worker.Knows s) (grows : Grows s next) :
    worker.Knows next := by
  cases worker with
  | requested => exact Read.kept knows grows
  | replaying =>
    exact ⟨knows.1.kept grows,fun unclaimed => (knows.2.1 unclaimed).kept grows,knows.2.2.1.kept grows,knows.2.2.2⟩
  | admitting => exact ⟨knows.1.kept grows,fun effect member => (knows.2 effect member).kept grows⟩
  | proving =>
    exact ⟨knows.1.kept grows,knows.2.1.kept grows,fun effect member => (knows.2.2 effect member).kept grows⟩
  | classifying =>
    exact ⟨knows.1.kept grows,knows.2.1.kept grows,fun effect member => (knows.2.2 effect member).kept grows⟩
  | acquiring => exact ⟨knows.1.kept grows,knows.2.kept grows⟩
  | starting =>
    obtain ⟨seen,headSha,merges⟩ := knows
    exact ⟨seen.kept grows,headSha,merges.kept grows⟩
  | merging => exact ⟨knows.1.kept grows,knows.2.1.kept grows,knows.2.2⟩
  | committing => exact ⟨knows.1.kept grows,knows.2.1.kept grows,knows.2.2⟩
  | resolving => exact ⟨knows.1.kept grows,knows.2.kept grows⟩

theorem FinishWorker.Knows.kept {worker : FinishWorker} (knows : worker.Knows s) (grows : Grows s next) :
    worker.Knows next := by
  cases worker with
  | blocking => exact ⟨knows.1.kept grows,knows.2⟩
  | conflicting => exact ⟨knows.1.kept grows,knows.2⟩
  | refusing => exact ⟨knows.1.kept grows,knows.2⟩
  | releasing => exact ⟨knows.1.kept grows,knows.2⟩
  | settling =>
    obtain ⟨seen,ours,expected,spared,item,names⟩ := knows
    exact ⟨seen.kept grows,ours.kept grows,expected,spared,item,names.kept grows⟩
  | unknowing =>
    obtain ⟨seen,ours,item,names⟩ := knows
    exact ⟨seen.kept grows,ours.kept grows,item,names.kept grows⟩

theorem rest_kept {rest : List IntegrationEffect} (known : ∀ effect ∈ rest, Known s effect) (grows : Grows s next) :
    ∀ effect ∈ rest, Known next effect := fun effect member => (known effect member).kept grows

theorem ReconcileWorker.Knows.kept {worker : ReconcileWorker} (knows : worker.Knows s) (grows : Grows s next) :
    worker.Knows next := by
  cases worker with
  | reconciling => exact ⟨knows.1.kept grows,rest_kept knows.2 grows⟩
  | unknowing => exact ⟨knows.1.kept grows,rest_kept knows.2 grows⟩
  | discovering => exact ⟨⟨knows.1.1.kept grows,knows.1.2⟩,rest_kept knows.2 grows⟩
  | renewingCreate => exact ⟨⟨knows.1.1.kept grows,knows.1.2⟩,rest_kept knows.2 grows⟩
  | retrying => exact ⟨⟨knows.1.1.kept grows,knows.1.2⟩,rest_kept knows.2 grows⟩
  | provingCreate => exact ⟨⟨knows.1.1.kept grows,knows.1.2⟩,rest_kept knows.2 grows⟩
  | completingCreate =>
    obtain ⟨⟨known,operation,said,own⟩,rest⟩ := knows
    exact ⟨⟨known.kept grows,operation,grows.proofs _ said,own⟩,rest_kept rest grows⟩
  | proving => exact ⟨knows.1.kept grows,rest_kept knows.2 grows⟩
  | renewingMerge => exact ⟨knows.1.kept grows,rest_kept knows.2 grows⟩
  | merging => exact ⟨knows.1.kept grows,rest_kept knows.2 grows⟩
  | completingMerge => exact ⟨⟨knows.1.1.kept grows,knows.1.2⟩,rest_kept knows.2 grows⟩
  | blocking =>
    obtain ⟨⟨known,spared,names⟩,rest⟩ := knows
    exact ⟨⟨known.kept grows,spared,names.kept grows⟩,rest_kept rest grows⟩

theorem Settled.kept (settled : Settled s effect) (grows : Grows s next) : Settled next effect :=
  ⟨settled.1.kept grows,settled.2⟩

theorem Rest.Knows.kept {rest : Rest} (knows : rest.Knows s) (grows : Grows s next) : rest.Knows next := by
  cases rest with
  | done => trivial
  | reconcile => exact rest_kept knows grows
  | deliver => exact fun effect member => (knows effect member).kept grows

theorem CallWorker.Knows.kept {worker : CallWorker} (knows : worker.Knows s) (grows : Grows s next) :
    worker.Knows next := by
  cases worker with
  | delivering => exact fun effect member => (knows effect member).kept grows
  | addressing =>
    obtain ⟨settled,names,said,rest⟩ := knows
    exact ⟨settled.kept grows,names.kept grows,said,rest.kept grows⟩
  | calling => exact ⟨knows.1.kept grows,knows.2.kept grows⟩

theorem IntegrationWorker.Knows.kept {worker : IntegrationWorker} (knows : worker.Knows s) (grows : Grows s next) :
    worker.Knows next := by
  cases worker with
  | idle => trivial
  | create => exact CreateWorker.Knows.kept knows grows
  | merge => exact MergeWorker.Knows.kept knows grows
  | finish => exact FinishWorker.Knows.kept knows grows
  | reconcile => exact ReconcileWorker.Knows.kept knows grows
  | call => exact CallWorker.Knows.kept knows grows

-- The claimed request under which a worker may still record the outcome of a preflight.
def CreateWorker.held : CreateWorker → Option DeliveryRequest
  | .requested request claimed | .looked request claimed _ _ => if claimed then some request else none
  | .admitting request _ _ | .preflighting request _ _ | .integrating request _ _ _ | .acquiring request _ _ =>
    some request
  | _ => none

def MergeWorker.held : MergeWorker → Option DeliveryRequest
  | .requested request claimed => if claimed then some request else none
  | .admitting request _ _ | .proving request _ _ _ | .classifying request _ _ _ | .acquiring request _ _ =>
    some request
  | _ => none

def FinishWorker.held : FinishWorker → Option DeliveryRequest
  | .blocking request _ _ _ | .conflicting request _ _ _ _ | .releasing request => some request
  | _ => none

def IntegrationWorker.held : IntegrationWorker → Option DeliveryRequest
  | .create worker => worker.held
  | .merge worker => worker.held
  | .finish worker => worker.held
  | _ => none

def IntegrationWorker.claim (worker : IntegrationWorker) : Option (Uuid × Nat) :=
  worker.held.map fun request => (request.messageId,request.attempts)

theorem IntegrationWorker.Knows.seen {worker : IntegrationWorker} (knows : worker.Knows s)
    (held : worker.held = some request) : Seen s request := by
  cases worker with
  | idle => cases held
  | reconcile => cases held
  | call => cases held
  | create worker =>
    cases worker <;> simp only [IntegrationWorker.held,CreateWorker.held,reduceCtorEq,Option.some.injEq,
      Option.ite_none_right_eq_some] at held
    case requested => exact held.2 ▸ Read.seen knows
    case looked => exact held.2 ▸ knows.1.seen
    all_goals exact held ▸ knows.1.read.seen
  | merge worker =>
    cases worker <;> simp only [IntegrationWorker.held,MergeWorker.held,reduceCtorEq,Option.some.injEq,
      Option.ite_none_right_eq_some] at held
    case requested => exact held.2 ▸ Read.seen knows
    all_goals exact held ▸ knows.1.read.seen
  | finish worker =>
    cases worker <;> simp only [IntegrationWorker.held,FinishWorker.held,reduceCtorEq,Option.some.injEq] at held
    all_goals exact held ▸ knows.1

structure IntegrationWorker.Holds (s : IntegrationStore) (worker : IntegrationWorker) : Prop where
  knows : worker.Knows s
  mine : ∀ request, worker.held = some request → Mine s request

-- Only the holder of a claim writes an error code under it.
theorem Write.mine (write : Write policy holder s next) (seen : Seen s request) (mine : Mine s request)
    (other : holder ≠ some (request.messageId,request.attempts)) : Mine next request := by
  cases write with
  | requested sent =>
    obtain ⟨_,same⟩ := Option.ite_none_right_eq_some.mp sent
    cases same
    exact mine
  | accepted received =>
    obtain ⟨_,absent,_,rfl⟩ := acceptDeliveryRequest_some received
    intro row found held
    rcases Table.put_some found with ⟨same,_⟩ | ⟨_,stored⟩
    · obtain ⟨row',stored,_⟩ := seen
      dsimp only [DeliveryPayload.request] at same
      rw [same,absent] at stored
      cases stored
    · exact mine row stored held
  | inbox found moves claimed _ =>
    intro row stored held
    rcases Table.put_some stored with ⟨rfl,rfl⟩ | ⟨_,stored⟩
    · have since := (seen.moves found).attempts
      have aged := moves.attempts
      rcases claimed (by omega) with same | claimed
      · exact same.trans (mine _ found (by omega))
      · exact absurd (claimed.trans (by rw [show _ = _ from Nat.le_antisymm (held ▸ aged) since])) other
    · exact mine row stored held
  | effects _ _ _ => exact mine
  | planned _ _ _ => exact mine
  | called _ => exact mine
  | bound bound =>
    unfold Mine
    rw [bound.replaced.inbox]
    exact mine
  | aside aside =>
    unfold Mine
    rw [aside.inbox]
    exact mine

theorem Writes.mine (writes : Writes policy holder s next) (seen : Seen s request) (mine : Mine s request)
    (other : holder ≠ some (request.messageId,request.attempts)) : Mine next request := by
  induction writes with
  | refl => exact mine
  | tail before write ih => exact write.mine (seen.kept (Writes.grows before)) ih other

end EngineeringPlatform.Integration
