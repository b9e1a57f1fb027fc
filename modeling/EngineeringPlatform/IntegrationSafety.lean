import EngineeringPlatform.IntegrationReconciling
import EngineeringPlatform.CollisionFree
import Mathlib.Tactic.DeriveCountable
-- What holds of the deliveries into the integration branch in every run.
namespace EngineeringPlatform.Integration
open Checked ClaimedRows SharedWorkers EngineeringPlatform.SourceControl TransitionRuns
variable {policy : IntegrationPolicy} {s next : IntegrationStore} {before after : IntegrationWorker}

theorem claimRequest_takes (valid : StoreValid policy s) {kind : DeliveryRequestKind}
    (moved : claimRequest messageId kind claimRequired now s = some (next,after)) : Takes policy s next .idle after := by
  have idle : IntegrationWorker.idle.Holds s := ⟨trivial,fun _ held => by cases held⟩
  unfold claimRequest at moved
  dsimp only at moved
  cases claimed : claimDeliveryRequest messageId kind now s with
  | some result =>
    obtain ⟨last,request⟩ := result
    rw [claimed] at moved
    cases moved
    obtain ⟨(writes : Writes policy none s next),stored,named,old,found,rfl,rfl⟩ := claimDeliveryRequest_writes claimed
    have identified := (valid.requests.accepted messageId old found).1
    have here : (s.inbox.put messageId (old.claim now)) (old.claim now).messageId = some (old.claim now) := by
      change (s.inbox.put messageId (old.claim now)) old.messageId = _
      rw [identified]
      exact Table.put_same _ _ _
    have read : Read {s with inbox := s.inbox.put messageId (old.claim now)} kind (old.claim now) :=
      ⟨⟨_,here,.refl _⟩,named⟩
    have mine : Mine {s with inbox := s.inbox.put messageId (old.claim now)} (old.claim now) := by
      intro row there _
      cases here.symm.trans there
      rfl
    have fresh (row : DeliveryRequest) (there : s.inbox (old.claim now).messageId = some row) :
        row.attempts < (old.claim now).attempts := by
      change s.inbox old.messageId = _ at there
      rw [identified,found] at there
      cases there
      exact Nat.lt_succ_self _
    cases kind with
    | createMr =>
      refine ⟨writes,⟨read,fun request held => ?_⟩,fun key claim => .inr ?_⟩
      · cases held
        exact mine
      · cases claim
        exact fresh
    | mergeMr =>
      refine ⟨writes,⟨read,fun request held => ?_⟩,fun key claim => .inr ?_⟩
      · cases held
        exact mine
      · cases claim
        exact fresh
  | none =>
    rw [claimed] at moved
    obtain ⟨request,found,same⟩ := Option.map_eq_some_iff.mp moved
    cases same
    split
    · exact .stop idle fun _ => .refl
    · rename_i passed
      have named : request.kind = kind := by
        by_contra differs
        exact passed (.inl differs)
      have identified := (valid.requests.accepted messageId request found).1
      have read : Read s kind request := ⟨⟨request,identified.symm ▸ found,.refl request⟩,named⟩
      cases kind with
      | createMr => exact .still policy idle read fun _ held => by cases held
      | mergeMr => exact .still policy idle read fun _ held => by cases held

theorem integrationStep_takes (valid : StoreValid policy s) (injective : Function.Injective policy.payloadHash)
    (holds : before.Holds s) (moved : integrationStep policy s before event = some (next,after)) :
    Takes policy s next before after := by
  unfold integrationStep at moved
  split at moved
  case h_1 => exact claimRequest_takes valid moved
  case h_2 =>
    obtain ⟨⟨last,claimed⟩,ran,same⟩ := Option.map_eq_some_iff.mp moved
    cases same
    obtain ⟨(writes : Writes policy none s _),known⟩ := claimEffects_writes valid.rows ran
    exact .call writes (nextReconciled_knows known)
  case h_3 ids =>
    cases moved
    refine .call .refl ⟨fun effect member => ?_,rfl⟩
    obtain ⟨listed,pending⟩ := List.mem_filter.mp member
    obtain ⟨id,_,stored⟩ := List.mem_filterMap.mp listed
    simp only [pendingCallback,decide_eq_true_eq] at pending
    refine ⟨known_row valid.rows stored,?_⟩
    rcases pending.1 with same | same <;> rw [same] <;> rfl
  case h_4 => cases moved
  case h_5 => exact createStep_takes valid injective holds moved
  case h_6 => exact mergeStep_takes valid injective holds moved
  case h_7 => exact finishStep_takes valid injective holds moved
  case h_8 => exact reconcileStep_takes valid holds moved
  case h_9 => exact callStep_takes valid holds moved

theorem commitIntegration_writes (valid : StoreValid policy s)
    (committed : commitIntegration policy s transaction = some next) : Writes policy none s next := by
  cases transaction with
  | request messageId payload => exact (Write.requested committed).single
  | accept messageId now => exact (Write.accepted committed).single
  | repository row =>
    cases committed
    exact Aside.write ⟨rfl,rfl,rfl,rfl,rfl,rfl,fun _ member => member,fun _ member => member,rfl⟩
  | branch row =>
    obtain ⟨_,same⟩ := Option.ite_none_right_eq_some.mp committed
    cases same
    exact Aside.write ⟨rfl,rfl,rfl,rfl,rfl,rfl,fun _ member => member,fun _ member => member,rfl⟩
  | webhook event now =>
    cases committed
    exact makeIntegrationEffectDue_writes valid.rows

theorem IntegrationWorker.Holds.kept {holder : Option (Uuid × Nat)} {worker : IntegrationWorker} (holds : worker.Holds s)
    (writes : Writes policy holder s next) (apart : ∀ key, worker.claim = some key → holder ≠ some key) :
    worker.Holds next := by
  refine ⟨holds.knows.kept writes.grows,fun request held => ?_⟩
  refine writes.mine (holds.knows.seen held) (holds.mine request held) (apart _ ?_)
  unfold IntegrationWorker.claim
  rw [held]
  rfl

-- Two workers never hold one claim.
def ClaimsApart (one two : IntegrationWorker) : Prop := ∀ key, one.claim = some key → two.claim ≠ some key

theorem claimsApart_symmetric (one two : IntegrationWorker) (apart : ClaimsApart one two) : ClaimsApart two one :=
  fun key claimed other => apart key other claimed

theorem claimsApart_idle (worker : IntegrationWorker) : ClaimsApart .idle worker := fun _ absurd => by cases absurd

theorem Takes.apart {other : IntegrationWorker} (takes : Takes policy s next before after) (holds : other.Holds s)
    (apart : ClaimsApart before other) : ClaimsApart after other := by
  intro key claimed taken
  rcases takes.claims key claimed with had | fresh
  · exact apart key had taken
  · obtain ⟨request,held,rfl⟩ := Option.map_eq_some_iff.mp taken
    obtain ⟨row,found,moved⟩ := holds.knows.seen held
    have above := fresh row found
    have since := moved.attempts
    omega

def integrationContract (injective : Function.Injective policy.payloadHash) : Contract (integrationProgram policy) where
  valid := StoreValid policy
  holds s worker := worker.Holds s
  apart := ClaimsApart
  rely := Grows
  symmetric := claimsApart_symmetric
  idle _ _ := ⟨trivial,fun _ held => by cases held⟩
  idle_apart := claimsApart_idle
  transacted _ _ _ valid committed :=
    have writes := commitIntegration_writes valid committed
    ⟨writes.valid valid,writes.grows,fun _ holds => holds.kept writes fun _ _ absurd => by cases absurd⟩
  acted _ _ _ _ _ valid holds moved :=
    have takes := integrationStep_takes valid injective holds moved
    ⟨takes.writes.valid valid,takes.writes.grows,takes.holds,fun _ others apart =>
      ⟨others.kept takes.writes fun key claimed same => apart key same claimed,takes.apart others apart⟩⟩

theorem initial_valid (policy : IntegrationPolicy) : StoreValid policy .initial where
  requests := ⟨(fun _ _ absurd => by cases absurd),(fun _ _ _ absurd => by cases absurd),fun _ _ absurd => by cases absurd⟩
  rows := Table.every_empty _
  listed _ _ absurd := by cases absurd
  distinct _ _ _ _ absurd := by cases absurd
  bindings := ⟨List.nodup_nil,List.nodup_nil,(fun _ absurd => by cases absurd),(fun _ absurd => by cases absurd),
    fun _ absurd => by cases absurd⟩
  answered _ _ absurd := by cases absurd
  told _ absurd := by cases absurd

abbrev IntegrationRuns (policy : IntegrationPolicy) :=
  Runs (Enabled (integrationProgram policy).advance)

theorem reached_valid {s : IntegrationSystem} (injective : Function.Injective policy.payloadHash)
    (path : IntegrationRuns policy integrationInitial labels s) : (integrationContract injective).Valid s :=
  (integrationContract injective).runs_valid path ((integrationContract injective).initial_valid (initial_valid policy))

section Samples

deriving instance Countable for DeliveryRequestKind
deriving instance Countable for DeliveryPayload

def samplePayload (message : Nat) : DeliveryPayload := ⟨.createMr,1,message,3,message,none,"repo",9⟩

def sampleMergePayload : DeliveryPayload := ⟨.mergeMr,1,2,3,2,some 51,"repo",9⟩

noncomputable def samplePolicy : IntegrationPolicy where
  payloadHash := CollisionFree.hash [samplePayload 1,samplePayload 2,sampleMergePayload]
  observationDigest snapshot := snapshot.headSha ++ snapshot.mergeCommitSha.getD ""
  nextReconcileAt now _ := now

def sampleContext (message : Nat) : RequirementDeliveryContext :=
  ⟨1,message,"IN_PROGRESS",2,3,message,"IN_PROGRESS","repo","BOUND",some 9,[],some "base",some "task","MR_PENDING",none,9⟩

def sampleSnapshot (message : Nat) (head : String) : GitLabMergeRequestSnapshot :=
  ⟨"project",message,"task",targetBranch,head,.opened,"mergeable",false,true,some "success",none,none,none⟩

end Samples

section Callbacks
variable {row : IntegrationEffect} {id : Uuid}

end Callbacks

section Bindings
variable {binding kept : MergeRequestBinding}

theorem Made.terminal (made : Made s binding row proof) : row.state.terminal = true := settledCreate_terminal made.settled

end Bindings

section Preflight
variable {request row : DeliveryRequest}

-- A worker under the claim that is live decides on the outcome that is recorded.
theorem IntegrationWorker.Holds.recorded {worker : IntegrationWorker} (holds : worker.Holds s)
    (held : worker.held = some request) (found : s.inbox request.messageId = some row) (live : row.attempts = request.attempts)
    (rejected : row.preflight = some reason) : request.preflight = some reason := by
  obtain ⟨row',stored,moved⟩ := holds.knows.seen held
  cases found.symm.trans stored
  rw [preflight_same moved.same.kind (holds.mine request held row found live)] at rejected
  exact rejected

end Preflight

end EngineeringPlatform.Integration
