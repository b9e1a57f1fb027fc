import EngineeringPlatform.AuthorizationConvergence
import EngineeringPlatform.Workspace
namespace EngineeringPlatform.Workspace
open Checked KeyedRows TransitionRuns Organization Authorization Identity

-- The convergence handler, wired to the workspace module.
def membershipHandler (now : Time) : Option (List String → Governance → Except AuthorizationError Governance) :=
  some fun affected g =>
    match membershipChange now affected g with
    | .ok g => pure g
    | .error _ => .error .membershipRecomputeFailed

inductive GovernanceLabel where
  | security (label : LedgerLabel Unit) (now : Time)
  | account (view : AccountView)
  | setSuperior (account : String) (superior : Option String)
  | create (id : Uuid) (name owner actor : String) (now : Time)
  | invite (id : Uuid) (account : String) (expectedVersion : Nat) (actor : String) (now : Time)
  | remove (id : Uuid) (account : String) (expectedVersion : Nat) (actor : String) (now : Time)
  | transfer (id : Uuid) (newOwner : String) (expectedVersion : Nat) (actor : String) (now : Time)

-- A ledger step of this installation; only the commands below change governance
-- in any other way.
def securityLabel : LedgerLabel Unit → LedgerLabel Governance
  | .begin change id now => .begin change id now
  | .reconcile id effects now => .reconcile id effects now
  | .cancel id now => .cancel id now
  | .grant request id now => .grant request id now
  | .revoke id expectedVersion actor reason now => .revoke id expectedVersion actor reason now
  | .start transaction => .start transaction
  | .resolve transaction status => .resolve transaction status
  | .elsewhere _ => .elsewhere id

def governed (s : Converging Governance) (outcome : Except WorkspaceError (Governance × Workspace)) :
    Option (Converging Governance) :=
  (committed outcome).map fun governance => ⟨s.ledger,governance⟩

def governanceStep (s : Converging Governance) : GovernanceLabel → Option (Converging Governance)
  | .security label now => ledgerStep (membershipHandler now) s (securityLabel label)
  | .account view => some ⟨s.ledger,{s.membership with
      directory := {s.membership.directory with accounts := s.membership.directory.accounts.put view.id view}}⟩
  | .setSuperior account superior => (committed (setSuperior account superior s.membership.directory)).map
      fun directory => ⟨s.ledger,{s.membership with directory}⟩
  | .create id name owner actor now => governed s (createWorkspace id name owner actor now s.membership)
  | .invite id account expectedVersion actor now =>
    governed s (inviteLeader id account expectedVersion actor now s.membership)
  | .remove id account expectedVersion actor now =>
    governed s (removeLeader id account expectedVersion actor now s.membership)
  | .transfer id newOwner expectedVersion actor now =>
    governed s (transferOwner id newOwner expectedVersion actor now s.membership)

def governanceInitial : Converging Governance := convergenceInitial ⟨⟨.empty,[]⟩,[]⟩

def LeadersEffective (d : Directory) (workspace : Workspace) : Prop :=
  ∀ leader ∈ workspace.ownerId :: workspace.leaderIds,
    d.effective leader = true ∧ (edgeOf d.edges leader).any (·.kind = .leader) = true

-- The accounts a workspace has to do with: its owner, leaders and members, and
-- the effective direct reports that would be members.
def Concerns (d : Directory) (workspace : Workspace) (account : String) : Prop :=
  account = workspace.ownerId ∨ account ∈ workspace.leaderIds ∨
    account ∈ workspace.members.map (·.accountId) ∨
    ∃ edge ∈ d.edges, edge.accountId = account ∧ edge.kind = .member ∧ d.effective account = true ∧
      ∃ leader ∈ workspace.ownerId :: workspace.leaderIds, edge.superiorId = some leader

def Touched (d : Directory) (workspace : Workspace) (affected : List String) : Prop :=
  ∃ account ∈ affected, Concerns d workspace account

instance (d : Directory) (workspace : Workspace) : Decidable (LeadersEffective d workspace) :=
  inferInstanceAs (Decidable (∀ leader ∈ workspace.ownerId :: workspace.leaderIds, _))

instance (d : Directory) (workspace : Workspace) (account : String) : Decidable (Concerns d workspace account) :=
  inferInstanceAs (Decidable (_ ∨ _ ∨ _ ∨ ∃ edge ∈ d.edges, _))

instance (d : Directory) (workspace : Workspace) (affected : List String) :
    Decidable (Touched d workspace affected) :=
  inferInstanceAs (Decidable (∃ account ∈ affected, _))

structure Sound (s : Converging Governance) : Prop where
  ledger : LedgerValid s.ledger
  structured : validateStructure s.membership.directory.edges = .ok ()

theorem initial_sound : Sound governanceInitial := ⟨empty_valid,rfl⟩

theorem setSuperior_structured (ran : setSuperior account superior d = .ok (next,done)) :
    validateStructure next.edges = .ok () := by
  unfold setSuperior at ran
  obtain ⟨_,ran⟩ := require_bind_ok.mp ran
  obtain ⟨above,_,ran⟩ := bind_ok.mp ran
  obtain ⟨kind,_,ran⟩ := bind_ok.mp ran
  obtain ⟨checked,valid,ran⟩ := bind_ok.mp ran
  cases pure_ok.mp ran
  exact valid

variable {id : Uuid} {g next : Governance} {s : Converging Governance} {d : Directory}

theorem createWorkspace_ok (ran : createWorkspace id name owner actor now g = .ok (next,workspace)) :
    next = {g with workspaces := g.workspaces ++ [workspace]} := by
  unfold createWorkspace at ran
  obtain ⟨_,ran⟩ := require_bind_ok.mp ran
  obtain ⟨leads,_,ran⟩ := bind_ok.mp ran
  obtain ⟨_,ran⟩ := require_bind_ok.mp ran
  obtain ⟨_,ran⟩ := require_bind_ok.mp ran
  obtain ⟨projected,_,ran⟩ := bind_ok.mp ran
  cases pure_ok.mp ran
  rfl

-- What the commands on a workspace that exists do: they lock it, project the members of
-- its changed row and bump it.
def Replaced (now : Time) (g next : Governance) : Prop :=
  ∃ old changed projected, replaceProjection g.directory now changed = .ok projected ∧
    g.workspace changed.id = some old ∧ changed.version = old.version ∧ next = g.store (bumpVersion projected)

theorem Replaced.directory (replaced : Replaced now g next) : next.directory = g.directory := by
  obtain ⟨_,_,_,_,_,_,rfl⟩ := replaced
  rfl

theorem lockedOwned_found (ran : lockedOwnedWorkspace g id expectedVersion actor = .ok old) :
    g.workspace id = some old ∧ old.id = id := by
  obtain ⟨workspace,found,ran⟩ := orRaise_bind_ok.mp ran
  obtain ⟨_,ran⟩ := require_bind_ok.mp ran
  obtain ⟨_,ran⟩ := require_bind_ok.mp ran
  obtain ⟨_,ran⟩ := require_bind_ok.mp ran
  cases pure_ok.mp ran
  exact ⟨found,(find_some found).2⟩

theorem lockedOwned_same (ran : lockedOwnedWorkspace g id expectedVersion actor = .ok old) :
    g.workspace old.id = some old := by
  obtain ⟨found,here⟩ := lockedOwned_found ran
  rw [here]
  exact found

theorem inviteLeader_ok
    (ran : inviteLeader id account expectedVersion actor now g = .ok (next,workspace)) : Replaced now g next := by
  unfold inviteLeader at ran
  obtain ⟨old,locked,ran⟩ := bind_ok.mp ran
  obtain ⟨leads,_,ran⟩ := bind_ok.mp ran
  obtain ⟨_,ran⟩ := require_bind_ok.mp ran
  obtain ⟨_,ran⟩ := require_bind_ok.mp ran
  obtain ⟨projected,projecting,ran⟩ := bind_ok.mp ran
  cases pure_ok.mp ran
  exact ⟨old,_,projected,projecting,lockedOwned_same locked,rfl,rfl⟩

theorem removeLeader_ok
    (ran : removeLeader id account expectedVersion actor now g = .ok (next,workspace)) : Replaced now g next := by
  unfold removeLeader at ran
  obtain ⟨old,locked,ran⟩ := bind_ok.mp ran
  obtain ⟨_,ran⟩ := require_bind_ok.mp ran
  obtain ⟨_,ran⟩ := require_bind_ok.mp ran
  obtain ⟨projected,projecting,ran⟩ := bind_ok.mp ran
  cases pure_ok.mp ran
  exact ⟨old,_,projected,projecting,lockedOwned_same locked,rfl,rfl⟩

theorem transferOwner_ok
    (ran : transferOwner id newOwner expectedVersion actor now g = .ok (next,workspace)) : Replaced now g next := by
  unfold transferOwner at ran
  obtain ⟨old,locked,ran⟩ := bind_ok.mp ran
  obtain ⟨_,ran⟩ := require_bind_ok.mp ran
  obtain ⟨leads,_,ran⟩ := bind_ok.mp ran
  obtain ⟨_,ran⟩ := require_bind_ok.mp ran
  obtain ⟨projected,projecting,ran⟩ := bind_ok.mp ran
  cases pure_ok.mp ran
  exact ⟨old,_,projected,projecting,lockedOwned_same locked,rfl,rfl⟩

-- No workspace command and no recomputation touches the directory.
theorem membershipChange_directory (ran : membershipChange now affected g = .ok next) :
    next.directory = g.directory := by
  unfold membershipChange at ran
  split at ran
  · cases pure_ok.mp ran
    rfl
  · obtain ⟨workspaces,_,ran⟩ := bind_ok.mp ran
    cases pure_ok.mp ran
    rfl

theorem membershipHandler_directory
    (ran : recompute (membershipHandler now) wanted affected g = .ok next) : next.directory = g.directory := by
  unfold recompute at ran
  split at ran
  · unfold membershipHandler at ran
    dsimp only at ran
    split at ran
    · rename_i changed
      cases pure_ok.mp ran
      exact membershipChange_directory changed
    · cases ran
  · cases pure_ok.mp ran
    rfl

theorem reconcileWork_directory {next : Converging Governance}
    (ran : reconcileWork (membershipHandler now) id effects later s = .ok (next,converged)) :
    next.membership.directory = s.membership.directory := by
  unfold reconcileWork at ran
  split at ran
  · cases pure_ok.mp ran
    rfl
  · obtain ⟨ruling,_,ran⟩ := bind_ok.mp ran
    cases ruling with
    | wait =>
      cases pure_ok.mp ran
      rfl
    | abandon =>
      obtain ⟨abandoned,_,ran⟩ := bind_ok.mp ran
      cases pure_ok.mp ran
      rfl
    | proceed =>
      obtain ⟨membership,recomputed,ran⟩ := bind_ok.mp ran
      obtain ⟨settled,_,ran⟩ := bind_ok.mp ran
      cases pure_ok.mp ran
      exact membershipHandler_directory recomputed

theorem governed_sound {next : Converging Governance} {outcome : Except WorkspaceError (Governance × Workspace)}
    (sound : Sound s) (same : ∀ g workspace, outcome = .ok (g,workspace) → g.directory = s.membership.directory)
    (taken : governed s outcome = some next) : Sound next := by
  obtain ⟨g,workspace,ran,rfl⟩ := committed_map_some.mp taken
  refine ⟨sound.ledger,?_⟩
  change validateStructure g.directory.edges = _
  rw [same g workspace ran]
  exact sound.structured

theorem security_directory {next : Converging Governance}
    (taken : ledgerStep (membershipHandler now) s (securityLabel label) = some next) :
    next.membership.directory = s.membership.directory := by
  cases label with
  | reconcile id effects later =>
    obtain ⟨converged,ran⟩ := committed_some.mp taken
    exact reconcileWork_directory ran
  | elsewhere change =>
    cases Option.some.inj taken
    rfl
  | begin | cancel | grant | revoke | start | resolve =>
    obtain ⟨ledger,_,rfl⟩ := Option.map_eq_some_iff.mp taken
    rfl

theorem step_sound {next : Converging Governance} (sound : Sound s)
    (taken : governanceStep s label = some next) : Sound next := by
  cases label with
  | security label now =>
    refine ⟨move_valid sound.ledger (step_move sound.ledger.works taken),?_⟩
    rw [security_directory taken]
    exact sound.structured
  | account view =>
    cases Option.some.inj taken
    exact ⟨sound.ledger,sound.structured⟩
  | setSuperior account superior =>
    obtain ⟨directory,done,ran,rfl⟩ := committed_map_some.mp taken
    exact ⟨sound.ledger,setSuperior_structured ran⟩
  | create => exact governed_sound sound (fun _ _ ran => createWorkspace_ok ran ▸ rfl) taken
  | invite => exact governed_sound sound (fun _ _ ran => (inviteLeader_ok ran).directory) taken
  | remove => exact governed_sound sound (fun _ _ ran => (removeLeader_ok ran).directory) taken
  | transfer => exact governed_sound sound (fun _ _ ran => (transferOwner_ok ran).directory) taken

theorem governance_sound (path : Runs (Enabled governanceStep) governanceInitial labels s) : Sound s :=
  path.invariant (fun _ _ _ => step_sound) initial_sound

theorem validEdges_ok (structured : validateStructure d.edges = .ok ()) :
    d.validEdges = .ok d.edges := by
  unfold Directory.validEdges
  rw [structured]
  rfl

def Leads (d : Directory) (leader : String) : Prop :=
  d.effective leader = true ∧ (edgeOf d.edges leader).any (·.kind = .leader) = true

theorem addLeader_total (structured : validateStructure d.edges = .ok ()) (leader : String)
    (desired : Desired) : (∃ result, addLeader d leader desired = .ok result) ↔ Leads d leader := by
  have edges := validEdges_ok structured
  have leads : isEffectiveLeader d leader =
      .ok ((edgeOf d.edges leader).any (·.kind = .leader) && d.effective leader) := by
    unfold isEffectiveLeader
    rw [edges]
    rfl
  unfold addLeader
  rw [leads]
  constructor
  · rintro ⟨result,ran⟩
    obtain ⟨effective,ran⟩ := require_bind_ok.mp ran
    obtain ⟨found,lifted,ran⟩ := bind_ok.mp ran
    cases lifted
    obtain ⟨both,_⟩ := require_bind_ok.mp ran
    exact ⟨effective,(Bool.and_eq_true_iff.mp both).1⟩
  · rintro ⟨effective,leader'⟩
    have reports : ∃ reports, directReports d leader = .ok reports := by
      unfold directReports
      rw [edges]
      exact ⟨_,bind_ok.mpr ⟨_,rfl,require_bind_ok.mpr ⟨⟨leader',effective⟩,rfl⟩⟩⟩
    obtain ⟨reports,found⟩ := reports
    rw [found]
    refine ⟨_,require_bind_ok.mpr ⟨effective,bind_ok.mpr ⟨_,rfl,require_bind_ok.mpr ⟨?_,rfl⟩⟩⟩⟩
    rw [leader',effective]
    rfl

theorem addLeaders_total (structured : validateStructure d.edges = .ok ()) (leaders : List String)
    (desired : Desired) :
    (∃ result, addLeaders d leaders desired = .ok result) ↔ ∀ leader ∈ leaders, Leads d leader := by
  induction leaders generalizing desired with
  | nil => simp [addLeaders,pure,Except.pure]
  | cons leader rest ih =>
    rw [List.forall_mem_cons,←addLeader_total structured leader desired]
    unfold addLeaders
    constructor
    · rintro ⟨result,ran⟩
      obtain ⟨middle,first,ran⟩ := bind_ok.mp ran
      exact ⟨⟨middle,first⟩,(ih middle).mp ⟨result,ran⟩⟩
    · rintro ⟨⟨middle,first⟩,others⟩
      obtain ⟨result,ran⟩ := (ih middle).mpr others
      exact ⟨result,bind_ok.mpr ⟨middle,first,ran⟩⟩

theorem recomputeWorkspace_total (structured : validateStructure d.edges = .ok ())
    (affected : List String) (now : Time) (workspace : Workspace) :
    (∃ result, recomputeWorkspace d affected now workspace = .ok result) ↔
      (workspace.archivedAt = none → LeadersEffective d workspace) := by
  have leaders := addLeaders_total structured (workspace.ownerId :: workspace.leaderIds)
    (leadersFirst workspace.ownerId workspace.leaderIds)
  unfold recomputeWorkspace
  split
  · rename_i archived
    refine ⟨fun _ active => ?_,fun _ => ⟨workspace,rfl⟩⟩
    rw [active] at archived
    cases archived
  · rename_i active
    have active : workspace.archivedAt = none := by simpa using active
    constructor
    · rintro ⟨result,ran⟩ _
      obtain ⟨desired,computed,_⟩ := bind_ok.mp ran
      exact leaders.mp ⟨desired,computed⟩
    · intro effective
      obtain ⟨desired,computed⟩ := leaders.mpr (effective active)
      exact ⟨_,bind_ok.mpr ⟨desired,computed,rfl⟩⟩

-- The handler goes through exactly when it has nothing to do or every active
-- workspace there is has effective leaders.
theorem membershipChange_total (structured : validateStructure g.directory.edges = .ok ())
    (affected : List String) (now : Time) :
    (∃ next, membershipChange now affected g = .ok next) ↔ affected = [] ∨
      ∀ workspace ∈ g.workspaces, workspace.archivedAt = none → LeadersEffective g.directory workspace := by
  have each : (∃ found, g.workspaces.mapM (recomputeWorkspace g.directory affected now) = .ok found) ↔
      ∀ workspace ∈ g.workspaces, workspace.archivedAt = none → LeadersEffective g.directory workspace := by
    rw [mapM_total]
    exact forall₂_congr fun workspace _ => recomputeWorkspace_total structured affected now workspace
  unfold membershipChange
  split
  · rename_i idle
    exact ⟨fun _ => .inl idle,fun _ => ⟨g,rfl⟩⟩
  · rename_i busy
    rw [←each]
    constructor
    · rintro ⟨next,ran⟩
      obtain ⟨workspaces,computed,_⟩ := bind_ok.mp ran
      exact .inr ⟨workspaces,computed⟩
    · rintro (idle | ⟨workspaces,computed⟩)
      · exact absurd idle busy
      · exact ⟨_,bind_ok.mpr ⟨workspaces,computed,rfl⟩⟩

-- Reconciliation completes the item and clears its share of every fence.
def Completes (s : Converging Governance) (id : Uuid) (now : Time) : Prop :=
  ∃ next converged, reconcileWork (membershipHandler now) id {} now s = .ok (next,converged) ∧
    (∃ work, next.ledger.work id = some work ∧ work.status = .completed) ∧
    ∀ row ∈ next.ledger.pending, row.workId ≠ id

theorem recompute_total (structured : validateStructure g.directory.edges = .ok ())
    (wanted : Bool) (affected : List String) (now : Time) :
    (∃ next, recompute (membershipHandler now) wanted affected g = .ok next) ↔ wanted = false ∨ affected = [] ∨
      ∀ workspace ∈ g.workspaces, workspace.archivedAt = none → LeadersEffective g.directory workspace := by
  rw [←membershipChange_total structured affected now]
  unfold recompute membershipHandler
  cases wanted with
  | false => simp [pure,Except.pure]
  | true =>
    cases changed : membershipChange now affected g with
    | ok next => simp [changed,pure,Except.pure]
    | error error => simp [changed]

theorem completes_recompute (sound : Sound s)
    (found : s.ledger.work id = some work) (waits : work.status = .pending)
    (settled : SourceCommitted s.ledger work.source) (now : Time) :
    Completes s id now ↔ work.recomputeMembership = false ∨ work.affectedAccountIds = [] ∨
      ∀ workspace ∈ s.membership.workspaces, workspace.archivedAt = none →
        LeadersEffective s.membership.directory workspace := by
  obtain ⟨_,rfl⟩ := find_some found
  have pending : pendingWork s.ledger work.id = some work :=
    Option.filter_eq_some_iff.mpr ⟨found,by simp [waits]⟩
  have unfolded : reconcileWork (membershipHandler now) work.id {} now s =
      converge (membershipHandler now) work {} now s := by
    unfold reconcileWork
    rw [pending]
    dsimp only
    rw [proceed_verdict settled]
    rfl
  have effects : work.withEffects {} now = work := rfl
  have total : (∃ result, converge (membershipHandler now) work {} now s = .ok result) ↔ _ :=
    converge_total sound.ledger found waits {} now
  rw [effects] at total
  rw [←recompute_total sound.structured work.recomputeMembership work.affectedAccountIds now,←total]
  constructor
  · rintro ⟨next,converged,ran,_⟩
    exact ⟨_,unfolded ▸ ran⟩
  · rintro ⟨⟨next,converged⟩,ran⟩
    obtain ⟨middle,final,ends,same⟩ := converge_ends waits ran
    refine ⟨next,converged,unfolded.trans ran,?_,?_⟩
    · refine ⟨final,?_,ends.status⟩
      rw [same,ends_found ends work.id,if_pos rfl,found]
      rfl
    · rw [same]
      change ∀ row ∈ middle.pending, _
      exact ends_cleared sound.ledger found ends

-- When the workspaces a change touches are in order, it converges exactly if the
-- others are too, or nothing has to be recomputed.
theorem convergence_possible {s : Converging Governance} {id : Uuid}
    (path : Runs (Enabled governanceStep) governanceInitial labels s) (found : s.ledger.work id = some work)
    (waits : work.status = .pending) (settled : SourceCommitted s.ledger work.source)
    (touched : ∀ workspace ∈ s.membership.workspaces, workspace.archivedAt = none →
      Touched s.membership.directory workspace work.affectedAccountIds →
        LeadersEffective s.membership.directory workspace) (now : Time) :
    Completes s id now ↔ work.recomputeMembership = false ∨ work.affectedAccountIds = [] ∨
      ∀ workspace ∈ s.membership.workspaces, workspace.archivedAt = none →
        ¬Touched s.membership.directory workspace work.affectedAccountIds →
          LeadersEffective s.membership.directory workspace := by
  rw [completes_recompute (governance_sound path) found waits settled now]
  refine or_congr_right (or_congr_right ?_)
  constructor
  · exact fun effective workspace member active _ => effective workspace member active
  · intro untouched workspace member active
    by_cases concerned : Touched s.membership.directory workspace work.affectedAccountIds
    · exact touched workspace member active concerned
    · exact untouched workspace member active concerned

def sampleAccount (id : String) (status : AccountStatus) : AccountView := ⟨id,id,id,status,true⟩

def sampleBob : SecurityChange :=
  ⟨sampleSource true,"identity security fact changed",some ["bob"],["bob"],[],true⟩

-- Ann leads a workspace, and then something changes about Bob, who has nothing
-- to do with it.
def sampleGoverned : List GovernanceLabel :=
  [.account (sampleAccount "max" .enabled),.account (sampleAccount "ann" .enabled),
    .account (sampleAccount "bob" .enabled),.setSuperior "max" none,.setSuperior "ann" (some "max"),
    .create 1 "payments" "ann" "ann" 5,.security (.start "7") 6,.security (.begin sampleBob 1 7) 7,
    .security (.resolve "7" .committed) 8]

def sampleHealthy : Converging Governance :=
  (execute governanceStep governanceInitial sampleGoverned).get (by decide)

theorem convergence_possible_healthy : Completes sampleHealthy 1 9 := by
  have reached : Runs (Enabled governanceStep) governanceInitial sampleGoverned sampleHealthy :=
    execute_get (by decide)
  have waits : pendingWork sampleHealthy.ledger 1 = some ((pendingWork sampleHealthy.ledger 1).get (by decide)) := by
    simp
  obtain ⟨found,pending⟩ := pendingWork_some waits
  refine (convergence_possible reached found pending (.inr ⟨"7",rfl,by decide⟩) ?_ 9).mpr (.inr (.inr ?_))
  · decide
  · decide

-- The same, after Ann was disabled.
def sampleStuck : Converging Governance :=
  (execute governanceStep governanceInitial
    (sampleGoverned ++ [.account (sampleAccount "ann" .disabled)])).get (by decide)

theorem unrelated_workspace_blocks :
    ¬∀ labels s id work now, Runs (Enabled governanceStep) governanceInitial labels s →
      s.ledger.work id = some work → work.status = .pending → SourceCommitted s.ledger work.source →
      (∀ workspace ∈ s.membership.workspaces, workspace.archivedAt = none →
        Touched s.membership.directory workspace work.affectedAccountIds →
          LeadersEffective s.membership.directory workspace) → Completes s id now := by
  intro possible
  have reached : Runs (Enabled governanceStep) governanceInitial
      (sampleGoverned ++ [.account (sampleAccount "ann" .disabled)]) sampleStuck := execute_get (by decide)
  have waits : pendingWork sampleStuck.ledger 1 = some ((pendingWork sampleStuck.ledger 1).get (by decide)) := by
    simp
  obtain ⟨found,pending⟩ := pendingWork_some waits
  have settled : SourceCommitted sampleStuck.ledger ((pendingWork sampleStuck.ledger 1).get (by decide)).source :=
    .inr ⟨"7",rfl,by decide⟩
  have completes := possible _ _ 1 _ 9 reached found pending settled (by decide)
  have condition := (completes_recompute (governance_sound reached) found pending settled 9).mp completes
  exact absurd condition (by decide)

end EngineeringPlatform.Workspace
