import EngineeringPlatform.WorkspaceProgress
namespace EngineeringPlatform.Workspace
open Checked KeyedRows TransitionRuns Organization Authorization Identity

section
variable {d : Directory} {g next : Governance} {workspace : Workspace} {account : String} {now : Time}

theorem replaceProjection_total (structured : validateStructure d.edges = .ok ()) :
    (∃ projected, replaceProjection d now workspace = .ok projected) ↔ LeadersEffective d workspace := by
  have leaders := addLeaders_total structured (workspace.ownerId :: workspace.leaderIds)
    (leadersFirst workspace.ownerId workspace.leaderIds)
  unfold replaceProjection desiredMembers
  refine Iff.trans ?_ leaders
  constructor
  · rintro ⟨projected,ran⟩
    obtain ⟨desired,found,_⟩ := bind_ok.mp ran
    exact ⟨desired,found⟩
  · rintro ⟨desired,found⟩
    exact ⟨_,bind_ok.mpr ⟨desired,found,rfl⟩⟩

theorem lockedOwned_ok {id : Uuid} (found : g.workspace id = some workspace) (active : workspace.archivedAt = none) :
    lockedOwnedWorkspace g id workspace.version workspace.ownerId = .ok workspace := by
  unfold lockedOwnedWorkspace
  rw [found]
  exact require_bind_ok.mpr ⟨active,require_bind_ok.mpr ⟨rfl,require_bind_ok.mpr ⟨rfl,rfl⟩⟩⟩

def Removed (workspace : Workspace) (account : String) : Workspace :=
  {workspace with leaderIds := workspace.leaderIds.filter (· ≠ account)}

-- When the owner can remove a leader: all that remain are effective leaders.
theorem removeLeader_total {id : Uuid} (structured : validateStructure g.directory.edges = .ok ())
    (found : g.workspace id = some workspace) (active : workspace.archivedAt = none) :
    (∃ done, removeLeader id account workspace.version workspace.ownerId now g = .ok done) ↔
      (account ≠ workspace.ownerId ∧ account ∈ workspace.leaderIds) ∧ LeadersEffective g.directory (Removed workspace account) := by
  unfold removeLeader
  rw [lockedOwned_ok found active]
  have projects : (∃ projected, replaceProjection g.directory now (Removed workspace account) = .ok projected) ↔
      LeadersEffective g.directory (Removed workspace account) := replaceProjection_total structured
  rw [←projects]
  constructor
  · rintro ⟨done,ran⟩
    obtain ⟨_,same,ran⟩ := bind_ok.mp ran
    cases same
    obtain ⟨other,ran⟩ := require_bind_ok.mp ran
    obtain ⟨invited,ran⟩ := require_bind_ok.mp ran
    obtain ⟨projected,replaced,_⟩ := bind_ok.mp ran
    exact ⟨⟨other,invited⟩,projected,replaced⟩
  · rintro ⟨⟨other,invited⟩,projected,replaced⟩
    exact ⟨_,bind_ok.mpr ⟨workspace,rfl,require_bind_ok.mpr ⟨other,require_bind_ok.mpr ⟨invited,
      bind_ok.mpr ⟨projected,replaced,rfl⟩⟩⟩⟩⟩

theorem replaceProjection_leaders (ran : replaceProjection d now workspace = .ok projected) :
    projected.id = workspace.id ∧ projected.ownerId = workspace.ownerId ∧ projected.leaderIds = workspace.leaderIds := by
  obtain ⟨desired,_,ran⟩ := bind_ok.mp ran
  cases pure_ok.mp ran
  split
  · exact ⟨rfl,rfl,rfl⟩
  · exact ⟨rfl,rfl,rfl⟩

theorem removeLeader_found {id : Uuid} (found : g.workspace id = some workspace)
    (ran : removeLeader id account expectedVersion actor now g = .ok (next,done)) :
    ∃ left, next.workspace id = some left ∧ left.ownerId = workspace.ownerId ∧
      left.leaderIds = workspace.leaderIds.filter (· ≠ account) := by
  unfold removeLeader at ran
  obtain ⟨old,locked,ran⟩ := bind_ok.mp ran
  obtain ⟨_,ran⟩ := require_bind_ok.mp ran
  obtain ⟨_,ran⟩ := require_bind_ok.mp ran
  obtain ⟨projected,projecting,ran⟩ := bind_ok.mp ran
  cases pure_ok.mp ran
  obtain ⟨stored,here⟩ := lockedOwned_found locked
  cases found.symm.trans stored
  obtain ⟨sameId,owner,leaders⟩ := replaceProjection_leaders projecting
  have keyed : (bumpVersion projected).id = id := sameId.trans here
  refine ⟨bumpVersion projected,?_,owner,leaders⟩
  unfold Governance.store Governance.workspace
  rw [keyed]
  exact find_replaced found (keyed.trans here.symm)

-- One remove_leader by the owner at the current version.
def Removes (id : Uuid) (g next : Governance) : Prop :=
  ∃ workspace account now done, g.workspace id = some workspace ∧
    removeLeader id account workspace.version workspace.ownerId now g = .ok (next,done)

def AllLead (id : Uuid) (g : Governance) : Prop :=
  ∃ workspace, g.workspace id = some workspace ∧ LeadersEffective g.directory workspace

theorem removed_effective (owner : Leads g.directory workspace.ownerId) :
    LeadersEffective g.directory (Removed workspace account) ↔
      ∀ leader ∈ workspace.leaderIds, leader ≠ account → Leads g.directory leader := by
  constructor
  · intro effective leader member differs
    exact effective leader (List.mem_cons_of_mem _ (List.mem_filter.mpr ⟨member,decide_eq_true differs⟩))
  · intro others leader member
    rcases List.mem_cons.mp member with rfl | member
    · exact owner
    · obtain ⟨invited,differs⟩ := List.mem_filter.mp member
      exact others leader invited (of_decide_eq_true differs)

-- Each removal needs every remaining leader, so that it repairs one and no more.
theorem removal_repairs {s : Converging Governance} {id : Uuid} (path : Runs (Enabled governanceStep) governanceInitial labels s)
    (found : s.membership.workspace id = some workspace) (active : workspace.archivedAt = none)
    (owner : Leads s.membership.directory workspace.ownerId) :
    (∀ account ∈ workspace.leaderIds, account ≠ workspace.ownerId → ∀ now,
      (∃ done, removeLeader id account workspace.version workspace.ownerId now s.membership = .ok done) ↔
        ∀ leader ∈ workspace.leaderIds, leader ≠ account → Leads s.membership.directory leader) ∧
    ((∃ last, Relation.ReflTransGen (Removes id) s.membership last ∧ AllLead id last) ↔
      ∀ one ∈ workspace.leaderIds, ∀ two ∈ workspace.leaderIds, ¬Leads s.membership.directory one →
        ¬Leads s.membership.directory two → one = two) := by
  have structured := (governance_sound path).structured
  have removal (account : String) (now : Time) := @removeLeader_total s.membership workspace account now id structured found active
  refine ⟨fun account invited other now => ?_,?_⟩
  · rw [removal,removed_effective owner]
    exact ⟨fun both => both.2,fun others => ⟨⟨other,invited⟩,others⟩⟩
  · constructor
    · rintro ⟨last,steps,workspace',there,effective⟩
      rcases Relation.ReflTransGen.cases_head steps with rfl | ⟨middle,⟨own,account,now,done,stored,ran⟩,_⟩
      · cases found.symm.trans there
        intro one member _ _ ineffective
        exact absurd (effective one (List.mem_cons_of_mem _ member)) ineffective
      · cases found.symm.trans stored
        have others := (removed_effective owner).mp ((removal account now).mp ⟨_,ran⟩).2
        intro one member two member' bad bad'
        have first : one = account := by
          by_contra differs
          exact bad (others one member differs)
        have second : two = account := by
          by_contra differs
          exact bad' (others two member' differs)
        exact first.trans second.symm
    · intro single
      by_cases all : ∀ leader ∈ workspace.leaderIds, Leads s.membership.directory leader
      · refine ⟨_,.refl,workspace,found,fun leader member => ?_⟩
        rcases List.mem_cons.mp member with rfl | member
        · exact owner
        · exact all leader member
      · simp only [not_forall] at all
        obtain ⟨account,invited,bad⟩ := all
        have other : account ≠ workspace.ownerId := by
          rintro rfl
          exact bad owner
        have others : ∀ leader ∈ workspace.leaderIds, leader ≠ account → Leads s.membership.directory leader := by
          intro leader member differs
          by_contra bad'
          exact differs (single leader member account invited bad' bad)
        have effective := (removed_effective owner).mpr others
        obtain ⟨⟨next,done⟩,ran⟩ := (removal account 0).mpr ⟨⟨other,invited⟩,effective⟩
        obtain ⟨left,there,sameOwner,leaders⟩ := removeLeader_found found ran
        refine ⟨next,.single ⟨workspace,account,0,done,found,ran⟩,left,there,fun leader member => ?_⟩
        rw [(removeLeader_ok ran).directory]
        rw [sameOwner,leaders] at member
        exact effective leader member

end

-- Ann's workspace with Bob and Carl as leaders, both of whom are disabled after that.
def sampleInvited : List GovernanceLabel :=
  [.account (sampleAccount "max" .enabled),.account (sampleAccount "ann" .enabled),
    .account (sampleAccount "bob" .enabled),.account (sampleAccount "carl" .enabled),.setSuperior "max" none,
    .setSuperior "ann" (some "max"),.setSuperior "bob" (some "max"),.setSuperior "carl" (some "max"),
    .create 1 "payments" "ann" "ann" 5,.invite 1 "bob" 1 "ann" 6,.invite 1 "carl" 2 "ann" 7,
    .account (sampleAccount "bob" .disabled)]

def sampleOneDisabled : Converging Governance := (execute governanceStep governanceInitial sampleInvited).get (by decide)

def sampleTwoDisabled : Converging Governance :=
  (execute governanceStep governanceInitial (sampleInvited ++ [.account (sampleAccount "carl" .disabled)])).get (by decide)

instance (d : Directory) (leader : String) : Decidable (Leads d leader) := by
  unfold Leads
  infer_instance

theorem removal_repairs_one : ∃ last, Relation.ReflTransGen (Removes 1) sampleOneDisabled.membership last ∧ AllLead 1 last := by
  have found : sampleOneDisabled.membership.workspace 1 =
      some ((sampleOneDisabled.membership.workspace 1).get (by decide)) := by simp
  exact (removal_repairs (execute_get (by decide)) found (by decide) (by decide)).2.mpr (by decide)

theorem two_ineffective_stuck :
    ¬∀ labels s id workspace account now, Runs (Enabled governanceStep) governanceInitial labels s →
      s.membership.workspace id = some workspace → workspace.archivedAt = none →
      Leads s.membership.directory workspace.ownerId → account ∈ workspace.leaderIds →
      ¬Leads s.membership.directory account →
      ∃ done, removeLeader id account workspace.version workspace.ownerId now s.membership = .ok done := by
  intro possible
  have reached : Runs (Enabled governanceStep) governanceInitial
      (sampleInvited ++ [.account (sampleAccount "carl" .disabled)]) sampleTwoDisabled := execute_get (by decide)
  have found : sampleTwoDisabled.membership.workspace 1 =
      some ((sampleTwoDisabled.membership.workspace 1).get (by decide)) := by simp
  have removed := possible _ _ 1 _ "bob" 9 reached found (by decide) (by decide) (by decide) (by decide)
  have condition := ((removeLeader_total (governance_sound reached).structured found (by decide)).mp removed).2
  exact absurd condition (by unfold LeadersEffective; decide)

end EngineeringPlatform.Workspace
