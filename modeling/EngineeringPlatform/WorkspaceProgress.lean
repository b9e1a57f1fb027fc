import EngineeringPlatform.MembershipConvergence
set_option linter.dupNamespace false
namespace EngineeringPlatform.Workspace
open Checked KeyedRows TransitionRuns Organization Authorization Identity

-- The row of a workspace at a later moment: whatever changes in it, or in its members,
-- raises its version.
structure Workspace.Later (old new : Workspace) : Prop where
  version : old.version ≤ new.version
  same : new.version = old.version → new = old

theorem Workspace.Later.refl (workspace : Workspace) : workspace.Later workspace := ⟨Nat.le_refl _,fun _ => rfl⟩

theorem Workspace.Later.trans {one two three : Workspace} (first : one.Later two) (second : two.Later three) :
    one.Later three := by
  have before := first.version
  have after := second.version
  refine ⟨by omega,fun still => ?_⟩
  rw [second.same (by omega),first.same (by omega)]

theorem Workspace.later_bump {old projected : Workspace} (still : projected.version = old.version) :
    old.Later (bumpVersion projected) := by
  have bumped : (bumpVersion projected).version = old.version + 1 := congrArg (· + 1) still
  exact ⟨by omega,fun same => by omega⟩

def Governance.Later (g next : Governance) : Prop :=
  ∀ id old, g.workspace id = some old → ∃ new, next.workspace id = some new ∧ old.Later new

theorem Governance.Later.refl (g : Governance) : g.Later g := fun _ old found => ⟨old,found,.refl old⟩

theorem Governance.Later.trans {one two three : Governance} (first : one.Later two) (second : two.Later three) :
    one.Later three := by
  intro id old found
  obtain ⟨middle,there,before⟩ := first id old found
  obtain ⟨new,last,after⟩ := second id middle there
  exact ⟨new,last,before.trans after⟩

theorem replaceProjection_same (ran : replaceProjection d now workspace = .ok projected) :
    projected.id = workspace.id ∧ projected.version = workspace.version := by
  obtain ⟨desired,_,ran⟩ := bind_ok.mp ran
  cases pure_ok.mp ran
  split
  · exact ⟨rfl,rfl⟩
  · exact ⟨rfl,rfl⟩

-- A workspace replaced by one whose version is bumped.
theorem store_later {g : Governance} {projected : Workspace} (found : g.workspace projected.id = some old)
    (still : projected.version = old.version) : g.Later (g.store (bumpVersion projected)) := by
  intro id before there
  have keyed : (bumpVersion projected).id = projected.id := rfl
  have after : (g.store (bumpVersion projected)).workspace id =
      if id = projected.id then (g.workspace id).map fun _ => bumpVersion projected else g.workspace id :=
    find_replace keyed id
  by_cases here : id = projected.id
  · subst here
    cases Option.some.inj (found.symm.trans there)
    exact ⟨_,by rw [after,if_pos rfl,there]; rfl,Workspace.later_bump still⟩
  · exact ⟨before,by rw [after,if_neg here,there],.refl before⟩

theorem createWorkspace_later {id : Uuid} {g next : Governance}
    (ran : createWorkspace id name owner actor now g = .ok (next,workspace)) : g.Later next := by
  intro id old found
  refine ⟨old,?_,.refl old⟩
  rw [createWorkspace_ok ran]
  unfold Governance.workspace find at *
  rw [List.find?_append,found]
  rfl

theorem Replaced.later (replaced : Replaced now g next) : g.Later next := by
  obtain ⟨old,changed,projected,ran,found,still,rfl⟩ := replaced
  obtain ⟨sameId,sameVersion⟩ := replaceProjection_same ran
  exact store_later (sameId ▸ found) (sameVersion.trans still)

theorem recomputeWorkspace_later {old new : Workspace} (ran : recomputeWorkspace d affected now old = .ok new) :
    new.id = old.id ∧ old.Later new := by
  unfold recomputeWorkspace at ran
  split at ran
  · cases pure_ok.mp ran
    exact ⟨rfl,.refl old⟩
  · obtain ⟨desired,_,ran⟩ := bind_ok.mp ran
    cases pure_ok.mp ran
    split
    · exact ⟨rfl,.refl old⟩
    · split
      · exact ⟨rfl,.refl old⟩
      · exact ⟨rfl,Workspace.later_bump rfl⟩

-- A transaction that goes through a table row by row.
theorem mapM_find {ρ κ ε : Type} [DecidableEq κ] {key : ρ → κ} {k : κ} {old : ρ} {rows found : List ρ}
    {change : ρ → Except ε ρ} (ran : rows.mapM change = .ok found) (keeps : ∀ row new, change row = .ok new → key new = key row)
    (there : find key rows k = some old) : ∃ new, change old = .ok new ∧ find key found k = some new := by
  induction rows generalizing found with
  | nil => cases there
  | cons head tail ih =>
    rw [List.mapM_cons] at ran
    obtain ⟨first,changed,ran⟩ := bind_ok.mp ran
    obtain ⟨rest,others,ran⟩ := bind_ok.mp ran
    cases pure_ok.mp ran
    have kept := keeps head first changed
    unfold find at ih there ⊢
    rw [List.find?_cons] at there ⊢
    rw [kept]
    split at there
    · cases Option.some.inj there
      exact ⟨first,changed,rfl⟩
    · exact ih others there

theorem membershipChange_later {g next : Governance} (ran : membershipChange now affected g = .ok next) : g.Later next := by
  unfold membershipChange at ran
  split at ran
  · cases pure_ok.mp ran
    exact .refl g
  · obtain ⟨workspaces,recomputed,ran⟩ := bind_ok.mp ran
    cases pure_ok.mp ran
    intro id old found
    obtain ⟨new,changed,there⟩ := mapM_find recomputed (fun _ _ ran => (recomputeWorkspace_later ran).1) found
    exact ⟨new,there,(recomputeWorkspace_later changed).2⟩

theorem membershipHandler_later {g next : Governance}
    (ran : recompute (membershipHandler now) wanted affected g = .ok next) : g.Later next := by
  unfold recompute at ran
  split at ran
  · unfold membershipHandler at ran
    dsimp only at ran
    split at ran
    · rename_i changed
      cases pure_ok.mp ran
      exact membershipChange_later changed
    · cases ran
  · cases pure_ok.mp ran
    exact .refl g

theorem reconcileWork_later {id : Uuid} {s next : Converging Governance}
    (ran : reconcileWork (membershipHandler now) id effects later s = .ok (next,converged)) :
    s.membership.Later next.membership := by
  unfold reconcileWork at ran
  split at ran
  · cases pure_ok.mp ran
    exact .refl _
  · obtain ⟨ruling,_,ran⟩ := bind_ok.mp ran
    cases ruling with
    | wait =>
      cases pure_ok.mp ran
      exact .refl _
    | abandon =>
      obtain ⟨abandoned,_,ran⟩ := bind_ok.mp ran
      cases pure_ok.mp ran
      exact .refl _
    | proceed =>
      obtain ⟨membership,recomputed,ran⟩ := bind_ok.mp ran
      obtain ⟨settled,_,ran⟩ := bind_ok.mp ran
      cases pure_ok.mp ran
      exact membershipHandler_later recomputed

theorem security_later {s next : Converging Governance}
    (taken : ledgerStep (membershipHandler now) s (securityLabel label) = some next) :
    s.membership.Later next.membership := by
  cases label with
  | reconcile id effects later =>
    obtain ⟨converged,ran⟩ := committed_some.mp taken
    exact reconcileWork_later ran
  | elsewhere change =>
    cases Option.some.inj taken
    exact .refl _
  | begin | cancel | grant | revoke | start | resolve =>
    obtain ⟨ledger,_,rfl⟩ := Option.map_eq_some_iff.mp taken
    exact .refl _

theorem governance_later {s next : Converging Governance} (taken : governanceStep s label = some next) :
    s.membership.Later next.membership := by
  cases label with
  | security label now => exact security_later taken
  | account view =>
    cases Option.some.inj taken
    exact .refl _
  | setSuperior account superior =>
    obtain ⟨directory,done,_,rfl⟩ := committed_map_some.mp taken
    exact .refl _
  | create =>
    obtain ⟨g,workspace,ran,rfl⟩ := committed_map_some.mp taken
    exact createWorkspace_later ran
  | invite =>
    obtain ⟨g,workspace,ran,rfl⟩ := committed_map_some.mp taken
    exact (inviteLeader_ok ran).later
  | remove =>
    obtain ⟨g,workspace,ran,rfl⟩ := committed_map_some.mp taken
    exact (removeLeader_ok ran).later
  | transfer =>
    obtain ⟨g,workspace,ran,rfl⟩ := committed_map_some.mp taken
    exact (transferOwner_ok ran).later

end EngineeringPlatform.Workspace
