import EngineeringPlatform.Organization
-- The row of a workspace has the name of its module.
set_option linter.dupNamespace false
namespace EngineeringPlatform.Workspace
open Checked KeyedRows Organization

inductive MemberSource where
  | owner
  | leader
  | directReport
  deriving DecidableEq

structure MemberRow where
  accountId : String
  source : MemberSource
  computedAt : Time
  deriving DecidableEq

-- A workspace with its invited leaders and its members projection.
structure Workspace where
  id : Uuid
  name : String
  ownerId : String
  archivedAt : Option Time
  version : Nat
  leaderIds : List String
  members : List MemberRow
  deriving DecidableEq

inductive WorkspaceError where
  | nameRequired
  | notFound
  | archived
  | ownerRequired
  | staleVersion
  | duplicateKey
  | ownerMustBeCreatingLeader
  | invitedNotEffectiveLeader
  | newOwnerNotEffectiveLeader
  | leaderNotEffective
  | leaderAlreadyInvited
  | leaderNotInvited
  | ownerCannotBeRemoved
  | organization (error : OrganizationError)
  deriving DecidableEq

structure Governance where
  directory : Directory
  workspaces : List Workspace

def lift (outcome : Except OrganizationError α) : Except WorkspaceError α :=
  match outcome with
  | .ok result => .ok result
  | .error error => .error (.organization error)

abbrev Desired := List (String × MemberSource)

-- dict.setdefault
def setDefault (desired : Desired) (account : String) (source : MemberSource) : Desired :=
  if desired.any (·.1 = account) then desired else desired ++ [(account,source)]

def addReports (d : Directory) (reports : List AccountRef) (desired : Desired) : Desired :=
  reports.foldl (fun desired report =>
    if d.effective report.id then setDefault desired report.id .directReport else desired) desired

def addLeader (d : Directory) (leader : String) (desired : Desired) : Except WorkspaceError Desired := do
  require (d.effective leader = true) .leaderNotEffective
  let leads ← lift (isEffectiveLeader d leader)
  require (leads = true) .leaderNotEffective
  let reports ← lift (directReports d leader)
  pure (addReports d reports desired)

def addLeaders (d : Directory) : List String → Desired → Except WorkspaceError Desired
  | [], desired => pure desired
  | leader :: rest, desired => do
    let desired ← addLeader d leader desired
    addLeaders d rest desired

def leadersFirst (owner : String) (leaders : List String) : Desired :=
  leaders.foldl (fun desired leader => setDefault desired leader .leader) [(owner,.owner)]

def desiredMembers (d : Directory) (workspace : Workspace) : Except WorkspaceError Desired :=
  addLeaders d (workspace.ownerId :: workspace.leaderIds) (leadersFirst workspace.ownerId workspace.leaderIds)

def existingMembers (workspace : Workspace) : Desired := workspace.members.map fun row => (row.accountId,row.source)

-- Equality of dicts: the order of the entries says nothing.
def sameMembers (one two : Desired) : Bool := one.all (two.contains ·) && two.all (one.contains ·)

def replaceMembers (workspace : Workspace) (desired : Desired) (now : Time) : Workspace :=
  {workspace with members := desired.map fun entry => ⟨entry.1,entry.2,now⟩}

def replaceProjection (d : Directory) (now : Time) (workspace : Workspace) : Except WorkspaceError Workspace := do
  let desired ← desiredMembers d workspace
  pure (if sameMembers (existingMembers workspace) desired then workspace else replaceMembers workspace desired now)

def bumpVersion (workspace : Workspace) : Workspace := {workspace with version := workspace.version + 1}

def validLeader (d : Directory) (account : String) : Except WorkspaceError Bool := do
  if d.effective account then lift (isEffectiveLeader d account) else pure false

def Governance.workspace (g : Governance) (id : Uuid) : Option Workspace := find Workspace.id g.workspaces id

def Governance.store (g : Governance) (workspace : Workspace) : Governance :=
  {g with workspaces := update Workspace.id g.workspaces workspace.id fun _ => workspace}

def lockedOwnedWorkspace (g : Governance) (id : Uuid) (expectedVersion : Nat) (actor : String) :
    Except WorkspaceError Workspace := do
  let workspace ← orRaise (g.workspace id) .notFound
  require (workspace.archivedAt = none) .archived
  require (workspace.ownerId = actor) .ownerRequired
  require (workspace.version = expectedVersion) .staleVersion
  pure workspace

def createWorkspace (id : Uuid) (name owner actor : String) (now : Time) (g : Governance) :
    Except WorkspaceError (Governance × Workspace) := do
  require (strip name ≠ "") .nameRequired
  let leads ← validLeader g.directory owner
  require (actor = owner ∧ leads = true) .ownerMustBeCreatingLeader
  require (g.workspace id = none) .duplicateKey
  let workspace ← replaceProjection g.directory now ⟨id,strip name,owner,none,1,[],[]⟩
  pure ({g with workspaces := g.workspaces ++ [workspace]},workspace)

def inviteLeader (id : Uuid) (account : String) (expectedVersion : Nat) (actor : String) (now : Time)
    (g : Governance) : Except WorkspaceError (Governance × Workspace) := do
  let workspace ← lockedOwnedWorkspace g id expectedVersion actor
  let leads ← validLeader g.directory account
  require (leads = true) .invitedNotEffectiveLeader
  require (account ∉ workspace.leaderIds) .leaderAlreadyInvited
  let projected ← replaceProjection g.directory now {workspace with leaderIds := workspace.leaderIds ++ [account]}
  pure (g.store (bumpVersion projected),bumpVersion projected)

def removeLeader (id : Uuid) (account : String) (expectedVersion : Nat) (actor : String) (now : Time)
    (g : Governance) : Except WorkspaceError (Governance × Workspace) := do
  let workspace ← lockedOwnedWorkspace g id expectedVersion actor
  require (account ≠ workspace.ownerId) .ownerCannotBeRemoved
  require (account ∈ workspace.leaderIds) .leaderNotInvited
  let projected ← replaceProjection g.directory now
    {workspace with leaderIds := workspace.leaderIds.filter (· ≠ account)}
  pure (g.store (bumpVersion projected),bumpVersion projected)

def transferOwner (id : Uuid) (newOwner : String) (expectedVersion : Nat) (actor : String) (now : Time)
    (g : Governance) : Except WorkspaceError (Governance × Workspace) := do
  let workspace ← lockedOwnedWorkspace g id expectedVersion actor
  require (newOwner ∈ workspace.leaderIds) .leaderNotInvited
  let leads ← validLeader g.directory newOwner
  require (leads = true) .newOwnerNotEffectiveLeader
  let projected ← replaceProjection g.directory now {workspace with ownerId := newOwner}
  pure (g.store (bumpVersion projected),bumpVersion projected)

def intersects (affected : List String) (members : Desired) : Bool := members.any fun entry => entry.1 ∈ affected

-- One turn of the loop of WorkspaceMembershipChangeHandler: the desired members
-- are computed before the handler asks whether the change concerns the workspace.
def recomputeWorkspace (d : Directory) (affected : List String) (now : Time) (workspace : Workspace) :
    Except WorkspaceError Workspace :=
  if workspace.archivedAt.isSome then pure workspace
  else do
    let desired ← desiredMembers d workspace
    pure (if !intersects affected (existingMembers workspace) && !intersects affected desired then workspace
      else if sameMembers (existingMembers workspace) desired then workspace
      else bumpVersion (replaceMembers workspace desired now))

def membershipChange (now : Time) (affected : List String) (g : Governance) : Except WorkspaceError Governance :=
  if affected = [] then pure g
  else do
    let workspaces ← g.workspaces.mapM (recomputeWorkspace g.directory affected now)
    pure {g with workspaces}

end EngineeringPlatform.Workspace
