import EngineeringPlatform.MembershipConvergence
import EngineeringPlatform.ProjectedMembers
namespace EngineeringPlatform.Workspace
open Checked KeyedRows TransitionRuns Organization Authorization Identity

def validSeen (seen : LeaderView) (account : String) : Except WorkspaceError Bool := do
  if seen.account.effective account then lift (isEffectiveLeader seen.leads account) else pure false

def createSeen (candidate : LeaderView) (view : Views) (id : Uuid) (name owner actor : String) (now : Time) :
    Except WorkspaceError Workspace := do
  require (strip name ≠ "") .nameRequired
  let leads ← validSeen candidate owner
  require (actor = owner ∧ leads = true) .ownerMustBeCreatingLeader
  replaceSeen view now ⟨id,strip name,owner,none,1,[],[]⟩

def ownedWorkspace (expectedVersion : Nat) (actor : String) (workspace : Workspace) : Except WorkspaceError Unit := do
  require (workspace.archivedAt = none) .archived
  require (workspace.ownerId = actor) .ownerRequired
  require (workspace.version = expectedVersion) .staleVersion

def inviteSeen (candidate : LeaderView) (view : Views) (account : String) (now : Time) (workspace : Workspace) :
    Except WorkspaceError Workspace := do
  let leads ← validSeen candidate account
  require (leads = true) .invitedNotEffectiveLeader
  require (account ∉ workspace.leaderIds) .leaderAlreadyInvited
  let projected ← replaceSeen view now {workspace with leaderIds := workspace.leaderIds ++ [account]}
  pure (bumpVersion projected)

def removeSeen (view : Views) (account : String) (now : Time) (workspace : Workspace) :
    Except WorkspaceError Workspace := do
  require (account ≠ workspace.ownerId) .ownerCannotBeRemoved
  require (account ∈ workspace.leaderIds) .leaderNotInvited
  let projected ← replaceSeen view now {workspace with leaderIds := workspace.leaderIds.filter (· ≠ account)}
  pure (bumpVersion projected)

def transferSeen (candidate : LeaderView) (view : Views) (newOwner : String) (now : Time) (workspace : Workspace) :
    Except WorkspaceError Workspace := do
  require (newOwner ∈ workspace.leaderIds) .leaderNotInvited
  let leads ← validSeen candidate newOwner
  require (leads = true) .newOwnerNotEffectiveLeader
  let projected ← replaceSeen view now {workspace with ownerId := newOwner}
  pure (bumpVersion projected)

def recomputeMembersSeen (view : Views) (now : Time) (workspace : Workspace) : Except WorkspaceError Workspace := do
  require (workspace.archivedAt = none) .archived
  let desired ← desiredSeen view workspace
  pure (if sameMembers (existingMembers workspace) desired then workspace
    else bumpVersion (replaceMembers workspace desired now))

inductive WorkspaceCommand where
  | invite (account : String) (expectedVersion : Nat) (actor : String)
  | remove (account : String) (expectedVersion : Nat) (actor : String)
  | transfer (newOwner : String) (expectedVersion : Nat) (actor : String)
  | recompute

-- A command, under the lock of the workspace's row.
def WorkspaceCommand.run (candidate : LeaderView) (view : Views) (now : Time) (workspace : Workspace) :
    WorkspaceCommand → Except WorkspaceError Workspace
  | .invite account expectedVersion actor => do
    ownedWorkspace expectedVersion actor workspace
    inviteSeen candidate view account now workspace
  | .remove account expectedVersion actor => do
    ownedWorkspace expectedVersion actor workspace
    removeSeen view account now workspace
  | .transfer newOwner expectedVersion actor => do
    ownedWorkspace expectedVersion actor workspace
    transferSeen candidate view newOwner now workspace
  | .recompute => recomputeMembersSeen view now workspace

-- While nothing changes, the commands are those of the governance store.
def Governance.runStill (g : Governance) (id : Uuid) (command : WorkspaceCommand) (now : Time) :
    Except WorkspaceError (Governance × Workspace) := do
  let workspace ← orRaise (g.workspace id) .notFound
  let next ← command.run (.still g.directory) (fun _ => .still g.directory) now workspace
  pure (g.store next,next)

theorem validSeen_still (d : Directory) (account : String) : validSeen (.still d) account = validLeader d account := rfl

theorem inviteLeader_seen (id : Uuid) (g : Governance) :
    inviteLeader id account expectedVersion actor now g = g.runStill id (.invite account expectedVersion actor) now := by
  unfold inviteLeader Governance.runStill lockedOwnedWorkspace WorkspaceCommand.run ownedWorkspace inviteSeen
  simp only [bind_assoc,pure_bind,validSeen_still,replaceSeen_still]

theorem removeLeader_seen (id : Uuid) (g : Governance) :
    removeLeader id account expectedVersion actor now g = g.runStill id (.remove account expectedVersion actor) now := by
  unfold removeLeader Governance.runStill lockedOwnedWorkspace WorkspaceCommand.run ownedWorkspace removeSeen
  simp only [bind_assoc,pure_bind,replaceSeen_still]

theorem transferOwner_seen (id : Uuid) (g : Governance) :
    transferOwner id newOwner expectedVersion actor now g =
      g.runStill id (.transfer newOwner expectedVersion actor) now := by
  unfold transferOwner Governance.runStill lockedOwnedWorkspace WorkspaceCommand.run ownedWorkspace transferSeen
  simp only [bind_assoc,pure_bind,validSeen_still,replaceSeen_still]

-- Of a convergence work row: what the handler is called with, the row's status,
-- and what became of the transaction of its source.
structure SecurityItem where
  id : Uuid
  affectedAccountIds : List String
  recomputeMembership : Bool
  source : TransactionStatus
  status : ConvergenceStatus

def SecurityItem.changes (row : SecurityItem) (account : String) : Bool :=
  row.source = .inProgress ∧ row.recomputeMembership = true ∧ account ∈ row.affectedAccountIds

-- One call of the handler: a transaction that lists the active workspaces and goes
-- through them. Its rows are the others' to see once it committed.
structure HandlerRun where
  listed : List Uuid
  staged : Table Uuid Workspace
  committed : Bool

-- A lock on a workspace's row, held by a handler's transaction or by a command's,
-- with the accounts whose facts changed since it was taken.
structure RowLock where
  holder : Option Uuid
  changed : List String

-- Every statement of the reading transactions sees what is committed by then.
structure Projecting where
  directory : Directory
  workspaces : List Workspace
  items : List SecurityItem
  runs : Table Uuid HandlerRun
  locks : Table Uuid RowLock
  creations : Table Uuid (List String)

namespace Projecting

def initial : Projecting := ⟨⟨.empty,[]⟩,[],[],.empty,.empty,.empty⟩

def workspace (s : Projecting) (id : Uuid) : Option Workspace := find Workspace.id s.workspaces id

def item (s : Projecting) (id : Uuid) : Option SecurityItem := find SecurityItem.id s.items id

def drop (table : Table Uuid ρ) (key : Uuid) : Table Uuid ρ := fun other => if other = key then none else table other

def releaseLocks (locks : Table Uuid RowLock) (item : Uuid) : Table Uuid RowLock :=
  fun id => (locks id).filter (·.holder ≠ some item)

-- A committed change of an account's facts, noted at whoever is still reading.
def changeFacts (s : Projecting) (account : String) (directory : Directory) : Projecting :=
  {s with directory,
          locks := s.locks.updateAll fun _ lock => {lock with changed := account :: lock.changed}
          creations := s.creations.updateAll fun _ changed => account :: changed}

def putItem (s : Projecting) (row : SecurityItem) : Projecting :=
  {s with items := upsert SecurityItem.id s.items row.id row fun _ => row}

def begin (item : Uuid) (affected : List String) (recompute : Bool) (s : Projecting) : Option Projecting :=
  if (s.item item).isNone then some (s.putItem ⟨item,affected,recompute,.inProgress,.pending⟩) else none

def putAccount (d : Directory) (view : AccountView) : Directory := ⟨d.accounts.put view.id view,d.edges⟩

-- The source's transaction commits a change of the account it registered.
def changeAccount (item : Uuid) (view : AccountView) (s : Projecting) : Option Projecting :=
  ((s.item item).filter fun row => row.changes view.id).map fun row =>
    (s.changeFacts view.id (putAccount s.directory view)).putItem
      {row with source := .committed}

-- The structure is locked while it changes, the accounts are not: they are the
-- accounts of any earlier instant.
def changeSuperior (item : Uuid) (account : String) (superior : Option String) (accounts : Table String AccountView)
    (s : Projecting) : Option Projecting :=
  ((s.item item).filter fun row => row.changes account).bind fun row =>
    (Checked.committed (setSuperior account superior ⟨accounts,s.directory.edges⟩)).map fun proposed =>
      (s.changeFacts account ⟨s.directory.accounts,proposed.edges⟩).putItem {row with source := .committed}

-- A new account registers no change: it is not initialized and nobody reports it.
def openAccount (view : AccountView) (s : Projecting) : Option Projecting :=
  if (s.directory.accounts view.id).isNone ∧ view.effective = false then
    some {s with directory := putAccount s.directory view}
  else none

-- The source's transaction ends and changed no account's facts.
def resolve (item : Uuid) (status : TransactionStatus) (s : Projecting) : Option Projecting :=
  ((s.item item).filter (·.source = .inProgress)).map fun row => s.putItem {row with source := status}

-- By the caller, or by a reconciliation that finds the source aborted: both hold
-- the row's lock, which a reconciliation keeps for the whole of its handler's call.
def cancel (item : Uuid) (s : Projecting) : Option Projecting :=
  ((s.item item).filter fun row => row.status = .pending ∧ (s.runs item).isNone).map fun row =>
    s.putItem {row with status := .cancelled}

def lockRow (id : Uuid) (holder : Option Uuid) (s : Projecting) : Option Projecting :=
  match s.locks id,s.workspace id with
  | none,some row => if row.archivedAt = none then some {s with locks := s.locks.put id ⟨holder,[]⟩} else none
  | _,_ => none

def release (id : Uuid) (s : Projecting) : Option Projecting :=
  ((s.locks id).filter (·.holder = none)).map fun _ => {s with locks := drop s.locks id}

def store (s : Projecting) (row : Workspace) : Projecting :=
  {s with workspaces := KeyedRows.update Workspace.id s.workspaces row.id fun _ => row}

def command (id : Uuid) (command : WorkspaceCommand) (candidate : LeaderView) (view : Views) (now : Time)
    (s : Projecting) : Option Projecting := do
  let _ ← (s.locks id).filter (·.holder = none)
  let row ← s.workspace id
  let next ← (command.run candidate view now row).toOption
  some {s.store next with locks := drop s.locks id}

def beginCreate (id : Uuid) (s : Projecting) : Option Projecting :=
  if (s.creations id).isNone then some {s with creations := s.creations.put id []} else none

def abandonCreate (id : Uuid) (s : Projecting) : Option Projecting := some {s with creations := drop s.creations id}

def create (id : Uuid) (name owner actor : String) (candidate : LeaderView) (view : Views) (now : Time)
    (s : Projecting) : Option Projecting :=
  if (s.creations id).isSome ∧ s.workspace id = none then
    (createSeen candidate view id name owner actor now).toOption.map fun row =>
      {s with workspaces := s.workspaces ++ [row], creations := drop s.creations id}
  else none

def activeWorkspaceIds (s : Projecting) : List Uuid := (s.workspaces.filter (·.archivedAt = none)).map (·.id)

def list (item : Uuid) (s : Projecting) : Option Projecting :=
  ((s.item item).filter fun row => row.status = .pending ∧ row.source = .committed ∧
    row.recomputeMembership = true ∧ (s.runs item).isNone).map fun _ =>
      {s with runs := s.runs.put item ⟨s.activeWorkspaceIds,.empty,false⟩}

def visit (item id : Uuid) (s : Projecting) : Option Projecting :=
  ((s.runs item).filter fun run => run.committed = false ∧ id ∈ run.listed).bind fun _ => lockRow id (some item) s

def recompute (item id : Uuid) (view : Views) (now : Time) (s : Projecting) : Option Projecting := do
  let run ← (s.runs item).filter fun run => run.committed = false ∧ (run.staged id).isNone
  let _ ← (s.locks id).filter (·.holder = some item)
  let row ← s.item item
  let old ← s.workspace id
  let next ← (recomputeSeen view row.affectedAccountIds now old).toOption
  some {s with runs := s.runs.put item {run with staged := run.staged.put id next}}

-- The loop is through: the handler's transaction commits, before the one that
-- called it.
def commitRun (item : Uuid) (s : Projecting) : Option Projecting :=
  ((s.runs item).filter fun run => run.committed = false ∧ ∀ id ∈ run.listed, (run.staged id).isSome).map fun run =>
    {s with workspaces := s.workspaces.map fun row => (run.staged row.id).getD row
            runs := s.runs.put item {run with committed := true}
            locks := releaseLocks s.locks item}

-- An error or a crash, in the handler's transaction or after it.
def rollBack (item : Uuid) (s : Projecting) : Option Projecting :=
  (s.runs item).map fun _ => {s with runs := drop s.runs item, locks := releaseLocks s.locks item}

def complete (item : Uuid) (s : Projecting) : Option Projecting :=
  ((s.item item).filter fun row => row.status = .pending ∧ row.source = .committed ∧
    (row.recomputeMembership = false ∨ (s.runs item).any (·.committed))).map fun row =>
      {s.putItem {row with status := .completed} with runs := drop s.runs item}

end Projecting

inductive ProjectionLabel where
  | begin (item : Uuid) (affected : List String) (recompute : Bool)
  | changeAccount (item : Uuid) (view : AccountView)
  | changeSuperior (item : Uuid) (account : String) (superior : Option String) (accounts : Table String AccountView)
  | openAccount (view : AccountView)
  | resolve (item : Uuid) (status : TransactionStatus)
  | cancel (item : Uuid)
  | lock (id : Uuid)
  | release (id : Uuid)
  | command (id : Uuid) (command : WorkspaceCommand) (candidate : LeaderView) (view : Views) (now : Time)
  | beginCreate (id : Uuid)
  | abandonCreate (id : Uuid)
  | create (id : Uuid) (name owner actor : String) (candidate : LeaderView) (view : Views) (now : Time)
  | list (item : Uuid)
  | visit (item id : Uuid)
  | recompute (item id : Uuid) (view : Views) (now : Time)
  | commitRun (item : Uuid)
  | rollBack (item : Uuid)
  | complete (item : Uuid)

def projectionStep (s : Projecting) : ProjectionLabel → Option Projecting
  | .begin item affected recompute => s.begin item affected recompute
  | .changeAccount item view => s.changeAccount item view
  | .changeSuperior item account superior accounts => s.changeSuperior item account superior accounts
  | .openAccount view => s.openAccount view
  | .resolve item status => s.resolve item status
  | .cancel item => s.cancel item
  | .lock id => s.lockRow id none
  | .release id => s.release id
  | .command id command candidate view now => s.command id command candidate view now
  | .beginCreate id => s.beginCreate id
  | .abandonCreate id => s.abandonCreate id
  | .create id name owner actor candidate view now => s.create id name owner actor candidate view now
  | .list item => s.list item
  | .visit item id => s.visit item id
  | .recompute item id view now => s.recompute item id view now
  | .commitRun item => s.commitRun item
  | .rollBack item => s.rollBack item
  | .complete item => s.complete item

-- Facts read since some instant: of an account that did not change since, what
-- they are now.
def Reads (d : Directory) (changed : List String) (seen : LeaderView) : Prop :=
  ∀ one ∈ [seen.account,seen.leads,seen.reports,seen.members],
    Snapshot one ∧ ∀ account ∉ changed, SameFacts one d account

-- What a step's transaction read, since it locked the workspace's row, or, for a
-- new workspace, which has no row to lock, since it began.
def Read (s : Projecting) : ProjectionLabel → Prop
  | .command id _ candidate view _ => ∀ lock, s.locks id = some lock →
    Reads s.directory lock.changed candidate ∧ ∀ leader, Reads s.directory lock.changed (view leader)
  | .recompute _ id view _ => ∀ lock, s.locks id = some lock → ∀ leader, Reads s.directory lock.changed (view leader)
  | .create id _ _ _ candidate view _ => ∀ changed, s.creations id = some changed →
    Reads s.directory changed candidate ∧ ∀ leader, Reads s.directory changed (view leader)
  | _ => True

abbrev ProjectionStep : Projecting → ProjectionLabel → Projecting → Prop :=
  Guarded Read (Enabled projectionStep)

end EngineeringPlatform.Workspace
