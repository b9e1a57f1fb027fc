import EngineeringPlatform.IdentityDomain
import EngineeringPlatform.KeyedRows
import EngineeringPlatform.Table
import Mathlib.Data.List.Sort
namespace EngineeringPlatform.Organization
open Checked KeyedRows Identity

inductive OrgKind where
  | manager
  | leader
  | member
  deriving DecidableEq

structure OrgEdge where
  accountId : String
  superiorId : Option String
  kind : OrgKind
  deriving DecidableEq

structure AccountRef where
  id : String
  employeeNo : String
  displayName : String
  deriving DecidableEq

inductive OrganizationError where
  | membersHaveNoReports
  | reportsToItself
  | managerHasSuperior
  | superiorMissing
  | levelsBroken
  | cycle
  | corruptStructure
  | ownerNotEffectiveLeader
  | targetNotEffective
  | superiorNotEffective
  | superiorOutside
  deriving DecidableEq

def deriveKind : Option OrgKind → Except OrganizationError OrgKind
  | none => pure .manager
  | some .manager => pure .leader
  | some .leader => pure .member
  | some .member => .error .membersHaveNoReports

def edgeOf (edges : List OrgEdge) (account : String) : Option OrgEdge := find OrgEdge.accountId edges account

def validateEdge (edges : List OrgEdge) (edge : OrgEdge) : Except OrganizationError Unit := do
  require (edge.superiorId ≠ some edge.accountId) .reportsToItself
  match edge.kind with
  | .manager => require (edge.superiorId = none) .managerHasSuperior
  | kind =>
    let superior ← orRaise (edge.superiorId.bind (edgeOf edges)) .superiorMissing
    let derived ← deriveKind (some superior.kind)
    require (derived = kind) .levelsBroken

-- The walk to the top visits no account twice, so it has at most one step for
-- each edge.
def climb (edges : List OrgEdge) : Nat → List String → Option String → Bool
  | _, _, none => true
  | 0, _, some _ => false
  | fuel + 1, seen, some current =>
    !seen.contains current && climb edges fuel (current :: seen) ((edgeOf edges current).bind (·.superiorId))

def validateStructure (edges : List OrgEdge) : Except OrganizationError Unit := do
  edges.forM (validateEdge edges)
  require (∀ edge ∈ edges, climb edges (edges.length + 1) [] (some edge.accountId) = true) .cycle

-- The identity facts and the reporting structure, as the workspace module reads
-- them.
structure Directory where
  accounts : Table String AccountView
  edges : List OrgEdge

def Directory.effective (d : Directory) (account : String) : Bool :=
  (d.accounts account).any (·.effective)

def Directory.validEdges (d : Directory) : Except OrganizationError (List OrgEdge) :=
  match validateStructure d.edges with
  | .ok _ => pure d.edges
  | .error _ => .error .corruptStructure

def isEffectiveLeader (d : Directory) (leader : String) : Except OrganizationError Bool := do
  let edges ← d.validEdges
  pure ((edgeOf edges leader).any (·.kind = .leader) && d.effective leader)

def reportOf (d : Directory) (leader : String) (edge : OrgEdge) : Option AccountRef :=
  if edge.superiorId = some leader ∧ edge.kind = .member then
    ((d.accounts edge.accountId).filter (·.effective)).map fun account =>
      ⟨account.id,account.employeeNo,account.displayName⟩
  else none

def refBefore (one two : AccountRef) : Bool :=
  one.employeeNo < two.employeeNo ∨ (one.employeeNo = two.employeeNo ∧ one.id ≤ two.id)

def directReports (d : Directory) (leader : String) : Except OrganizationError (List AccountRef) := do
  let edges ← d.validEdges
  require ((edgeOf edges leader).any (·.kind = .leader) = true ∧ d.effective leader = true)
    .ownerNotEffectiveLeader
  pure ((edges.filterMap (reportOf d leader)).insertionSort fun one two => refBefore one two = true)

def superiorKind (d : Directory) : Option String → Except OrganizationError (Option OrgKind)
  | none => pure none
  | some superior => do
    require (d.effective superior = true) .superiorNotEffective
    let edge ← orRaise (edgeOf d.edges superior) .superiorOutside
    pure (some edge.kind)

def setSuperior (account : String) (superior : Option String) (d : Directory) :
    Except OrganizationError (Directory × Unit) := do
  require (d.effective account = true) .targetNotEffective
  let above ← superiorKind d superior
  let kind ← deriveKind above
  let edge : OrgEdge := ⟨account,superior,kind⟩
  let proposed := upsert OrgEdge.accountId d.edges account edge fun _ => edge
  validateStructure proposed
  pure ({d with edges := proposed},())

end EngineeringPlatform.Organization
