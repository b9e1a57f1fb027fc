import EngineeringPlatform.AuthorizationEstate
namespace EngineeringPlatform.Authorization
open Checked KeyedRows TransitionRuns InterleavedCalls Identity Organization Workspace

structure AccountDto where
  id : String
  employeeNo : String
  displayName : String
  profession : Option String
  status : AccountStatus
  passwordSetAt : Option Time
  totpConfirmedAt : Option Time
  isSuperAdmin : Bool
  version : Nat
  deriving DecidableEq

structure WorkspaceDto where
  id : Uuid
  name : String
  ownerId : String
  archivedAt : Option Time
  version : Nat
  deriving DecidableEq

inductive FactsError where
  | accountNotFound
  | identityFactsChanged
  | workspaceNotFound
  | workspaceArchived
  | workspaceFactsChanged
  | ambiguousMembership
  deriving DecidableEq

structure ActorAccountFacts where
  accountId : String
  version : Nat
  status : AccountStatus
  initialized : Bool
  deriving DecidableEq

structure ActorWorkspaceFacts where
  workspaceId : Uuid
  version : Nat
  memberSource : Option MemberSource
  memberComputedAt : Option Time
  archived : Bool
  deriving DecidableEq

def getAccount (id : String) (s : Estate) : Except FactsError AccountDto := do
  let (view,detail) ← orRaise (s.account id) .accountNotFound
  pure ⟨view.id,view.employeeNo,view.displayName,detail.profession,view.status,detail.passwordSetAt,
    detail.totpConfirmedAt,detail.isSuperAdmin,detail.version⟩

def getOrganizationAccount (id : String) (s : Estate) : Option AccountView := s.governance.directory.accounts id

def activeWorkspace (id : Uuid) (s : Estate) : Except FactsError Workspace.Workspace := do
  let workspace ← orRaise (s.governance.workspace id) .workspaceNotFound
  require (workspace.archivedAt = none) .workspaceArchived
  pure workspace

def getWorkspace (id : Uuid) (s : Estate) : Except FactsError WorkspaceDto := do
  let workspace ← activeWorkspace id s
  pure ⟨workspace.id,workspace.name,workspace.ownerId,workspace.archivedAt,workspace.version⟩

def projectionRows (id : Uuid) (s : Estate) : List MemberRow :=
  (s.governance.workspace id).elim [] (·.members)

def effectiveRows : List MemberRow → Call Estate FactsError (List MemberRow)
  | [] => pure []
  | row :: rest => do
    let account ← read (getOrganizationAccount row.accountId)
    let others ← effectiveRows rest
    pure (if account.any (·.effective) then row :: others else others)

def members (id : Uuid) : Call Estate FactsError (List MemberRow) := do
  let _ ← readOk (activeWorkspace id)
  let rows ← read (projectionRows id)
  effectiveRows rows

def actorAccountFacts (before : AccountDto) (initialized : Option AccountView) (after : AccountDto) :
    Except FactsError ActorAccountFacts := do
  let view ← orRaise initialized .identityFactsChanged
  require (before = after ∧ view.status = after.status) .identityFactsChanged
  pure ⟨after.id,after.version,after.status,view.initialized⟩

def accountFacts (actor : String) : Call Estate FactsError ActorAccountFacts := do
  let before ← readOk (getAccount actor)
  let initialized ← read (getOrganizationAccount actor)
  let after ← readOk (getAccount actor)
  .ofOutcome (actorAccountFacts before initialized after)

def actorWorkspaceFacts (actor : String) (before : WorkspaceDto) (members : List MemberRow) (after : WorkspaceDto) :
    Except FactsError ActorWorkspaceFacts := do
  require (before = after) .workspaceFactsChanged
  let relevant := members.filter (·.accountId = actor)
  require (relevant.length ≤ 1) .ambiguousMembership
  let member := relevant.head?
  pure ⟨after.id,after.version,member.map (·.source),member.map (·.computedAt),after.archivedAt.isSome⟩

def membershipFacts (actor : String) (workspaceId : Uuid) : Call Estate FactsError ActorWorkspaceFacts := do
  let before ← readOk (getWorkspace workspaceId)
  let found ← members workspaceId
  let after ← readOk (getWorkspace workspaceId)
  .ofOutcome (actorWorkspaceFacts actor before found after)

def Grant.validAt (grant : Grant) (now : Time) : Bool :=
  grant.validFrom.all (· ≤ now) && grant.validTo.all (now < ·)

def effectiveGrants (principalId : String) (capability : Option String) (scope : Option Scope) (now : Time) (s : Estate) :
    List Grant :=
  s.ledger.grants.filter fun grant => grant.principalId = principalId ∧ grant.status = .active ∧
    grant.validAt now = true ∧ capability.all (grant.capability = ·) = true ∧ scope.all (grant.scope = ·) = true

-- The clock is read before the grants are.
def requiredGrants (actor : String) (scope : Scope) : List String → Call Estate FactsError (List Grant)
  | [] => pure []
  | capability :: rest => do
    let now ← read (·.clock)
    let grants ← read (effectiveGrants actor (some capability) (some scope) now)
    let others ← requiredGrants actor scope rest
    pure (grants ++ others)

def grantBefore (one two : Grant) : Bool :=
  one.capability < two.capability ∨ (one.capability = two.capability ∧ one.id ≤ two.id)

inductive QualificationReason where
  | allow
  | currentFactsDenied
  | factsUnavailable
  deriving DecidableEq

-- What was read before something raised stays in the snapshot.
structure ActorQualificationSnapshot where
  eligible : Bool
  reason : QualificationReason
  actorId : String
  workspaceId : Uuid
  requiredCapabilities : List String
  account : Option ActorAccountFacts
  workspace : Option ActorWorkspaceFacts
  principal : Option PrincipalVersion
  grants : List Grant
  checkedAt : Time
  deriving DecidableEq

-- str(workspace_id)
def workspaceScope (workspaceId : Uuid) : Scope := .workspace (toString workspaceId)

def effectiveFacts (actor : String) (workspaceId : Uuid) (principal : Option PrincipalVersion)
    (account : ActorAccountFacts) (membership : ActorWorkspaceFacts) : Bool :=
  principal.any (fun row => row.accountId = actor ∧ 0 < row.version ∧ row.dirtyGeneration = none ∧
      row.dirtyReason = none) &&
    decide (account.accountId = actor ∧ 0 < account.version ∧ account.status = .enabled ∧ account.initialized = true ∧
      membership.workspaceId = workspaceId ∧ 0 < membership.version ∧ membership.archived = false ∧
      membership.memberSource.isSome = true ∧ membership.memberComputedAt.isSome = true)

def matchingGrants (actor : String) (scope : Scope) (checkedAt : Time) (grants : List Grant) : List Grant :=
  grants.filter fun grant => grant.principalId = actor ∧ grant.scope = scope ∧ grant.status = .active ∧
    0 < grant.version ∧ grant.validAt checkedAt = true

def evaluate (actor : String) (workspaceId : Uuid) (requiredCapabilities : List String) :
    Call Estate FactsError ActorQualificationSnapshot := do
  let unavailable (principal : Option PrincipalVersion) (account : Option ActorAccountFacts)
      (workspace : Option ActorWorkspaceFacts) (grants : List Grant) :
      Call Estate FactsError ActorQualificationSnapshot := do
    let checkedAt ← read (·.clock)
    pure ⟨false,.factsUnavailable,actor,workspaceId,requiredCapabilities,account,workspace,principal,grants,checkedAt⟩
  let principal ← read (·.ledger.principal actor)
  match ← (accountFacts actor).attempt with
  | .error _ => unavailable principal none none []
  | .ok account =>
    match ← (membershipFacts actor workspaceId).attempt with
    | .error _ => unavailable principal (some account) none []
    | .ok membership =>
      let found ← requiredGrants actor (workspaceScope workspaceId) requiredCapabilities
      let grants := found.insertionSort fun one two => grantBefore one two = true
      match ← (accountFacts actor).attempt with
      | .error _ => unavailable principal (some account) (some membership) grants
      | .ok accountAfter =>
        match ← (membershipFacts actor workspaceId).attempt with
        | .error _ => unavailable principal (some account) (some membership) grants
        | .ok membershipAfter =>
          let principalAfter ← read (·.ledger.principal actor)
          let checkedAt ← read (·.clock)
          let stable := account = accountAfter ∧ membership = membershipAfter ∧ principal = principalAfter
          let matching := matchingGrants actor (workspaceScope workspaceId) checkedAt grants
          let allowed : Bool := stable ∧ effectiveFacts actor workspaceId principal account membership = true ∧
            ∀ capability ∈ requiredCapabilities, ∃ grant ∈ matching, grant.capability = capability
          pure ⟨allowed,if allowed then .allow else .currentFactsDenied,actor,workspaceId,requiredCapabilities,
            some account,some membership,principal,grants,checkedAt⟩

-- What the actor is qualified by, at one instant.
structure Qualified (s : Estate) (actor : String) (workspaceId : Uuid) (requiredCapabilities : List String) : Prop where
  account : ∃ view, s.governance.directory.accounts actor = some view ∧ view.status = .enabled ∧ view.initialized = true
  membership : ∃ workspace, s.governance.workspace workspaceId = some workspace ∧ workspace.archivedAt = none ∧
    ∃ row ∈ workspace.members, row.accountId = actor
  unfenced : ∃ principal, s.ledger.principal actor = some principal ∧ principal.dirtyGeneration = none
  grants : ∀ capability ∈ requiredCapabilities, ∃ grant ∈ s.ledger.grants, grant.principalId = actor ∧
    grant.capability = capability ∧ grant.scope = workspaceScope workspaceId ∧ grant.status = .active ∧
    grant.validAt s.clock = true

end EngineeringPlatform.Authorization
