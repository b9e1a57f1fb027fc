import EngineeringPlatform.Qualification
namespace EngineeringPlatform.Authorization
open Checked KeyedRows TransitionRuns InterleavedCalls Identity Organization Workspace

def platformConfigurationManage : String := "platform.configuration.manage"
def platformSuperAdminManage : String := "platform.super_admin.manage"
def platformModelManage : String := "platform.model.manage"

def reservedPlatformCapabilities : List String :=
  [platformConfigurationManage,platformSuperAdminManage,platformModelManage]

def superAdminPlatformCapabilities : List String :=
  ["platform.home.read","platform.admin.access","audit.read","identity.account.manage","platform.organization.read",
    "platform.organization.manage","platform.workspace.read","platform.workspace.manage",
    "platform.authorization.manage",platformConfigurationManage,platformSuperAdminManage,"platform.model.read",
    "agent.definition.read",platformModelManage]

def isSuperAdminPlatformCapability (capability : String) (scope : Scope) (isSuperAdmin : Bool) : Bool :=
  isSuperAdmin = true ∧ scope = .platform ∧ capability ∈ superAdminPlatformCapabilities

structure SessionPrincipal where
  accountId : String
  employeeNo : String
  displayName : String
  sessionKind : SessionKind
  bootstrapPurpose : Option BootstrapPurpose
  isSuperAdmin : Bool
  sessionReference : String
  accountVersion : Nat
  deriving DecidableEq

structure ScopedCapability where
  capability : String
  scope : Scope
  deriving DecidableEq

structure AuthorizationPrincipal where
  accountId : String
  employeeId : String
  name : String
  isSuperAdmin : Bool
  authorizationVersion : Nat
  capabilities : List ScopedCapability
  deriving DecidableEq

inductive DecisionCode where
  | allow
  | unauthenticated
  | denied
  | unavailable
  deriving DecidableEq

structure AuthorizationDecision where
  allowed : Bool
  code : DecisionCode
  principal : Option AuthorizationPrincipal
  deriving DecidableEq

def refusal (code : DecisionCode) : AuthorizationDecision := ⟨false,code,none⟩

def allowance (principal : AuthorizationPrincipal) : AuthorizationDecision := ⟨true,.allow,some principal⟩

-- AuthorizationUnavailable, and whatever a convergence raises.
inductive DecisionError where
  | unavailable
  deriving DecidableEq

inductive Validation where
  | invalid
  | idle (session : SessionRow)
  | valid (principal : SessionPrincipal)

def sessionAllowed (kind : SessionKind) (account : AccountView) : Bool :=
  match kind with
  | .bootstrap => account.status = .pendingInit ∨ account.status = .enabled
  | .full => account.status = .enabled ∧ account.initialized = true

-- One look at the session and its account, under their row locks.
def validateSession (tokenHash : String) (s : Estate) : Validation :=
  match s.sessions tokenHash with
  | none => .invalid
  | some session =>
    match if session.revoked then none else s.account session.accountId with
    | none => .invalid
    | some (view,detail) =>
      if sessionAllowed session.kind view = false then .invalid
      else if session.lastSeenAt + s.sessionIdleTimeout ≤ s.clock then .idle session
      else .valid ⟨session.accountId,view.employeeNo,view.displayName,session.kind,session.bootstrapPurpose,
        detail.isSuperAdmin,session.sessionId,detail.version⟩

-- A step of the platform that the call takes itself.
def take (label : Estate → EstateLabel) : Call Estate DecisionError Unit :=
  commit fun s => match estateStep s (label s) with
    | some next => .ok (next,())
    | none => .error .unavailable

def reconcile (id : Uuid) : Call Estate DecisionError Unit :=
  take fun s => .govern (.security (.reconcile id {} s.clock) s.clock)

def workBefore (one two : ConvergenceWork) : Bool :=
  one.createdAt < two.createdAt ∨ (one.createdAt = two.createdAt ∧ one.id ≤ two.id)

def pendingWorks (s : Estate) : List ConvergenceWork :=
  (s.ledger.works.filter (·.status = .pending)).insertionSort fun one two => workBefore one two = true

def pendingConvergenceWorkIds (s : Estate) : List Uuid := (pendingWorks s).map (·.id)

def pendingConvergenceForAccount (account : String) (s : Estate) : List Uuid :=
  ((pendingWorks s).filter fun work => s.ledger.pending.any (·.isOf work.id account)).map (·.id)

def reconcileEach : List Uuid → Call Estate DecisionError Bool
  | [] => pure true
  | id :: rest => do
    let outcome ← (reconcile id).attempt
    let others ← reconcileEach rest
    pure (outcome.toBool && others)

def reconcilePending : Call Estate DecisionError Bool := do
  let ids ← read pendingConvergenceWorkIds
  let all ← reconcileEach ids
  let left ← read pendingConvergenceWorkIds
  pure (all && left.isEmpty)

def reconcileAll : List Uuid → Call Estate DecisionError Unit
  | [] => pure ()
  | id :: rest => do
    reconcile id
    reconcileAll rest

def reconcileForAccount (account : String) : Call Estate DecisionError Bool := do
  let ids ← read (pendingConvergenceForAccount account)
  match ← (reconcileAll ids).attempt with
  | .error _ => pure false
  | .ok () =>
    let state ← read (·.ledger.principal account)
    pure (state.any (·.dirtyGeneration = none))

-- What an idle session is revoked with: the source that names the transaction, and the
-- id of the work item.
structure IdleRevocation where
  source : SecurityChangeSource
  transaction : String
  workId : Uuid

def identityChange (source : SecurityChangeSource) (account : String) : SecurityChange :=
  ⟨source,"identity security fact changed",some [account],[account],[],true⟩

def revokeIdle (revocation : IdleRevocation) (tokenHash : String) (session : SessionRow) : Call Estate DecisionError Unit := do
  take fun s => .govern (.security (.start revocation.transaction) s.clock)
  take fun s => .govern (.security
    (.begin (identityChange revocation.source session.accountId) revocation.workId s.clock) s.clock)
  take fun _ => .identity ⟨revocation.transaction,[],[(tokenHash,{session with revoked := true})]⟩

-- SqlAlchemyIdentitySessionValidator.validate: whatever it finds, pending convergences
-- are reconciled before it answers. The instant of the validation is no part of its answer:
-- it stands here for what a later step is taken to rely on.
def validate (tokenHash : String) (revocation : IdleRevocation) :
    Call Estate DecisionError (Option (SessionPrincipal × Estate)) := do
  match ← read fun s => (validateSession tokenHash s,s) with
  | (.valid principal,instant) =>
    let _ ← reconcilePending
    pure (some (principal,instant))
  | (.invalid,_) =>
    let _ ← reconcilePending
    pure none
  | (.idle session,_) =>
    match ← (revokeIdle revocation tokenHash session).attempt with
    | .error error =>
      let _ ← reconcilePending
      .raised error
    | .ok () =>
      let _ ← (reconcile revocation.workId).attempt
      let _ ← reconcilePending
      pure none

def ConvergenceWork.changes (work : ConvergenceWork) (account : String) : Bool :=
  work.source.sourceModule = "identity" ∧ account ∈ work.accounts

def Ledger.hasCommitted (s : Ledger) (work : ConvergenceWork) : Bool :=
  work.source.sourceTransactionId.any fun transaction => s.transactions transaction = some .committed

-- An identity change of the account has committed in between.
def changedSince (before now : Ledger) (account : String) : Bool :=
  now.works.any fun work => work.changes account && now.hasCommitted work && !before.hasCommitted work

-- Taken for granted wherever a version is read and found clean: it is the one that the
-- account had when its session was validated, or no change of the account has committed since.
def steadySince (account : String) (instant s : Estate) : Bool :=
  match s.ledger.principal account with
  | none => true
  | some state => state.dirtyGeneration.isSome ∨
      (instant.ledger.principal account).map (·.version) = some state.version ∨
      changedSince instant.ledger s.ledger account = false

def cleanState (state : PrincipalVersion) : Option PrincipalVersion :=
  if state.dirtyGeneration = none then some state else none

-- The version that authorize and resolve_principal go by; none where they are unavailable.
def currentVersion (account : String) (instant : Estate) : Call Estate DecisionError (Option PrincipalVersion) := do
  match ← readRelying (steadySince account instant) (·.ledger.principal account) with
  | none => pure none
  | some state =>
    if state.dirtyGeneration = none then pure (some state)
    else
      match ← reconcileForAccount account with
      | false => pure none
      | true =>
        let again ← readRelying (steadySince account instant) (·.ledger.principal account)
        pure (cleanState (again.getD state))

def workspaceByText (id : String) (s : Estate) : Option Workspace.Workspace :=
  s.governance.workspaces.find? fun workspace => toString workspace.id = id

def isFormalMember (workspaceId account : String) : Call Estate DecisionError Bool := do
  match ← read (workspaceByText workspaceId) with
  | none => pure false
  | some workspace =>
    if workspace.archivedAt.isSome then pure false
    else
      let found ← read (getOrganizationAccount account)
      if found.any (·.effective) then
        let rows ← read fun s => (workspaceByText workspaceId s).elim [] (·.members)
        pure (rows.any (·.accountId = account))
      else pure false

def inScope (scope : Scope) (account : String) : Call Estate DecisionError Bool :=
  match scope with
  | .platform => pure true
  | .workspace id => isFormalMember id account

def addCapability (values : List ScopedCapability) (item : ScopedCapability) : List ScopedCapability :=
  if item ∈ values then values else values ++ [item]

def grantedCapabilities (account : String) : List Grant → List ScopedCapability →
    Call Estate DecisionError (List ScopedCapability)
  | [], values => pure values
  | grant :: rest, values =>
    if grant.capability ∈ reservedPlatformCapabilities then grantedCapabilities account rest values
    else do
      let member ← inScope grant.scope account
      grantedCapabilities account rest (if member then addCapability values ⟨grant.capability,grant.scope⟩ else values)

def principalCapabilities (account : String) (isSuperAdmin : Bool) : Call Estate DecisionError (List ScopedCapability) := do
  let now ← read (·.clock)
  let rows ← read (effectiveGrants account none none now)
  let values ← grantedCapabilities account rows []
  pure (if isSuperAdmin then
    (sorted superAdminPlatformCapabilities).foldl (fun values capability => addCapability values ⟨capability,.platform⟩) values
    else values)

def principalOf (session : SessionPrincipal) (state : PrincipalVersion) (capabilities : List ScopedCapability) :
    AuthorizationPrincipal :=
  ⟨session.accountId,session.employeeNo,session.displayName,session.isSuperAdmin,state.version,capabilities⟩

-- A principal with its capabilities, unless they cannot be read.
def allowWith (session : SessionPrincipal) (state : PrincipalVersion) : Call Estate DecisionError AuthorizationDecision := do
  match ← (principalCapabilities session.accountId session.isSuperAdmin).attempt with
  | .error _ => pure (refusal .unavailable)
  | .ok capabilities => pure (allowance (principalOf session state capabilities))

def matchingGrant (account capability : String) (scope : Scope) : Call Estate DecisionError Bool := do
  let now ← read (·.clock)
  let matching ← read (effectiveGrants account (some capability) (some scope) now)
  pure (matching ≠ [])

def decideCapability (session : SessionPrincipal) (state : PrincipalVersion) (capability : String) (scope : Scope) :
    Call Estate DecisionError AuthorizationDecision :=
  if isSuperAdminPlatformCapability capability scope session.isSuperAdmin then allowWith session state
  else if capability ∈ reservedPlatformCapabilities then pure (refusal .denied)
  else do
    match ← matchingGrant session.accountId capability scope with
    | false => pure (refusal .denied)
    | true =>
      match ← (inScope scope session.accountId).attempt with
      | .error _ => pure (refusal .unavailable)
      | .ok false => pure (refusal .denied)
      | .ok true => allowWith session state

-- The part that authorize and resolve_principal share.
def resolved (tokenHash : String) (revocation : IdleRevocation)
    (decide : SessionPrincipal → PrincipalVersion → Call Estate DecisionError AuthorizationDecision) :
    Call Estate DecisionError AuthorizationDecision := do
  match ← (validate tokenHash revocation).attempt with
  | .error _ => pure (refusal .unavailable)
  | .ok none => pure (refusal .unauthenticated)
  | .ok (some (session,instant)) =>
    if session.sessionKind ≠ .full then pure (refusal .unauthenticated)
    else
      match ← currentVersion session.accountId instant with
      | none => pure (refusal .unavailable)
      | some state => decide session state

def authorize (tokenHash capability : String) (scope : Scope) (revocation : IdleRevocation) :
    Call Estate DecisionError AuthorizationDecision :=
  resolved tokenHash revocation fun session state => decideCapability session state capability scope

def resolvePrincipal (tokenHash : String) (revocation : IdleRevocation) : Call Estate DecisionError AuthorizationDecision :=
  resolved tokenHash revocation allowWith

def principalHasCapability (principal : AuthorizationPrincipal) (capability : String) (scope : Scope) :
    Call Estate DecisionError Bool := do
  match ← read (·.ledger.principal principal.accountId) with
  | none => .raised .unavailable
  | some state =>
    if state.dirtyGeneration ≠ none ∨ state.version ≠ principal.authorizationVersion then .raised .unavailable
    else if isSuperAdminPlatformCapability capability scope principal.isSuperAdmin then pure true
    else if capability ∈ reservedPlatformCapabilities then pure false
    else
      match ← matchingGrant principal.accountId capability scope with
      | false => pure false
      | true => inScope scope principal.accountId

end EngineeringPlatform.Authorization
