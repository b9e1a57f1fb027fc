import EngineeringPlatform.IdentityStore
import EngineeringPlatform.InterleavedCalls
import EngineeringPlatform.LedgerProgress
import EngineeringPlatform.WorkspaceProgress
namespace EngineeringPlatform.Authorization
open Checked KeyedRows TransitionRuns InterleavedCalls Identity Organization Workspace

-- The columns of identity.account that its projection for other modules leaves out.
structure AccountDetail where
  profession : Option String
  passwordSetAt : Option Time
  totpConfirmedAt : Option Time
  isSuperAdmin : Bool
  version : Nat
  deriving DecidableEq

structure SessionRow where
  sessionId : String
  accountId : String
  kind : SessionKind
  bootstrapPurpose : Option BootstrapPurpose
  lastSeenAt : Time
  revoked : Bool
  deriving DecidableEq

-- What one call may read: the authorization ledger with the directory and the workspaces,
-- the rest of the account rows, the sessions by token hash, the clock and the one policy
-- value that a session is judged by.
structure Estate where
  converging : Converging Governance
  details : Table String AccountDetail
  sessions : Table String SessionRow
  clock : Time
  sessionIdleTimeout : Nat

def Estate.ledger (s : Estate) : Ledger := s.converging.ledger

def Estate.governance (s : Estate) : Governance := s.converging.membership

abbrev AccountRow := AccountView × AccountDetail

def Estate.account (s : Estate) (id : String) : Option AccountRow :=
  (s.governance.directory.accounts id).bind fun view => (s.details id).map fun detail => (view,detail)

-- The facts of an account that its session carries.
structure SecurityFacts where
  enabled : Bool
  isSuperAdmin : Bool
  deriving DecidableEq

def AccountRow.facts (row : AccountRow) : SecurityFacts := ⟨row.1.status = .enabled,row.2.isSuperAdmin⟩

def Estate.facts (s : Estate) (id : String) : Option SecurityFacts := (s.account id).map AccountRow.facts

-- What a transaction of the identity module commits: account rows and session rows.
structure IdentityCommit where
  transaction : String
  accounts : List AccountRow
  sessions : List (String × SessionRow)

def AccountRow.id (row : AccountRow) : String := row.1.id

-- notify_identity_change: the fence of the account was raised in the name of the
-- transaction that is about to commit.
def Estate.fenced (s : Estate) (account transaction : String) : Bool :=
  s.ledger.works.any fun work => work.status = .pending ∧ work.source.sourceModule = "identity" ∧
    work.source.sourceTransactionId = some transaction ∧ s.ledger.pending.any (·.isOf work.id account) = true

def Estate.announced (s : Estate) (transaction : String) (row : AccountRow) : Bool :=
  match s.account row.id with
  | none => true
  | some old => old.facts = row.facts ∨ s.fenced row.id transaction = true

def Estate.overwrite (s : Estate) (c : IdentityCommit) : Estate :=
  let changed := find AccountRow.id c.accounts
  let directory := s.governance.directory
  {s with
    converging := ⟨{s.ledger with transactions := s.ledger.transactions.put c.transaction .committed},
      {s.governance with directory := {directory with
        accounts := fun id => ((changed id).map Prod.fst).or (directory.accounts id)}}⟩,
    details := fun id => ((changed id).map Prod.snd).or (s.details id),
    sessions := fun token => ((find Prod.fst c.sessions token).map Prod.snd).or (s.sessions token)}

def identityCommit (c : IdentityCommit) (s : Estate) : Option Estate :=
  if s.ledger.transactions c.transaction = some .inProgress ∧ ∀ row ∈ c.accounts, s.announced c.transaction row = true then
    some (s.overwrite c)
  else none

inductive EstateLabel where
  | govern (label : GovernanceLabel)
  | recompute (affected : List String) (now : Time)
  | identity (commit : IdentityCommit)
  | tick (length : Nat)
  | publish (sessionIdleTimeout : Nat)

-- Account rows change by identity transactions only, and no source but its own module
-- cancels a work item: the identity module never does.
def Estate.permits (s : Estate) : GovernanceLabel → Bool
  | .account _ => false
  | .security (.cancel id _) _ => (s.ledger.work id).all fun work => work.source.sourceModule ≠ "identity"
  | _ => true

def estateStep (s : Estate) : EstateLabel → Option Estate
  | .govern label =>
    if s.permits label then (governanceStep s.converging label).map fun converging => {s with converging} else none
  -- The recomputation commits before the ledger does.
  | .recompute affected now => (membershipChange now affected s.governance).toOption.map fun governance =>
    {s with converging := ⟨s.ledger,governance⟩}
  | .identity commit => identityCommit commit s
  | .tick length => some {s with clock := s.clock + length}
  | .publish sessionIdleTimeout => some {s with sessionIdleTimeout}

def estateInitial (clock sessionIdleTimeout : Nat) : Estate :=
  ⟨governanceInitial,.empty,.empty,clock,sessionIdleTimeout⟩

structure Estate.Valid (s : Estate) : Prop where
  ledger : LedgerValid s.ledger
  grants : KeyedRows.Unique Grant.id s.ledger.grants

structure Estate.Later (one two : Estate) : Prop where
  clock : one.clock ≤ two.clock
  ledger : one.ledger.Later two.ledger
  governance : one.governance.Later two.governance

theorem Estate.Later.refl (s : Estate) : s.Later s := ⟨Nat.le_refl _,.refl _,.refl _⟩

theorem Estate.Later.trans {one two three : Estate} (first : one.Later two) (second : two.Later three) : one.Later three :=
  ⟨Nat.le_trans first.clock second.clock,first.ledger.trans second.ledger,first.governance.trans second.governance⟩

-- What is left of the ledger when its transactions change.
theorem transactions_later (s : Ledger) (transactions : Table String TransactionStatus) : s.Later {s with transactions} :=
  fun _ old found => ⟨old,found,Nat.le_refl _,Nat.le_refl _,fun _ => rfl,fun _ _ clean => clean⟩

theorem governance_kept {s next : Converging Governance} (valid : LedgerValid s.ledger)
    (unique : KeyedRows.Unique Grant.id s.ledger.grants) (taken : governanceStep s label = some next) :
    s.ledger.Later next.ledger ∧ LedgerValid next.ledger ∧ KeyedRows.Unique Grant.id next.ledger.grants := by
  have governed {outcome : Except WorkspaceError (Governance × Workspace.Workspace)}
      (taken : governed s outcome = some next) : next.ledger = s.ledger := by
    obtain ⟨g,workspace,_,rfl⟩ := committed_map_some.mp taken
    rfl
  have unmoved (same : next.ledger = s.ledger) : s.ledger.Later next.ledger ∧ LedgerValid next.ledger ∧
      KeyedRows.Unique Grant.id next.ledger.grants := by
    rw [same]
    exact ⟨.refl _,valid,unique⟩
  cases label with
  | security label now =>
    exact ⟨step_later valid unique taken,move_valid valid (step_move valid.works taken),(step_grants unique taken).unique unique⟩
  | account view =>
    cases Option.some.inj taken
    exact unmoved rfl
  | setSuperior account superior =>
    obtain ⟨directory,done,_,rfl⟩ := committed_map_some.mp taken
    exact unmoved rfl
  | create => exact unmoved (governed taken)
  | invite => exact unmoved (governed taken)
  | remove => exact unmoved (governed taken)
  | transfer => exact unmoved (governed taken)

theorem estate_step {s next : Estate} (valid : s.Valid) (taken : estateStep s label = some next) :
    next.Valid ∧ s.Later next := by
  cases label with
  | govern label =>
    obtain ⟨_,taken⟩ := Option.ite_none_right_eq_some.mp taken
    obtain ⟨converging,moved,rfl⟩ := Option.map_eq_some_iff.mp taken
    obtain ⟨later,stored,unique⟩ := governance_kept valid.ledger valid.grants moved
    exact ⟨⟨stored,unique⟩,Nat.le_refl _,later,governance_later moved⟩
  | recompute affected now =>
    obtain ⟨governance,ran,rfl⟩ := Option.map_eq_some_iff.mp taken
    exact ⟨⟨valid.ledger,valid.grants⟩,Nat.le_refl _,.refl _,membershipChange_later (toOption_some.mp ran)⟩
  | identity commit =>
    obtain ⟨⟨running,_⟩,same⟩ := Option.ite_none_right_eq_some.mp taken
    cases Option.some.inj same
    refine ⟨⟨transaction_valid valid.ledger _ fun absurd => ?_,valid.grants⟩,Nat.le_refl _,transactions_later _ _,
      fun _ old found => ⟨old,found,.refl old⟩⟩
    rw [running] at absurd
    cases absurd
  | tick length =>
    cases Option.some.inj taken
    exact ⟨⟨valid.ledger,valid.grants⟩,Nat.le_add_right _ _,.refl _,.refl _⟩
  | publish sessionIdleTimeout =>
    cases Option.some.inj taken
    exact ⟨⟨valid.ledger,valid.grants⟩,Nat.le_refl _,.refl _,.refl _⟩

def estateRules : Rules Estate where
  valid := Estate.Valid
  later := Estate.Later
  refl := Estate.Later.refl
  trans := fun _ _ _ => Estate.Later.trans

theorem estate_follows : estateRules.Follows (Enabled estateStep) := fun _ _ _ valid taken => estate_step valid taken

theorem estateInitial_valid (clock sessionIdleTimeout : Nat) : (estateInitial clock sessionIdleTimeout).Valid :=
  ⟨empty_valid,List.nodup_nil⟩

theorem estate_reached {s : Estate} (path : Runs (Enabled estateStep) (estateInitial clock sessionIdleTimeout) labels s) :
    s.Valid :=
  path.invariant (fun _ _ _ valid taken => (estate_step valid taken).1) (estateInitial_valid clock sessionIdleTimeout)

end EngineeringPlatform.Authorization
