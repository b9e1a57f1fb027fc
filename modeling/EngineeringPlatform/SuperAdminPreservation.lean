import EngineeringPlatform.IdentityFollows
namespace EngineeringPlatform.Identity
open Checked PythonTime RowLocks TransitionRuns

abbrev IdentityLabel := Label Command Event

def HasEffectiveSuperAdmin (db : Database) : Prop := ∃ account ∈ db.accounts, account.effective = true

instance (db : Database) : Decidable (HasEffectiveSuperAdmin db) :=
  inferInstanceAs (Decidable (∃ account ∈ db.accounts, account.effective = true))

-- A step that commits no break-glass recovery.
def Ordinary (s : IdentitySystem) (label : IdentityLabel) : Bool :=
  (s.commits label).all fun committed => !committed.1.recovers

theorem step_remains {s next : IdentitySystem} {label : IdentityLabel} (valid : (rules security).Valid s)
    (ordinary : Ordinary s label = true) (taken : (program security).step s label = some next)
    (held : HasEffectiveSuperAdmin s.store) : HasEffectiveSuperAdmin next.store := by
  rcases step_commits taken with same | ⟨request,result,commits⟩ | ⟨event,_,moved⟩
  · rw [same]
    exact held
  · obtain ⟨_,committed⟩ := (rules security).commits_ok valid commits
    obtain ⟨holds,step⟩ := committed.step
    unfold Ordinary at ordinary
    rw [commits] at ordinary
    exact step.remains valid.store (by simpa using ordinary) held
  · unfold HasEffectiveSuperAdmin
    rw [elsewhere_accounts moved]
    exact held

-- Once an effective administrator exists, only recovery can leave none; and an
-- enabled account has both of its factors.
theorem super_admin_preserved {s next : IdentitySystem}
    (path : Runs (Enabled (program security).step) (.initial (.start clock)) before s)
    (later : Runs (Guarded (fun s label => Ordinary s label = true) (Enabled (program security).step)) s after next) :
    (HasEffectiveSuperAdmin s.store → HasEffectiveSuperAdmin next.store) ∧
      ∀ account ∈ next.store.accounts, account.status = .enabled →
        account.passwordHash.isSome = true ∧ account.totpConfirmedAt.isSome = true ∧ account.totpSealed.isSome = true := by
  have valid := reached_valid path
  have last := (rules security).runs_valid (follows security) later.unguarded valid
  refine ⟨fun held => ?_,fun account member enabled => ?_⟩
  · have keeps : Preserves (Guarded (fun s label => Ordinary s label = true) (Enabled (program security).step))
        fun s : IdentitySystem => (rules security).Valid s ∧ HasEffectiveSuperAdmin s.store :=
      fun s label next inv taken => ⟨(rules security).step_valid (follows security) inv.1 taken.2,
        step_remains inv.1 taken.1 taken.2 inv.2⟩
    exact (later.invariant keeps ⟨valid,held⟩).2
  · obtain ⟨sound,_⟩ := last.store.accounts account member
    have initialized := sound.initialized enabled
    simp only [Account.initialized,decide_eq_true_eq] at initialized
    exact ⟨initialized.1,initialized.2,sound.factor initialized.2⟩

def sampleSecurity : Security where
  tokenHash token := token
  hashPassword password _ := password
  verifyPassword password hash := password = hash
  passwordFloor _ _ := []
  sealSecret secret := secret
  unsealSecret secret := some secret
  codeAt _ _ := some "000000"

-- One transaction with nothing else in between.
def whole (request : Command) (moves : Nat) : List IdentityLabel :=
  .begin 0 request :: List.replicate moves (.advance 0)

def sampleStart : IdentitySystem := .initial (.start (800000 * day))

-- The setup of an account whose first temporary password is known.
def sampleSetup (employeeNo temporary boot full : String) (boots fulls : Uuid) : List IdentityLabel :=
  whole (.loginPasswordStep ⟨employeeNo,"web"⟩ temporary ⟨boots,boot⟩) 7 ++
    whole (.completePasswordSetup boot "old" "salt") 5 ++ whole (.enrollTotp boot "secret") 4 ++
    whole (.confirmTotp boot "000000" ⟨fulls,full⟩) 7 ++ [.elsewhere (.tick 60000000)]

-- Two administrators, who then disable each other at once.
def sampleAdministrators : List IdentityLabel :=
  whole (.bootstrapSuperAdmin 1 "00000001" "one" ⟨10,"temp"⟩ "salt") 4 ++
    sampleSetup "00000001" "temp" "boot" "full" 11 12 ++
    whole (.createAccount 2 "00000002" "two" none ⟨20,"temp two"⟩ "salt") 2 ++
    sampleSetup "00000002" "temp two" "boot two" "full two" 21 22 ++
    whole (.changeSuperAdmin ⟨true,1,2,"000000","duty",4⟩ ⟨23,"challenge"⟩) 11

def sampleDuel : List IdentityLabel :=
  [.begin 0 (.setAccountStatus 2 .disabled 5),.begin 1 (.setAccountStatus 1 .disabled 5)] ++
    List.replicate 6 (.advance 0) ++ List.replicate 6 (.advance 1)

def sampleAdministered : IdentitySystem :=
  (execute (program sampleSecurity).step sampleStart sampleAdministrators).get (by decide +kernel)

def sampleDuelled : IdentitySystem :=
  (execute (restrict Ordinary (program sampleSecurity).step) sampleAdministered sampleDuel).get (by decide +kernel)

theorem super_admin_preserved_duel :
    HasEffectiveSuperAdmin sampleDuelled.store ∧ sampleDuelled.store.accounts.map (·.status) = [.enabled,.disabled] := by
  have path : Runs (Enabled (program sampleSecurity).step) (.initial (.start (800000 * day))) sampleAdministrators
      sampleAdministered := execute_get (by decide +kernel)
  have later : Runs (Enabled (restrict Ordinary (program sampleSecurity).step)) sampleAdministered sampleDuel
      sampleDuelled := execute_get (by decide +kernel)
  have held : HasEffectiveSuperAdmin sampleAdministered.store := by decide +kernel
  exact ⟨(super_admin_preserved path (restrict_runs later)).1 held,by decide +kernel⟩

end EngineeringPlatform.Identity
