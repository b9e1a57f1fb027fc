import EngineeringPlatform.SandboxWrites
import EngineeringPlatform.SharedWorkers
namespace EngineeringPlatform.Sandbox
open Checked Idempotency TransitionRuns SharedWorkers
variable {κ : Type} {crypto : SandboxCryptography κ} {allowed : Allowed κ}

def activeIn (environmentId : Uuid) (lease : CapacityLease) : Bool :=
  lease.environmentId = environmentId ∧ lease.state = .active

-- What the ACTIVE leases of an environment add up to, in attempts or in units.
def used (measure : CapacityLease → Int) (environmentId : Uuid) (leases : List CapacityLease) : Int :=
  KeyedRows.total (fun lease => if activeIn environmentId lease then measure lease else 0) leases

def attemptOf (_ : CapacityLease) : Int := 1
def unitsOf (lease : CapacityLease) : Int := lease.unitWeight

structure Balanced (ledger : CapacityLedger) (environmentId : Uuid) (leases : List CapacityLease) : Prop where
  attempts : ledger.activeAttempts = used attemptOf environmentId leases
  units : ledger.activeUnits = used unitsOf environmentId leases
  attemptLimit : ledger.activeAttempts ≤ ledger.activeAttemptLimit
  unitLimit : ledger.activeUnits ≤ ledger.maximumUnits

-- A materialization and the lease that references it: the lease is ACTIVE until
-- the materialization records its release, and no terminal state comes before.
structure Leased (row : Materialization κ) (lease : CapacityLease) : Prop where
  environment : lease.environmentId = row.environmentId
  weight : lease.unitWeight = row.resourceUnitWeight
  state : (row.leaseReleasedAt = none ∧ lease.state = .active ∧ row.state.active = true) ∨
    (row.leaseReleasedAt ≠ none ∧ lease.state = .released)

structure CapacityValid (s : SandboxStore κ) : Prop where
  rows : KeyedRows.Unique Materialization.id s.materializations
  leases : KeyedRows.Unique CapacityLease.materializationId s.leases
  leased : ∀ id row, s.materialization id = some row → ∃ lease, s.lease id = some lease ∧ Leased row lease
  balanced : ∀ id ledger, s.ledgers id = some ledger → Balanced ledger id s.leases
  unopened : ∀ id, s.ledgers id = none → used attemptOf id s.leases = 0 ∧ used unitsOf id s.leases = 0

variable {s next : SandboxStore κ}

theorem CapacityValid.elsewhere (valid : CapacityValid s)
    (rows : next.materializations = s.materializations) (leases : next.leases = s.leases)
    (ledgers : next.ledgers = s.ledgers) : CapacityValid next := by
  have found : next.materialization = s.materialization := by
    funext id
    unfold SandboxStore.materialization
    rw [rows]
  have held : next.lease = s.lease := by
    funext id
    unfold SandboxStore.lease
    rw [leases]
  refine ⟨rows ▸ valid.rows,leases ▸ valid.leases,?_,?_,?_⟩
  · rw [found,held]
    exact valid.leased
  · rw [ledgers,leases]
    exact valid.balanced
  · rw [ledgers,leases]
    exact valid.unopened

theorem RowStep.leased {row row' : Materialization κ} (step : RowStep begins row row') (leased : Leased row lease) :
    Leased row' lease := by
  cases step with
  | bound => exact ⟨leased.environment,leased.weight,leased.state⟩
  | touched => exact ⟨leased.environment,leased.weight,leased.state⟩
  | @begun terminal transition _ _ _ _ expected _ =>
    refine ⟨leased.environment,leased.weight,leased.state.imp (fun held => ⟨held.1,held.2.1,?_⟩) id⟩
    cases terminal <;> cases expected <;> rfl
  | orphaned =>
    exact ⟨leased.environment,leased.weight,leased.state.imp (fun held => ⟨held.1,held.2.1,rfl⟩) id⟩
  | evidencePersisted => exact ⟨leased.environment,leased.weight,leased.state⟩
  | secretRevoked => exact ⟨leased.environment,leased.weight,leased.state⟩
  | completed _ _ _ released =>
    refine ⟨leased.environment,leased.weight,.inr ?_⟩
    exact leased.state.resolve_left fun held => released held.1
  | quarantined =>
    exact ⟨leased.environment,leased.weight,leased.state.imp (fun held => ⟨held.1,held.2.1,rfl⟩) id⟩

theorem setMaterialization_view (s : SandboxStore κ) (change : Materialization κ → Materialization κ)
    (keeps : ∀ row, (change row).id = row.id) (id id' : Uuid) :
    (s.setMaterialization id change).materialization id' =
      if id' = id then (s.materialization id').map change else s.materialization id' :=
  KeyedRows.find_update keeps id'

theorem setLease_view (s : SandboxStore κ) (change : CapacityLease → CapacityLease)
    (keeps : ∀ lease, (change lease).materializationId = lease.materializationId) (id id' : Uuid) :
    (s.setLease id change).lease id' = if id' = id then (s.lease id').map change else s.lease id' :=
  KeyedRows.find_update keeps id'

theorem addReservation_materialization (fresh : s.materialization ids.materializationId = none) (id : Uuid) :
    (s.addReservation binding policy ids tokenDigest generation now).materialization id =
      if id = ids.materializationId then
        some (reservedMaterialization binding ids.materializationId generation now)
      else s.materialization id :=
  KeyedRows.find_insert id fresh

theorem addReservation_lease (unleased : s.lease ids.materializationId = none)
    (id : Uuid) :
    (s.addReservation binding policy ids tokenDigest generation now).lease id =
      if id = ids.materializationId then some (acquiredLease binding policy ids generation now)
      else s.lease id :=
  KeyedRows.find_insert id unleased

-- Changing one materialization row keeps the ledger exact when its lease still fits.
theorem CapacityValid.setMaterialization (valid : CapacityValid s)
    (change : Materialization κ → Materialization κ) (keeps : ∀ row, (change row).id = row.id) (found : s.materialization id' = some row)
    (fits : ∀ lease, s.lease id' = some lease → Leased row lease → Leased (change row) lease) :
    CapacityValid (s.setMaterialization id' change) := by
  refine ⟨KeyedRows.unique_update keeps valid.rows,valid.leases,?_,valid.balanced,valid.unopened⟩
  intro id other stored
  rw [setMaterialization_view s change keeps] at stored
  split at stored
  · rename_i same
    subst same
    rw [found] at stored
    cases Option.some.inj stored
    obtain ⟨lease,held,leased⟩ := valid.leased id row found
    exact ⟨lease,held,fits lease held leased⟩
  · exact valid.leased id other stored

theorem used_insert (measure : CapacityLease → Int) (environmentId : Uuid) (leases : List CapacityLease)
    (lease : CapacityLease) :
    used measure environmentId (leases ++ [lease]) =
      used measure environmentId leases + if activeIn environmentId lease then measure lease else 0 :=
  KeyedRows.total_insert _ _ _

theorem used_release {measure : CapacityLease → Int} {leases : List CapacityLease}
    (unique : KeyedRows.Unique CapacityLease.materializationId leases)
    (found : KeyedRows.find CapacityLease.materializationId leases materializationId = some lease)
    (active : lease.state = .active) (environmentId : Uuid) :
    used measure environmentId
        (KeyedRows.update CapacityLease.materializationId leases materializationId (CapacityLease.release now)) =
      used measure environmentId leases - if lease.environmentId = environmentId then measure lease else 0 := by
  unfold used
  rw [KeyedRows.total_update _ unique found]
  simp [activeIn,CapacityLease.release,active]

theorem used_nonneg {measure : CapacityLease → Int} (positive : ∀ lease, 0 ≤ measure lease)
    (environmentId : Uuid) (leases : List CapacityLease) : 0 ≤ used measure environmentId leases := by
  refine KeyedRows.total_nonneg leases fun lease => ?_
  split
  · exact positive lease
  · exact Int.le_refl 0

theorem admitReservation_ok (admitted : admitReservation binding ledger s = .ok done) :
    ledger.activeAttempts < ledger.activeAttemptLimit ∧
      ledger.activeUnits + binding.unitWeight ≤ ledger.maximumUnits := by
  simp only [admitReservation,require_bind_ok,require_ok] at admitted
  exact ⟨admitted.2.2.1,admitted.2.2.2⟩

theorem CapacityValid.opened (valid : CapacityValid s)
    (fresh : s.ledgers environmentId = none) :
    CapacityValid (s.putLedger environmentId (emptyLedger environmentId policy now)) := by
  refine ⟨valid.rows,valid.leases,valid.leased,?_,?_⟩
  · intro id ledger stored
    rcases Table.put_some stored with ⟨rfl,rfl⟩ | ⟨_,kept⟩
    · obtain ⟨attempts,units⟩ := valid.unopened _ fresh
      exact ⟨attempts.symm,units.symm,Int.natCast_nonneg _,Int.natCast_nonneg _⟩
    · exact valid.balanced id ledger kept
  · intro id absent
    by_cases same : id = environmentId
    · subst same
      simp [SandboxStore.putLedger] at absent
    · exact valid.unopened id ((Table.put_other _ _ same).symm.trans absent)

theorem CapacityValid.replaced (valid : CapacityValid s)
    (found : s.ledgers environmentId = some ledger) (idle : ledger.activeAttempts = 0 ∧ ledger.activeUnits = 0) :
    CapacityValid (s.putLedger environmentId (replacePolicy ledger policy now)) := by
  refine ⟨valid.rows,valid.leases,valid.leased,?_,?_⟩
  · intro id other stored
    rcases Table.put_some stored with ⟨rfl,rfl⟩ | ⟨_,kept⟩
    · have exact' := valid.balanced _ ledger found
      have attempts : (0 : Int) ≤ policy.activeAttemptLimit := Int.natCast_nonneg _
      have units : (0 : Int) ≤ policy.maximumUnits := Int.natCast_nonneg _
      exact ⟨exact'.attempts,exact'.units,idle.1 ▸ attempts,idle.2 ▸ units⟩
    · exact valid.balanced id other kept
  · intro id absent
    by_cases same : id = environmentId
    · subst same
      simp [SandboxStore.putLedger] at absent
    · exact valid.unopened id ((Table.put_other _ _ same).symm.trans absent)

theorem activeIn_acquired (id : Uuid) :
    activeIn id (acquiredLease binding policy ids generation now) = decide (binding.environment.environmentId = id) := by
  simp [activeIn,acquiredLease]

theorem CapacityValid.reserved (valid : CapacityValid s)
    (found : s.ledgers binding.environment.environmentId = some ledger)
    (admitted : admitReservation binding ledger s = .ok ())
    (fresh : s.materialization ids.materializationId = none) (unleased : s.lease ids.materializationId = none) :
    CapacityValid ((s.addReservation binding policy ids tokenDigest generation now).putLedger
      binding.environment.environmentId (acquireCapacity ledger binding.unitWeight now)) := by
  obtain ⟨attempts,units⟩ := admitReservation_ok admitted
  refine ⟨KeyedRows.unique_insert valid.rows fresh,KeyedRows.unique_insert valid.leases unleased,?_,?_,?_⟩
  · intro id row stored
    have row_at : (s.addReservation binding policy ids tokenDigest generation now).materialization id =
        some row := stored
    have lease_at : (s.addReservation binding policy ids tokenDigest generation now).lease id = _ :=
      addReservation_lease unleased id
    rw [addReservation_materialization fresh] at row_at
    split at row_at
    · rename_i same
      cases Option.some.inj row_at
      exact ⟨_,lease_at.trans (if_pos same),rfl,rfl,.inl ⟨rfl,rfl,rfl⟩⟩
    · rename_i other
      obtain ⟨lease,held,leased⟩ := valid.leased id row row_at
      exact ⟨lease,lease_at.trans ((if_neg other).trans held),leased⟩
  · intro id other stored
    rcases Table.put_some stored with ⟨rfl,rfl⟩ | ⟨differs,kept⟩
    · have balanced := valid.balanced _ ledger found
      refine ⟨?_,?_,?_,?_⟩
      · have := used_insert attemptOf binding.environment.environmentId s.leases
          (acquiredLease binding policy ids generation now)
        simp only [activeIn_acquired,decide_true,if_true,attemptOf] at this
        exact (congrArg (· + 1) balanced.attempts).trans this.symm
      · have := used_insert unitsOf binding.environment.environmentId s.leases
          (acquiredLease binding policy ids generation now)
        simp only [activeIn_acquired,decide_true,if_true,unitsOf] at this
        exact (congrArg (· + (binding.unitWeight : Int)) balanced.units).trans this.symm
      · exact Int.add_one_le_of_lt attempts
      · exact units
    · have balanced := valid.balanced id other kept
      have same (measure : CapacityLease → Int) : used measure id
          (s.leases ++ [acquiredLease binding policy ids generation now]) = used measure id s.leases := by
        rw [used_insert,activeIn_acquired]
        simp [Ne.symm differs]
      exact ⟨balanced.attempts.trans (same _).symm,balanced.units.trans (same _).symm,balanced.attemptLimit,
        balanced.unitLimit⟩
  · intro id absent
    by_cases same : id = binding.environment.environmentId
    · subst same
      simp [SandboxStore.putLedger] at absent
    · have kept := valid.unopened id ((Table.put_other _ _ same).symm.trans absent)
      have zero (measure : CapacityLease → Int) : used measure id
          (s.leases ++ [acquiredLease binding policy ids generation now]) = used measure id s.leases := by
        rw [used_insert,activeIn_acquired]
        simp [Ne.symm same]
      exact ⟨(zero _).trans kept.1,(zero _).trans kept.2⟩

theorem CapacityValid.released (valid : CapacityValid s)
    (found : s.materialization id' = some row) (leased : s.lease id' = some lease)
    (active : lease.state = .active) (ledgered : s.ledgers row.environmentId = some ledger) :
    CapacityValid ((((s.setMaterialization id' (Materialization.releaseLease now)).setLease id'
      (CapacityLease.release now)).setGeneration id' (RunnerGeneration.release now)).putLedger
      row.environmentId (returnCapacity ledger row.resourceUnitWeight now)) := by
  obtain ⟨held,holds,fits⟩ := valid.leased id' row found
  cases leased.symm.trans holds
  have gone (measure : CapacityLease → Int) (id : Uuid) : used measure id
      (KeyedRows.update CapacityLease.materializationId s.leases id' (CapacityLease.release now)) =
        used measure id s.leases - if lease.environmentId = id then measure lease else 0 :=
    used_release valid.leases leased active id
  refine ⟨KeyedRows.unique_update (fun _ => rfl) valid.rows,KeyedRows.unique_update (fun _ => rfl) valid.leases,
    ?_,?_,?_⟩
  · intro id other stored
    have row_at : (s.setMaterialization id' (Materialization.releaseLease now)).materialization id = some other :=
      stored
    have lease_at : (s.setLease id' (CapacityLease.release now)).lease id = _ :=
      setLease_view s (CapacityLease.release now) (fun _ => rfl) id' id
    rw [setMaterialization_view s (Materialization.releaseLease now) fun _ => rfl] at row_at
    split at row_at
    · rename_i same
      subst same
      rw [found] at row_at
      cases Option.some.inj row_at
      rw [if_pos rfl,leased] at lease_at
      exact ⟨_,lease_at,fits.environment,fits.weight,.inr ⟨(fun none => by cases none),rfl⟩⟩
    · rename_i differs
      obtain ⟨other',held',leased'⟩ := valid.leased id other row_at
      rw [if_neg differs,held'] at lease_at
      exact ⟨other',lease_at,leased'⟩
  · intro id other stored
    rcases Table.put_some stored with ⟨rfl,rfl⟩ | ⟨differs,kept⟩
    · have balanced := valid.balanced _ ledger ledgered
      have attempts := gone attemptOf row.environmentId
      have units := gone unitsOf row.environmentId
      rw [if_pos fits.environment] at attempts units
      refine ⟨?_,?_,?_,?_⟩
      · exact (congrArg (· - 1) balanced.attempts).trans attempts.symm
      · have weight : unitsOf lease = row.resourceUnitWeight := congrArg Int.ofNat fits.weight
        rw [weight] at units
        exact (congrArg (· - (row.resourceUnitWeight : Int)) balanced.units).trans units.symm
      · have := balanced.attemptLimit
        simp only [returnCapacity]
        omega
      · have := balanced.unitLimit
        simp only [returnCapacity]
        omega
    · have balanced := valid.balanced id other kept
      have same (measure : CapacityLease → Int) := gone measure id
      simp only [fits.environment,Ne.symm differs,if_false,Int.sub_zero] at same
      exact ⟨balanced.attempts.trans (same _).symm,balanced.units.trans (same _).symm,balanced.attemptLimit,
        balanced.unitLimit⟩
  · intro id absent
    by_cases here : id = row.environmentId
    · subst here
      simp [SandboxStore.putLedger] at absent
    · have kept := valid.unopened id ((Table.put_other _ _ here).symm.trans absent)
      have same (measure : CapacityLease → Int) := gone measure id
      simp only [fits.environment,Ne.symm here,if_false,Int.sub_zero] at same
      exact ⟨(same _).trans kept.1,(same _).trans kept.2⟩

theorem Write.capacity (step : Write allowed s next) (valid : CapacityValid s) :
    CapacityValid next := by
  cases step with
  | environment => exact valid.elsewhere rfl rfl rfl
  | ledgerOpened fresh => exact valid.opened fresh
  | policyReplaced found idle => exact valid.replaced found idle
  | reserved found admitted fresh unleased => exact valid.reserved found admitted fresh unleased
  | row change keeps found step =>
    exact valid.setMaterialization change keeps found fun _ _ leased => step.leased leased
  | readied permitted found leased run provisioning held =>
    rename_i now
    refine (valid.setMaterialization (Materialization.ready now) (fun _ => rfl) found
      fun lease _ fits => ?_).elsewhere rfl rfl rfl
    exact ⟨fits.environment,fits.weight,fits.state.imp (fun held => ⟨held.1,held.2.1,rfl⟩) id⟩
  | @fenced id' row runner now found =>
    refine (valid.setMaterialization (Materialization.fence now) (fun _ => rfl) found
      fun lease _ fits => ?_).elsewhere rfl rfl rfl
    exact ⟨fits.environment,fits.weight,fits.state⟩
  | released found leased revoked absent active ledgered => exact valid.released found leased active ledgered
  | claimed => exact valid.elsewhere rfl rfl rfl
  | takenOver => exact valid.elsewhere rfl rfl rfl
  | receipt => exact valid.elsewhere rfl rfl rfl
  | saved => exact valid.elsewhere rfl rfl rfl
  | evidence => exact valid.elsewhere rfl rfl rfl
  | preview => exact valid.elsewhere rfl rfl rfl
  | reconciliation => exact valid.elsewhere rfl rfl rfl
  | audited => exact valid.elsewhere rfl rfl rfl

-- A lease row stays, and a released one never changes again.
def LeaseMoves (old new : CapacityLease) : Prop :=
  new.id = old.id ∧ new.expiresAt = old.expiresAt ∧ (old.state = .released → new = old)

theorem LeaseMoves.refl (lease : CapacityLease) : LeaseMoves lease lease := ⟨rfl,rfl,fun _ => rfl⟩

theorem LeaseMoves.trans (first : LeaseMoves one two) (second : LeaseMoves two three) :
    LeaseMoves one three := by
  refine ⟨second.1.trans first.1,second.2.1.trans first.2.1,fun released => ?_⟩
  have same := first.2.2 released
  exact (second.2.2 (same ▸ released)).trans same

def LeasesMove (s next : SandboxStore κ) : Prop := Table.Advances LeaseMoves s.lease next.lease

theorem Write.leases (step : Write allowed s next) : LeasesMove s next := by
  have kept : LeasesMove s s := .refl .refl _
  cases step with
  | @reserved ledger binding policy ids tokenDigest now _ _ _ unleased =>
    intro id lease found
    refine ⟨lease,?_,.refl lease⟩
    have lease_at : (s.addReservation binding policy ids tokenDigest (nextGeneration binding.executionId s)
        now).lease id = _ :=
      addReservation_lease unleased id
    refine lease_at.trans ?_
    split
    · rename_i same
      cases (same ▸ found).symm.trans unleased
    · exact found
  | @released id' _ lease _ now found leased _ _ active =>
    intro id old stored
    refine ⟨if id = id' then old.release now else old,?_,?_⟩
    · refine (setLease_view s (CapacityLease.release now) (fun _ => rfl) id' id).trans ?_
      split
      · rw [stored]
        rfl
      · exact stored
    · split
      · rename_i same
        subst same
        cases leased.symm.trans stored
        exact ⟨rfl,rfl,fun released => by cases active.symm.trans released⟩
      · exact .refl old
  | _ => exact kept

theorem Writes.capacity (path : Writes allowed s next) (valid : CapacityValid s) :
    CapacityValid next ∧ LeasesMove s next := by
  induction path with
  | refl => exact ⟨valid,.refl .refl _⟩
  | tail _ step ih =>
    exact ⟨step.capacity ih.1,ih.2.trans (fun _ _ _ => .trans) step.leases⟩

def capacityContract (crypto : SandboxCryptography κ) : Contract (sandboxProgram crypto) where
  valid := CapacityValid
  holds _ _ := True
  apart _ _ := True
  rely := LeasesMove
  symmetric _ _ _ := trivial
  idle _ _ := trivial
  idle_apart _ := trivial
  transacted _ transaction _ valid step :=
    have path : Writes ⟨fun _ _ => False,transaction.readies,fun _ => True,fun _ _ => True⟩ _ _ :=
      commitSandbox_writes valid.rows (fun _ readied => readied) (fun _ => trivial) (fun _ _ _ => trivial) step
    have moved := path.capacity valid
    ⟨moved.1,moved.2,fun _ _ => trivial⟩
  acted s memory event _ _ valid _ step :=
    have path : Writes ⟨memory.saves s event,fun _ => False,memory.begins event,fun _ _ => True⟩ _ _ :=
      reconcileStep_writes (fun _ _ saved => saved) (fun _ begun => begun) (fun _ _ _ => trivial) step
    have moved := path.capacity valid
    ⟨moved.1,moved.2,trivial,fun _ _ _ => ⟨trivial,trivial⟩⟩

theorem initial_capacity : CapacityValid (.initial : SandboxStore κ) := by
  refine ⟨List.nodup_nil,List.nodup_nil,?_,?_,fun _ _ => ⟨rfl,rfl⟩⟩
  · intro id row found
    cases found
  · intro id ledger found
    cases found

def activeLeases (environmentId : Uuid) (s : SandboxStore κ) : List CapacityLease :=
  s.leases.filter (activeIn environmentId)

theorem used_attempts (environmentId : Uuid) (s : SandboxStore κ) :
    used attemptOf environmentId s.leases = (activeLeases environmentId s).length := by
  unfold used activeLeases
  rw [KeyedRows.total_filter]
  induction s.leases.filter (activeIn environmentId) with
  | nil => rfl
  | cons head tail ih =>
    simp only [List.map_cons,List.sum_cons,List.length_cons,ih,attemptOf]
    omega

theorem used_units (environmentId : Uuid) (s : SandboxStore κ) :
    used unitsOf environmentId s.leases = ((activeLeases environmentId s).map unitsOf).sum :=
  KeyedRows.total_filter _ _ _

theorem only_lease (valid : CapacityValid s) (found : s.lease id' = some lease) :
    s.leases.filter (fun row => row.materializationId = id') = [lease] := by
  obtain ⟨member,rfl⟩ := KeyedRows.find_some found
  exact KeyedRows.filter_key valid.leases member

theorem capacity_ledger_exact {s t : SandboxSystem κ}
    (reached : Runs (Enabled (sandboxProgram crypto).advance) sandboxInitial labels s)
    (continued : Runs (Enabled (sandboxProgram crypto).advance) s rest t) :
    (∀ id ledger, s.store.ledgers id = some ledger →
      ledger.activeAttempts = (activeLeases id s.store).length ∧
      ledger.activeUnits = ((activeLeases id s.store).map unitsOf).sum ∧
      (0 ≤ ledger.activeAttempts ∧ ledger.activeAttempts ≤ ledger.activeAttemptLimit) ∧
      (0 ≤ ledger.activeUnits ∧ ledger.activeUnits ≤ ledger.maximumUnits)) ∧
    (∀ id, s.store.ledgers id = none → activeLeases id s.store = []) ∧
    (∀ id row, s.store.materialization id = some row →
      ∃ lease lease', s.store.leases.filter (fun other => other.materializationId = id) = [lease] ∧
        t.store.leases.filter (fun other => other.materializationId = id) = [lease'] ∧
        lease'.id = lease.id ∧ (lease.state = .active ∨ lease.state = .released) ∧
        (lease.state = .released → lease' = lease) ∧ (row.state.active = false → lease.state = .released)) := by
  have valid := (capacityContract crypto).runs_valid reached
    ((capacityContract crypto).initial_valid initial_capacity)
  have valid' := (capacityContract crypto).runs_valid continued valid
  have moves : LeasesMove s.store t.store := (capacityContract crypto).runs_rely (fun _ => .refl .refl _)
    (fun _ _ _ first second => first.trans (fun _ _ _ => .trans) second) continued valid
  have counted := valid.store
  refine ⟨?_,?_,?_⟩
  · intro id ledger found
    obtain ⟨attempts,units,attemptLimit,unitLimit⟩ := counted.balanced id ledger found
    have attemptsPositive := used_nonneg (fun _ => Int.one_nonneg : ∀ lease, 0 ≤ attemptOf lease) id s.store.leases
    have unitsPositive := used_nonneg (fun lease => Int.natCast_nonneg lease.unitWeight) id s.store.leases
    exact ⟨attempts.trans (used_attempts id _),units.trans (used_units id _),
      ⟨attempts ▸ attemptsPositive,attemptLimit⟩,⟨units ▸ unitsPositive,unitLimit⟩⟩
  · intro id absent
    have none_used := (used_attempts id s.store).symm.trans (counted.unopened id absent).1
    exact List.length_eq_zero_iff.mp (by exact_mod_cast none_used)
  · intro id row found
    obtain ⟨lease,held,leased⟩ := counted.leased id row found
    obtain ⟨lease',kept,moved⟩ := moves id lease held
    refine ⟨lease,lease',only_lease counted held,only_lease valid'.store kept,moved.1,?_,moved.2.2,?_⟩
    · exact leased.state.imp (fun held => held.2.1) (fun gone => gone.2)
    · intro terminal
      rcases leased.state with ⟨_,_,active⟩ | ⟨_,released⟩
      · cases active.symm.trans terminal
      · exact released

abbrev SampleSealed := SealedIdempotentEnvelope SandboxResult ⊕ RecoveryPayload

def sampleFingerprint (body : ReconcileBody) : String :=
  String.ofList (List.replicate body.environmentId 'e' ++ '@' :: (List.replicate body.observedAt 't' ++
    match body.executionId with
    | none => ['?']
    | some executionId => '#' :: executionId.toList))

def sampleCryptography : SandboxCryptography SampleSealed where
  fencingTokenDigest := id
  reconcileFingerprint := sampleFingerprint
  sealing := ⟨.inl,Sum.getLeft?⟩
  sealRecovery := .inr
  unsealRecovery := Sum.getRight?
  fits reference := (reference.artifactId.utf8ByteSize + reference.version.utf8ByteSize) ≤ 2500

def sampleProgram : Program (SandboxStore SampleSealed) (ReconcileWorker SampleSealed) SandboxTransaction
    ReconcileEvent :=
  sandboxProgram sampleCryptography

def sampleBinding : ExecutionBindingProjection :=
  ⟨"execution",⟨1,"workspace","requirement"⟩,"binding",1000,3,"1"⟩

def sampleScope : Scope := ⟨"actor",provisionOperation,"provision"⟩

def sampleProvision (leaseTtl ownerId now : Nat) : SandboxLabel :=
  .transact (.claimProvision ⟨⟨now,20,ownerId⟩,⟨"policy",true,2,4,leaseTtl⟩,⟨10,11,12⟩,"token",none⟩
    ⟨sampleScope,"provision",sampleBinding⟩)

def sampleReady (ownerId now : Nat) : SandboxLabel :=
  .transact (.completeReady ⟨sampleScope,"provision",20,ownerId,now⟩
    ⟨10,1,"execution",11,1,1,"binding",1000⟩ "token" "1")

def sampleFinalizeScope : Scope := ⟨"actor","sandbox.finalize","finalize"⟩

def sampleFinalizer (now : Nat) : Caller := ⟨sampleFinalizeScope,"finalize",22,23,now⟩

def sampleFinalize : List SandboxLabel :=
  [.transact (.claimOperation sampleFinalizeScope "finalize" ⟨5,22,23⟩ none),
    .transact (.beginLifecycle (sampleFinalizer 6) ⟨10,11,1,"token",2⟩ [] .finalizing .finalized),
    .transact (.cleanupStep (sampleFinalizer 7) .evidencePersisted 10 3),
    .transact (.cleanupStep (sampleFinalizer 8) .fenced 10 4),
    .transact (.cleanupStep (sampleFinalizer 9) .secretRevoked 10 5),
    .transact (.cleanupStep (sampleFinalizer 10) .capacityReleased 10 6),
    .transact (.completeLifecycle (sampleFinalizer 11) 10 7 .finalized)]

def sampleReadySystem : SandboxSystem SampleSealed :=
  (execute sampleProgram.advance sandboxInitial [sampleProvision 500 21 1,sampleReady 21 2]).get (by decide)

def sampleFinalizedSystem : SandboxSystem SampleSealed :=
  (execute sampleProgram.advance sampleReadySystem sampleFinalize).get (by decide)

theorem capacity_ledger_exact_finalized :
    (∃ ledger, sampleReadySystem.store.ledgers 1 = some ledger ∧ ledger.activeAttempts = 1 ∧
      ledger.activeUnits = 3) ∧
    ∃ lease lease' : CapacityLease,
      sampleReadySystem.store.leases = [lease] ∧ sampleFinalizedSystem.store.leases = [lease'] ∧
      lease'.id = lease.id ∧ lease.state = .active ∧ lease'.state = .released := by
  have reached : Runs (Enabled sampleProgram.advance) sandboxInitial [sampleProvision 500 21 1,sampleReady 21 2]
      sampleReadySystem := execute_get (by decide)
  have continued : Runs (Enabled sampleProgram.advance) sampleReadySystem sampleFinalize
      sampleFinalizedSystem := execute_get (by decide)
  have exact_ledger := capacity_ledger_exact reached continued
  obtain ⟨attempts,units,_⟩ := exact_ledger.1 1 _ rfl
  obtain ⟨lease,lease',one,two,same,_⟩ := exact_ledger.2.2 10 _ rfl
  have finished := capacity_ledger_exact (reached.append continued) .nil
  obtain ⟨_,_,three,_,_,_,_,terminal⟩ := finished.2.2 10 _ rfl
  refine ⟨⟨_,rfl,attempts,units⟩,_,_,rfl,rfl,?_,rfl,?_⟩
  · cases one
    cases two
    exact same
  · cases three
    exact terminal rfl

end EngineeringPlatform.Sandbox
