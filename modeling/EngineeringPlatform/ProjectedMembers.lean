import EngineeringPlatform.Workspace
namespace EngineeringPlatform.Workspace
open Checked KeyedRows Organization Identity

-- What a transaction sees of identity and organization at one leader's turn. The
-- leader's account, its place in the structure, its reports and the reports'
-- accounts are read one after the other, each at an instant of its own.
structure LeaderView where
  account : Directory
  leads : Directory
  reports : Directory
  members : Directory

abbrev Views := String → LeaderView

def addLeaderSeen (seen : LeaderView) (leader : String) (desired : Desired) : Except WorkspaceError Desired := do
  require (seen.account.effective leader = true) .leaderNotEffective
  let leads ← lift (isEffectiveLeader seen.leads leader)
  require (leads = true) .leaderNotEffective
  let reports ← lift (directReports seen.reports leader)
  pure (addReports seen.members reports desired)

def addLeadersSeen (view : Views) : List String → Desired → Except WorkspaceError Desired
  | [],desired => pure desired
  | leader :: rest,desired => do
    let desired ← addLeaderSeen (view leader) leader desired
    addLeadersSeen view rest desired

def desiredSeen (view : Views) (workspace : Workspace) : Except WorkspaceError Desired :=
  addLeadersSeen view (workspace.ownerId :: workspace.leaderIds) (leadersFirst workspace.ownerId workspace.leaderIds)

def replaceSeen (view : Views) (now : Time) (workspace : Workspace) : Except WorkspaceError Workspace := do
  let desired ← desiredSeen view workspace
  pure (if sameMembers (existingMembers workspace) desired then workspace else replaceMembers workspace desired now)

def recomputeSeen (view : Views) (affected : List String) (now : Time) (workspace : Workspace) :
    Except WorkspaceError Workspace :=
  if workspace.archivedAt.isSome then pure workspace
  else do
    let desired ← desiredSeen view workspace
    pure (if !intersects affected (existingMembers workspace) && !intersects affected desired then workspace
      else if sameMembers (existingMembers workspace) desired then workspace
      else bumpVersion (replaceMembers workspace desired now))

-- Nothing changes while the facts are read.
def LeaderView.still (d : Directory) : LeaderView := ⟨d,d,d,d⟩

theorem addLeadersSeen_still (d : Directory) (leaders : List String) (desired : Desired) :
    addLeadersSeen (fun _ => .still d) leaders desired = addLeaders d leaders desired := by
  induction leaders generalizing desired with
  | nil => rfl
  | cons leader rest ih =>
    unfold addLeadersSeen addLeaders
    exact congrArg (addLeader d leader desired >>= ·) (funext ih)

theorem desiredSeen_still (d : Directory) (workspace : Workspace) :
    desiredSeen (fun _ => .still d) workspace = desiredMembers d workspace :=
  addLeadersSeen_still d _ _

theorem replaceSeen_still (d : Directory) (now : Time) (workspace : Workspace) :
    replaceSeen (fun _ => .still d) now workspace = replaceProjection d now workspace := by
  unfold replaceSeen replaceProjection
  rw [desiredSeen_still]

-- The primary keys of the two tables.
structure Snapshot (d : Directory) : Prop where
  keyed : ∀ account view, d.accounts account = some view → view.id = account
  unique : Unique OrgEdge.accountId d.edges

def reportsTo (seen : LeaderView) (account leader : String) : Bool :=
  seen.members.effective account && (seen.reports.effective account &&
    (edgeOf seen.reports.edges account).any fun edge => edge.superiorId = some leader ∧ edge.kind = .member)

-- The entry of an account among the members, from the facts about this account.
def memberSource (view : Views) (workspace : Workspace) (account : String) : Option MemberSource :=
  if account = workspace.ownerId then some .owner
  else if account ∈ workspace.leaderIds then some .leader
  else if (workspace.ownerId :: workspace.leaderIds).any fun leader => reportsTo (view leader) account leader then
    some .directReport
  else none

def SameFacts (one two : Directory) (account : String) : Prop :=
  one.effective account = two.effective account ∧ edgeOf one.edges account = edgeOf two.edges account

instance (one two : Directory) (account : String) : Decidable (SameFacts one two account) :=
  inferInstanceAs (Decidable (_ ∧ _))

-- What the projection takes of an account, as seen and as it is.
def LeaderView.Agrees (seen : LeaderView) (d : Directory) (account : String) : Prop :=
  SameFacts seen.members d account ∧ SameFacts seen.reports d account

variable {account : String} {view : Views} {workspace : Workspace} {members : Desired}

theorem LeaderView.Agrees.reports (same : LeaderView.Agrees seen d account) (leader : String) :
    reportsTo seen account leader = reportsTo (.still d) account leader := by
  unfold reportsTo
  rw [same.1.1,same.2.1,same.2.2]
  rfl

theorem memberSource_agrees
    (same : ∀ leader ∈ workspace.ownerId :: workspace.leaderIds, (view leader).Agrees d account) :
    memberSource view workspace account = memberSource (fun _ => .still d) workspace account := by
  have any : ((workspace.ownerId :: workspace.leaderIds).any fun leader => reportsTo (view leader) account leader) =
      (workspace.ownerId :: workspace.leaderIds).any fun leader => reportsTo (.still d) account leader := by
    rw [Bool.eq_iff_iff,List.any_eq_true,List.any_eq_true]
    exact exists_congr fun leader => and_congr_right fun member => by rw [(same leader member).reports leader]
  unfold memberSource
  rw [any]

-- The projection depends on the account's own facts alone.
theorem memberSource_same {one two : Directory} (workspace : Workspace) (same : SameFacts one two account) :
    memberSource (fun _ => .still one) workspace account = memberSource (fun _ => .still two) workspace account :=
  memberSource_agrees fun _ _ => ⟨same,same⟩

def keys (members : Desired) : List String := members.map (·.1)

theorem any_key :
    (members.any (·.1 = account)) = true ↔ account ∈ keys members := by
  unfold keys
  simp only [List.any_eq_true,decide_eq_true_eq,List.mem_map]

theorem lookup_key : (members.lookup account).isSome = true ↔ account ∈ keys members := by
  rw [List.lookup_isSome_iff]
  unfold keys
  simp only [List.mem_map,beq_iff_eq]
  exact exists_congr fun entry => and_congr_right fun _ => eq_comm

theorem lookup_entry (account other : String) (source : MemberSource) (rest : Desired) :
    List.lookup other ((account,source) :: rest) = if other = account then some source else rest.lookup other := by
  by_cases same : other = account
  · rw [if_pos same,same]
    exact List.lookup_cons_self
  · have differs : (other == account) = false := beq_false_of_ne same
    rw [if_neg same,List.lookup_cons,differs]

theorem lookup_setDefault (members : Desired) (account other : String) (source : MemberSource) :
    (setDefault members account source).lookup other =
      (members.lookup other).or (if other = account then some source else none) := by
  unfold setDefault
  split
  · rename_i present
    obtain ⟨found,there⟩ := Option.isSome_iff_exists.mp (lookup_key.mpr (any_key.mp present))
    split
    · rename_i same
      rw [same,there]
      rfl
    · exact (Option.or_none).symm
  · rw [List.lookup_append,lookup_entry]
    rfl

theorem keys_setDefault (unique : (keys members).Nodup) : (keys (setDefault members account source)).Nodup := by
  unfold setDefault
  split
  · exact unique
  · rename_i absent
    have absent : account ∉ keys members := fun member => absent (any_key.mpr member)
    unfold keys at *
    rw [List.map_append]
    exact List.Nodup.append unique (List.nodup_singleton _) (by simpa using absent)

theorem leadersFirst_lookup (leaders : List String) (members : Desired) (account : String) :
    (leaders.foldl (fun desired leader => setDefault desired leader .leader) members).lookup account =
      (members.lookup account).or (if account ∈ leaders then some .leader else none) := by
  induction leaders generalizing members with
  | nil => simp
  | cons leader rest ih =>
    rw [List.foldl_cons,ih,lookup_setDefault,Option.or_assoc]
    by_cases same : account = leader
    · simp [same]
    · simp [same]

theorem leadersFirst_keys (leaders : List String) (unique : (keys members).Nodup) :
    (keys (leaders.foldl (fun desired leader => setDefault desired leader .leader) members)).Nodup := by
  induction leaders generalizing members with
  | nil => exact unique
  | cons leader rest ih => exact ih (keys_setDefault unique)

theorem addReports_lookup (d : Directory) (reports : List AccountRef) (members : Desired) (account : String) :
    (addReports d reports members).lookup account =
      (members.lookup account).or
        (if d.effective account = true ∧ account ∈ reports.map (·.id) then some .directReport else none) := by
  unfold addReports
  induction reports generalizing members with
  | nil => simp
  | cons report rest ih =>
    rw [List.foldl_cons,ih]
    by_cases effective : d.effective report.id = true
    · rw [if_pos effective,lookup_setDefault,Option.or_assoc]
      by_cases same : account = report.id
      · simp [same,effective]
      · simp [same]
    · rw [if_neg effective]
      by_cases same : account = report.id
      · simp [same,effective]
      · simp [same]

theorem addReports_keys (d : Directory) (reports : List AccountRef) (unique : (keys members).Nodup) :
    (keys (addReports d reports members)).Nodup := by
  unfold addReports
  induction reports generalizing members with
  | nil => exact unique
  | cons report rest ih =>
    rw [List.foldl_cons]
    refine ih ?_
    split
    · exact keys_setDefault unique
    · exact unique

theorem directReports_mem {d : Directory} (snapshot : Snapshot d) (ran : directReports d leader = .ok reports)
    (account : String) : account ∈ reports.map (·.id) ↔
      (d.effective account && (edgeOf d.edges account).any fun edge =>
        edge.superiorId = some leader ∧ edge.kind = .member) = true := by
  have edges : ∀ edges, d.validEdges = .ok edges → edges = d.edges := by
    intro edges checked
    unfold Directory.validEdges at checked
    split at checked
    · exact (pure_ok.mp checked).symm
    · cases checked
  unfold directReports at ran
  obtain ⟨found,checked,ran⟩ := bind_ok.mp ran
  cases edges found checked
  obtain ⟨_,ran⟩ := require_bind_ok.mp ran
  cases pure_ok.mp ran
  rw [Bool.and_eq_true,Option.any_eq_true]
  constructor
  · intro member
    obtain ⟨report,listed,rfl⟩ := List.mem_map.mp member
    obtain ⟨edge,there,reported⟩ := List.mem_filterMap.mp ((List.perm_insertionSort _ _).mem_iff.mp listed)
    unfold reportOf at reported
    split at reported
    · rename_i under
      obtain ⟨view,kept,rfl⟩ := Option.map_eq_some_iff.mp reported
      obtain ⟨stored,effective⟩ := Option.filter_eq_some_iff.mp kept
      have here : view.id = edge.accountId := snapshot.keyed _ _ stored
      refine ⟨?_,edge,?_,decide_eq_true under⟩
      · unfold Directory.effective
        change (d.accounts view.id).any (·.effective) = true
        rw [here,stored]
        exact effective
      · change find OrgEdge.accountId d.edges view.id = some edge
        rw [here]
        exact find_of_mem snapshot.unique there
    · cases reported
  · rintro ⟨effective,edge,found,under⟩
    obtain ⟨there,here⟩ := find_some found
    unfold Directory.effective at effective
    obtain ⟨view,stored,effective⟩ := (Option.any_eq_true _ _).mp effective
    have reported : reportOf d leader edge = some ⟨view.id,view.employeeNo,view.displayName⟩ := by
      unfold reportOf
      rw [if_pos (of_decide_eq_true under),here,stored,Option.filter_some_pos effective]
      rfl
    refine List.mem_map.mpr ⟨_,(List.perm_insertionSort _ _).mem_iff.mpr (List.mem_filterMap.mpr ⟨edge,there,reported⟩),?_⟩
    exact snapshot.keyed _ _ stored

theorem addLeaderSeen_lookup {seen : LeaderView} (snapshot : Snapshot seen.reports)
    (ran : addLeaderSeen seen leader members = .ok desired) (account : String) :
    desired.lookup account =
      (members.lookup account).or (if reportsTo seen account leader = true then some .directReport else none) := by
  unfold addLeaderSeen at ran
  obtain ⟨_,ran⟩ := require_bind_ok.mp ran
  obtain ⟨leads,_,ran⟩ := bind_ok.mp ran
  obtain ⟨_,ran⟩ := require_bind_ok.mp ran
  obtain ⟨reports,lifted,ran⟩ := bind_ok.mp ran
  cases pure_ok.mp ran
  unfold lift at lifted
  split at lifted
  · rename_i listed
    cases lifted
    unfold reportsTo
    rw [addReports_lookup]
    simp only [directReports_mem snapshot listed,Bool.and_eq_true]
  · cases lifted

theorem addLeaderSeen_keys {seen : LeaderView} (ran : addLeaderSeen seen leader members = .ok desired)
    (unique : (keys members).Nodup) : (keys desired).Nodup := by
  unfold addLeaderSeen at ran
  obtain ⟨_,ran⟩ := require_bind_ok.mp ran
  obtain ⟨leads,_,ran⟩ := bind_ok.mp ran
  obtain ⟨_,ran⟩ := require_bind_ok.mp ran
  obtain ⟨reports,_,ran⟩ := bind_ok.mp ran
  cases pure_ok.mp ran
  exact addReports_keys _ reports unique

theorem addLeadersSeen_lookup (snapshots : ∀ leader, Snapshot (view leader).reports)
    (ran : addLeadersSeen view leaders members = .ok desired) (account : String) :
    desired.lookup account = (members.lookup account).or
      (if (leaders.any fun leader => reportsTo (view leader) account leader) = true then some .directReport else none) := by
  induction leaders generalizing members with
  | nil =>
    cases pure_ok.mp ran
    simp
  | cons leader rest ih =>
    obtain ⟨middle,first,ran⟩ := bind_ok.mp ran
    rw [ih ran,addLeaderSeen_lookup (snapshots leader) first,Option.or_assoc,List.any_cons]
    cases reportsTo (view leader) account leader <;> simp

theorem addLeadersSeen_keys (ran : addLeadersSeen view leaders members = .ok desired)
    (unique : (keys members).Nodup) : (keys desired).Nodup := by
  induction leaders generalizing members with
  | nil =>
    cases pure_ok.mp ran
    exact unique
  | cons leader rest ih =>
    obtain ⟨middle,first,ran⟩ := bind_ok.mp ran
    exact ih ran (addLeaderSeen_keys first unique)

theorem desiredSeen_lookup (snapshots : ∀ leader, Snapshot (view leader).reports)
    (ran : desiredSeen view workspace = .ok desired) (account : String) :
    desired.lookup account = memberSource view workspace account := by
  rw [addLeadersSeen_lookup snapshots ran]
  unfold leadersFirst
  rw [leadersFirst_lookup,Option.or_assoc,lookup_entry]
  unfold memberSource
  by_cases owner : account = workspace.ownerId
  · simp [owner]
  · by_cases leads : account ∈ workspace.leaderIds
    · simp [owner,leads]
    · simp [owner,leads]

theorem desiredSeen_keys (ran : desiredSeen view workspace = .ok desired) :
    (keys desired).Nodup :=
  addLeadersSeen_keys ran (leadersFirst_keys _ (List.nodup_singleton _))

theorem entry_lookup (unique : (keys members).Nodup) {entry : String × MemberSource} :
    entry ∈ members ↔ members.lookup entry.1 = some entry.2 := by
  induction members with
  | nil => simp
  | cons head rest ih =>
    obtain ⟨fresh,unique⟩ := List.nodup_cons.mp unique
    rw [lookup_entry head.1 entry.1 head.2 rest,List.mem_cons,ih unique]
    by_cases same : entry.1 = head.1
    · rw [if_pos same]
      constructor
      · rintro (rfl | later)
        · rfl
        · have present : (rest.lookup head.1).isSome = true := by
            rw [←same,later]
            rfl
          exact absurd (lookup_key.mp present) fresh
      · exact fun here => Or.inl (Prod.ext same (Option.some.inj here).symm)
    · rw [if_neg same]
      exact ⟨fun either => either.resolve_left fun here => same (congrArg Prod.fst here),Or.inr⟩

theorem sameMembers_lookup {one two : Desired} (uniqueOne : (keys one).Nodup) (uniqueTwo : (keys two).Nodup) :
    sameMembers one two = true ↔ ∀ account, one.lookup account = two.lookup account := by
  unfold sameMembers
  simp only [Bool.and_eq_true,List.all_eq_true,List.contains_iff_mem]
  constructor
  · rintro ⟨forth,back⟩ account
    cases found : two.lookup account with
    | some source =>
      exact (entry_lookup uniqueOne).mp (back (account,source) ((entry_lookup uniqueTwo).mpr found))
    | none =>
      cases other : one.lookup account with
      | none => rfl
      | some source =>
        have there := (entry_lookup uniqueTwo).mp (forth (account,source) ((entry_lookup uniqueOne).mpr other))
        cases found.symm.trans there
  · intro same
    exact ⟨fun entry member => (entry_lookup uniqueTwo).mpr ((same entry.1).symm.trans ((entry_lookup uniqueOne).mp member)),
      fun entry member => (entry_lookup uniqueOne).mpr ((same entry.1).trans ((entry_lookup uniqueTwo).mp member))⟩

end EngineeringPlatform.Workspace
