import EngineeringPlatform.MembershipProjection
namespace EngineeringPlatform.Workspace
open Checked KeyedRows TransitionRuns Organization Authorization Identity
variable {s t : Projecting} {item id : Uuid}

def factSource (d : Directory) : Workspace → String → Option MemberSource := memberSource fun _ => .still d

-- A member row that is not the one the current facts give.
def Stale (d : Directory) (workspace : Workspace) (account : String) : Prop :=
  (existingMembers workspace).lookup account ≠ factSource d workspace account

structure SecurityItem.Owing (row : SecurityItem) (account : String) : Prop where
  status : row.status = .pending
  source : row.source = .committed
  recompute : row.recomputeMembership = true
  affected : account ∈ row.affectedAccountIds

-- A committed change whose handler has still to go through a workspace.
structure Owes (s : Projecting) (item id : Uuid) (account : String) : Prop where
  row : ∃ row, s.item item = some row ∧ row.Owing account
  ahead : ∀ run, s.runs item = some run → run.committed = false ∧ id ∈ run.listed

-- What a handler's transaction has written of a workspace, behind its lock.
structure Staged (s : Projecting) (item id : Uuid) (next : Workspace) : Prop where
  locked : ∃ lock, s.locks id = some lock ∧ lock.holder = some item
  turned : ∃ old, s.workspace id = some old ∧ next.id = id ∧
    (next = old ∨ next.version = old.version + 1 ∧ sameMembers (existingMembers old) (existingMembers next) = false)
  keyed : (keys (existingMembers next)).Nodup
  covered : ∀ account, Stale s.directory next account → ∃ other, other ≠ item ∧ Owes s other id account

structure Held (s : Projecting) (id : Uuid) (lock : RowLock) : Prop where
  present : ∃ row, s.workspace id = some row ∧ row.archivedAt = none
  held : ∀ item, lock.holder = some item → ∃ run, s.runs item = some run ∧ run.committed = false
  behind : ∀ account ∈ lock.changed, ∃ item, lock.holder ≠ some item ∧ Owes s item id account

structure Pursued (s : Projecting) (item : Uuid) (run : HandlerRun) : Prop where
  row : ∃ row, s.item item = some row ∧ row.status = .pending ∧ row.source = .committed ∧
    row.recomputeMembership = true
  staged : run.committed = false → ∀ id next, run.staged id = some next → Staged s item id next

structure ProjectionValid (s : Projecting) : Prop where
  snapshot : Snapshot s.directory
  structured : validateStructure s.directory.edges = .ok ()
  unique : Unique Workspace.id s.workspaces
  keyed : ∀ row ∈ s.workspaces, (keys (existingMembers row)).Nodup
  locks : ∀ id lock, s.locks id = some lock → Held s id lock
  runs : ∀ item run, s.runs item = some run → Pursued s item run
  covered : ∀ row ∈ s.workspaces, row.archivedAt = none → ∀ account, Stale s.directory row account →
    ∃ item, Owes s item row.id account

-- The steps after which the projections still follow the facts: no change is
-- cancelled whose source commits, and a new workspace commits only members that
-- the owner still has, or that a change says which is not being handled yet.
def Followed (s : Projecting) : ProjectionLabel → Prop
  | .cancel item => ∀ row, s.item item = some row → row.recomputeMembership = true → row.source ≠ .committed
  | .changeAccount item _ | .changeSuperior item _ _ _ => ∀ row, s.item item = some row → row.status = .pending
  | .create _ _ owner _ _ view _ => ∀ account, account ≠ owner →
    reportsTo (view owner) account owner ≠ reportsTo (.still s.directory) account owner →
    ∃ item row, s.item item = some row ∧ row.Owing account ∧ s.runs item = none
  | _ => True

theorem initial_projections : ProjectionValid .initial := by
  refine ⟨⟨?_,List.nodup_nil⟩,rfl,List.nodup_nil,?_,?_,?_,?_⟩
  · intro account view stored
    cases stored
  · intro row member
    cases member
  · intro id lock held
    cases held
  · intro item run started
    cases started
  · intro row member
    cases member

theorem Owes.frame (owes : Owes s item id account) (items : t.item item = s.item item)
    (runs : t.runs item = s.runs item) : Owes t item id account :=
  ⟨by rw [items]; exact owes.row,by rw [runs]; exact owes.ahead⟩

theorem Stale.same {d other : Directory} (same : SameFacts d other account) (stale : Stale other workspace account) :
    Stale d workspace account := by
  unfold Stale factSource at *
  rw [memberSource_same workspace same]
  exact stale

theorem drop_some {table : Table Uuid ρ} (found : Projecting.drop table key other = some row) :
    other ≠ key ∧ table other = some row := by
  unfold Projecting.drop at found
  split at found
  · cases found
  · rename_i differs
    exact ⟨differs,found⟩

theorem drop_other {table : Table Uuid ρ} (differs : other ≠ key) : Projecting.drop table key other = table other :=
  if_neg differs

-- A row put in the place of the one with its key.
theorem put_unique {κ : Type} [DecidableEq κ] {key : ρ → κ} {rows : List ρ} (row : ρ) (unique : Unique key rows) :
    Unique key (upsert key rows (key row) row fun _ => row) := by
  unfold upsert
  split
  · exact unique_replace rfl unique
  · rename_i missing
    exact unique_insert unique (Option.not_isSome_iff_eq_none.mp missing)

theorem put_other {κ : Type} [DecidableEq κ] {key : ρ → κ} {rows : List ρ} {other : κ} (row : ρ) (differs : other ≠ key row) :
    find key (upsert key rows (key row) row fun _ => row) other = find key rows other := by
  unfold upsert
  split
  · exact (find_replace rfl other).trans (if_neg differs)
  · rename_i missing
    exact (find_insert other (Option.not_isSome_iff_eq_none.mp missing)).trans (if_neg differs)

theorem put_found {κ : Type} [DecidableEq κ] {key : ρ → κ} (rows : List ρ) (row : ρ) :
    find key (upsert key rows (key row) row fun _ => row) (key row) = some row := by
  unfold upsert
  split
  · rename_i present
    obtain ⟨old,found⟩ := Option.isSome_iff_exists.mp present
    exact find_replaced found (find_some found).2.symm
  · rename_i missing
    exact (find_insert _ (Option.not_isSome_iff_eq_none.mp missing)).trans (if_pos rfl)

theorem item_id (stored : s.item item = some row) : row.id = item := (find_some stored).2

theorem putItem_item (s : Projecting) (row : SecurityItem) : (s.putItem row).item row.id = some row := put_found _ row

theorem putItem_other {row : SecurityItem} (differs : other ≠ row.id) : (s.putItem row).item other = s.item other :=
  put_other row differs

def Present (s : Projecting) (id : Uuid) : Prop := ∃ row, s.workspace id = some row ∧ row.archivedAt = none

-- A step that writes no workspace: a fact that changed is owed by a change no
-- handler is called for yet, and what is owed stays owed.
structure Onward (s t : Projecting) : Prop where
  workspaces : t.workspaces = s.workspaces
  same : ∀ account, SameFacts s.directory t.directory account ∨
    ∃ item, (∀ id, Owes t item id account) ∧ s.runs item = none
  owes : ∀ item id account, Present s id → Owes s item id account → Owes t item id account

theorem Onward.stale (onward : Onward s t) (stale : Stale t.directory row account) :
    Stale s.directory row account ∨ ∃ item, (∀ id, Owes t item id account) ∧ s.runs item = none :=
  (onward.same account).imp_left fun same => stale.same same

theorem Onward.workspace (onward : Onward s t) (id : Uuid) : t.workspace id = s.workspace id := by
  unfold Projecting.workspace
  rw [onward.workspaces]

theorem Onward.held (onward : Onward s t) (held : Held s id lock)
    (going : ∀ item, lock.holder = some item → ∃ run, t.runs item = some run ∧ run.committed = false) :
    Held t id lock := by
  refine ⟨?_,going,?_⟩
  · rw [onward.workspace]
    exact held.present
  · intro account changed
    obtain ⟨item,differs,owes⟩ := held.behind account changed
    exact ⟨item,differs,onward.owes _ _ _ held.present owes⟩

theorem Onward.staged (valid : ProjectionValid s) (onward : Onward s t) (started : s.runs item = some run)
    (staged : Staged s item id next) (locked : ∃ lock, t.locks id = some lock ∧ lock.holder = some item) :
    Staged t item id next := by
  obtain ⟨lock,held,_⟩ := staged.locked
  refine ⟨locked,?_,staged.keyed,?_⟩
  · rw [onward.workspace]
    exact staged.turned
  · intro account stale
    rcases onward.stale stale with before | ⟨other,owes,idle⟩
    · obtain ⟨other,differs,owes⟩ := staged.covered account before
      exact ⟨other,differs,onward.owes _ _ _ (valid.locks _ _ held).present owes⟩
    · refine ⟨other,?_,owes id⟩
      rintro rfl
      cases idle.symm.trans started

theorem Onward.pursued (valid : ProjectionValid s) (onward : Onward s t) (started : s.runs item = some run)
    (row : ∃ row, t.item item = some row ∧ row.status = .pending ∧ row.source = .committed ∧
      row.recomputeMembership = true)
    (locked : ∀ id lock, s.locks id = some lock → lock.holder = some item →
      ∃ lock, t.locks id = some lock ∧ lock.holder = some item) : Pursued t item run := by
  refine ⟨row,fun going id next written => ?_⟩
  have staged := (valid.runs item run started).staged going id next written
  obtain ⟨lock,held,holder⟩ := staged.locked
  exact onward.staged valid started staged (locked id lock held holder)

theorem Onward.valid (valid : ProjectionValid s) (onward : Onward s t) (snapshot : Snapshot t.directory)
    (structured : validateStructure t.directory.edges = .ok ())
    (locks : ∀ id lock, t.locks id = some lock → Held t id lock)
    (runs : ∀ item run, t.runs item = some run → Pursued t item run) : ProjectionValid t := by
  refine ⟨snapshot,structured,onward.workspaces ▸ valid.unique,onward.workspaces ▸ valid.keyed,locks,runs,?_⟩
  intro row member active account stale
  rw [onward.workspaces] at member
  rcases onward.stale stale with before | ⟨item,owes,_⟩
  · obtain ⟨item,owes⟩ := valid.covered row member active account before
    exact ⟨item,onward.owes _ _ _ ⟨row,find_of_mem valid.unique member,active⟩ owes⟩
  · exact ⟨item,owes row.id⟩

theorem SameFacts.refl (d : Directory) (account : String) : SameFacts d d account := ⟨rfl,rfl⟩

-- A write of a convergence work row whose handler is not being called.
theorem putItem_valid (valid : ProjectionValid s) (row : SecurityItem) (idle : s.runs row.id = none)
    (kept : ∀ old account, s.item row.id = some old → old.Owing account → row.Owing account) :
    ProjectionValid (s.putItem row) := by
  have onward : Onward s (s.putItem row) := by
    refine ⟨rfl,fun account => .inl (.refl _ account),?_⟩
    intro other id account _ owes
    by_cases same : other = row.id
    · subst same
      obtain ⟨old,stored,owing⟩ := owes.row
      exact ⟨⟨row,putItem_item s row,kept old account stored owing⟩,owes.ahead⟩
    · exact owes.frame (putItem_other same) rfl
  refine onward.valid valid valid.snapshot valid.structured ?_ ?_
  · intro id lock held
    exact onward.held (valid.locks id lock held) (valid.locks id lock held).held
  · intro other run started
    refine onward.pursued valid started ?_ fun id lock held holder => ⟨lock,held,holder⟩
    have differs : other ≠ row.id := by
      rintro rfl
      cases idle.symm.trans started
    obtain ⟨row',stored,rest⟩ := (valid.runs other run started).row
    exact ⟨row',(putItem_other differs).trans stored,rest⟩

theorem begin_valid {recompute : Bool} (valid : ProjectionValid s) (ran : s.begin item affected recompute = some t) :
    ProjectionValid t := by
  unfold Projecting.begin at ran
  split at ran
  · rename_i absent
    have absent := Option.isNone_iff_eq_none.mp absent
    cases Option.some.inj ran
    refine putItem_valid valid _ ?_ fun old account stored => by cases absent.symm.trans stored
    refine Option.eq_none_iff_forall_ne_some.mpr fun run started => ?_
    obtain ⟨row,stored,_⟩ := (valid.runs item run started).row
    cases absent.symm.trans stored
  · cases ran

theorem inProgress_idle (valid : ProjectionValid s) (stored : s.item item = some row)
    (source : row.source = .inProgress) : s.runs item = none := by
  refine Option.eq_none_iff_forall_ne_some.mpr fun run started => ?_
  obtain ⟨row',stored',_,committed,_⟩ := (valid.runs item run started).row
  cases stored.symm.trans stored'
  cases source.symm.trans committed

theorem resolve_valid (valid : ProjectionValid s) (ran : s.resolve item status = some t) : ProjectionValid t := by
  unfold Projecting.resolve at ran
  obtain ⟨row,found,rfl⟩ := Option.map_eq_some_iff.mp ran
  obtain ⟨stored,source⟩ := Option.filter_eq_some_iff.mp found
  have source := of_decide_eq_true source
  cases item_id stored
  refine putItem_valid valid _ (inProgress_idle valid stored source) fun old account there owing => ?_
  cases stored.symm.trans there
  cases source.symm.trans owing.source

theorem cancel_valid (valid : ProjectionValid s) (followed : Followed s (.cancel item)) (ran : s.cancel item = some t) :
    ProjectionValid t := by
  unfold Projecting.cancel at ran
  obtain ⟨row,found,rfl⟩ := Option.map_eq_some_iff.mp ran
  obtain ⟨stored,pending⟩ := Option.filter_eq_some_iff.mp found
  obtain ⟨_,idle⟩ := of_decide_eq_true pending
  cases item_id stored
  refine putItem_valid valid _ (Option.isNone_iff_eq_none.mp idle) fun old account there owing => ?_
  exact absurd owing.source (followed old there owing.recompute)

-- A committed change of one account's facts.
theorem changeFacts_valid {row : SecurityItem} (valid : ProjectionValid s) (stored : s.item item = some row)
    (changes : row.changes account = true) (pending : row.status = .pending)
    (snapshot : Snapshot d) (structured : validateStructure d.edges = .ok ())
    (same : ∀ other, other ≠ account → SameFacts s.directory d other) :
    ProjectionValid ((s.changeFacts account d).putItem {row with source := .committed}) := by
  obtain ⟨source,recompute,affected⟩ := of_decide_eq_true changes
  have idle := inProgress_idle valid stored source
  cases item_id stored
  generalize next : (s.changeFacts account d).putItem {row with source := .committed} = t
  have owed : ∀ id, Owes t row.id id account := by
    intro id
    subst next
    exact ⟨⟨{row with source := .committed},putItem_item _ _,pending,rfl,recompute,affected⟩,fun run started => by cases idle.symm.trans started⟩
  have items : ∀ other, other ≠ row.id → t.item other = s.item other := by
    intro other differs
    subst next
    exact putItem_other differs
  have runs : t.runs = s.runs := by
    subst next
    rfl
  have directory : t.directory = d := by
    subst next
    rfl
  have locks : t.locks = s.locks.updateAll fun _ lock => {lock with changed := account :: lock.changed} := by
    subst next
    rfl
  have onward : Onward s t := by
    refine ⟨?_,?_,?_⟩
    · subst next
      rfl
    · intro other
      by_cases here : other = account
      · subst here
        exact .inr ⟨row.id,owed,idle⟩
      · exact .inl (directory ▸ same other here)
    · intro other id account' _ owes
      refine owes.frame (items other ?_) (congrFun runs other)
      rintro rfl
      obtain ⟨old,there,owing⟩ := owes.row
      cases stored.symm.trans there
      cases source.symm.trans owing.source
  refine onward.valid valid (directory ▸ snapshot) (directory ▸ structured) ?_ ?_
  · intro id lock held
    rw [locks] at held
    obtain ⟨old,before,rfl⟩ := Table.updateAll_some held
    have kept := onward.held (valid.locks id old before) (runs ▸ (valid.locks id old before).held)
    refine ⟨kept.present,kept.held,?_⟩
    intro other changed
    rcases List.mem_cons.mp changed with rfl | earlier
    · refine ⟨row.id,?_,owed id⟩
      intro holder
      obtain ⟨run,started,_⟩ := (valid.locks id old before).held row.id holder
      cases idle.symm.trans started
    · exact kept.behind other earlier
  · intro other run started
    rw [runs] at started
    refine onward.pursued valid started ?_ ?_
    · have differs : other ≠ row.id := by
        rintro rfl
        cases idle.symm.trans started
      rw [items other differs]
      exact (valid.runs other run started).row
    · intro id lock held holder
      rw [locks]
      refine ⟨{lock with changed := account :: lock.changed},?_,holder⟩
      rw [Table.updateAll_apply,held]
      rfl

theorem putAccount_snapshot (snapshot : Snapshot d) (view : AccountView) : Snapshot (Projecting.putAccount d view) := by
  refine ⟨fun account view' there => ?_,snapshot.unique⟩
  rcases Table.put_some there with ⟨rfl,rfl⟩ | ⟨_,there⟩
  · rfl
  · exact snapshot.keyed _ _ there

theorem putAccount_other {view : AccountView} (differs : other ≠ view.id) :
    SameFacts d (Projecting.putAccount d view) other := by
  refine ⟨?_,rfl⟩
  unfold Directory.effective Projecting.putAccount
  dsimp only
  rw [Table.put_other _ _ differs]

theorem changeAccount_valid {view : AccountView} (valid : ProjectionValid s) (followed : Followed s (.changeAccount item view))
    (ran : s.changeAccount item view = some t) : ProjectionValid t := by
  unfold Projecting.changeAccount at ran
  obtain ⟨row,found,rfl⟩ := Option.map_eq_some_iff.mp ran
  obtain ⟨stored,changes⟩ := Option.filter_eq_some_iff.mp found
  exact changeFacts_valid valid stored changes (followed row stored) (putAccount_snapshot valid.snapshot view)
    valid.structured fun other differs => putAccount_other differs

theorem changeSuperior_valid (valid : ProjectionValid s)
    (followed : Followed s (.changeSuperior item account superior accounts))
    (ran : s.changeSuperior item account superior accounts = some t) : ProjectionValid t := by
  unfold Projecting.changeSuperior at ran
  obtain ⟨row,found,ran⟩ := Option.bind_eq_some_iff.mp ran
  obtain ⟨stored,changes⟩ := Option.filter_eq_some_iff.mp found
  obtain ⟨proposed,done,set,rfl⟩ := committed_map_some.mp ran
  have structured := setSuperior_structured set
  unfold setSuperior at set
  obtain ⟨_,set⟩ := require_bind_ok.mp set
  obtain ⟨above,_,set⟩ := bind_ok.mp set
  obtain ⟨kind,_,set⟩ := bind_ok.mp set
  obtain ⟨checked,_,set⟩ := bind_ok.mp set
  cases pure_ok.mp set
  refine changeFacts_valid valid stored changes (followed row stored)
    ⟨valid.snapshot.keyed,put_unique ⟨account,superior,kind⟩ valid.snapshot.unique⟩ structured ?_
  intro other differs
  have kept : edgeOf (upsert OrgEdge.accountId s.directory.edges account _ fun _ => _) other =
    edgeOf s.directory.edges other := @put_other _ _ _ OrgEdge.accountId _ other ⟨account,superior,kind⟩ differs
  exact ⟨rfl,kept.symm⟩

theorem openAccount_valid {view : AccountView} (valid : ProjectionValid s) (ran : s.openAccount view = some t) : ProjectionValid t := by
  unfold Projecting.openAccount at ran
  split at ran
  · rename_i opens
    obtain ⟨absent,idle⟩ := opens
    have absent := Option.isNone_iff_eq_none.mp absent
    cases Option.some.inj ran
    have onward : Onward s {s with directory := Projecting.putAccount s.directory view} := by
      refine ⟨rfl,fun account => .inl ?_,fun _ _ _ _ owes => owes.frame rfl rfl⟩
      by_cases here : account = view.id
      · subst here
        refine ⟨?_,rfl⟩
        unfold Directory.effective Projecting.putAccount
        dsimp only
        rw [Table.put_same,absent]
        exact idle.symm
      · exact putAccount_other here
    refine onward.valid valid (putAccount_snapshot valid.snapshot view) valid.structured ?_ ?_
    · exact fun id lock held => onward.held (valid.locks id lock held) (valid.locks id lock held).held
    · exact fun item run started => onward.pursued valid started (valid.runs item run started).row
        fun id lock held holder => ⟨lock,held,holder⟩
  · cases ran

theorem lockRow_valid (valid : ProjectionValid s) (ran : s.lockRow id holder = some t)
    (going : ∀ item, holder = some item → ∃ run, s.runs item = some run ∧ run.committed = false) :
    ProjectionValid t := by
  unfold Projecting.lockRow at ran
  split at ran
  · rename_i row free there
    split at ran
    · rename_i active
      cases Option.some.inj ran
      have onward : Onward s {s with locks := s.locks.put id ⟨holder,[]⟩} :=
        ⟨rfl,fun account => .inl (.refl _ account),fun _ _ _ _ owes => owes.frame rfl rfl⟩
      refine onward.valid valid valid.snapshot valid.structured ?_ ?_
      · intro other lock held
        rcases Table.put_some held with ⟨rfl,rfl⟩ | ⟨_,held⟩
        · refine ⟨⟨row,there,active⟩,going,?_⟩
          intro account changed
          cases changed
        · exact onward.held (valid.locks other lock held) (valid.locks other lock held).held
      · intro item run started
        refine onward.pursued valid started (valid.runs item run started).row fun other lock held holder => ?_
        have differs : other ≠ id := by
          rintro rfl
          cases free.symm.trans held
        exact ⟨lock,(Table.put_other _ _ differs).trans held,holder⟩
    · cases ran
  · cases ran

theorem visit_valid (valid : ProjectionValid s) (ran : s.visit item id = some t) : ProjectionValid t := by
  unfold Projecting.visit at ran
  obtain ⟨run,found,ran⟩ := Option.bind_eq_some_iff.mp ran
  obtain ⟨started,going⟩ := Option.filter_eq_some_iff.mp found
  refine lockRow_valid valid ran fun other same => ?_
  cases Option.some.inj same
  exact ⟨run,started,(of_decide_eq_true going).1⟩

theorem release_valid (valid : ProjectionValid s) (ran : s.release id = some t) : ProjectionValid t := by
  unfold Projecting.release at ran
  obtain ⟨released,found,rfl⟩ := Option.map_eq_some_iff.mp ran
  obtain ⟨stored,free⟩ := Option.filter_eq_some_iff.mp found
  have free := of_decide_eq_true free
  have onward : Onward s {s with locks := Projecting.drop s.locks id} :=
    ⟨rfl,fun account => .inl (.refl _ account),fun _ _ _ _ owes => owes.frame rfl rfl⟩
  refine onward.valid valid valid.snapshot valid.structured ?_ ?_
  · intro other lock held
    obtain ⟨_,held⟩ := drop_some held
    exact onward.held (valid.locks other lock held) (valid.locks other lock held).held
  · intro item run started
    refine onward.pursued valid started (valid.runs item run started).row fun other lock held holder => ?_
    have differs : other ≠ id := by
      rintro rfl
      cases stored.symm.trans held
      cases free.symm.trans holder
    exact ⟨lock,(drop_other differs).trans held,holder⟩

theorem creations_valid (valid : ProjectionValid s) (creations : Table Uuid (List String)) :
    ProjectionValid {s with creations} := by
  have onward : Onward s {s with creations} :=
    ⟨rfl,fun account => .inl (.refl _ account),fun _ _ _ _ owes => owes.frame rfl rfl⟩
  refine onward.valid valid valid.snapshot valid.structured ?_ ?_
  · exact fun id lock held => onward.held (valid.locks id lock held) (valid.locks id lock held).held
  · exact fun item run started => onward.pursued valid started (valid.runs item run started).row
      fun id lock held holder => ⟨lock,held,holder⟩

theorem active_listed (present : Present s id) : id ∈ s.activeWorkspaceIds := by
  obtain ⟨row,found,active⟩ := present
  obtain ⟨member,rfl⟩ := find_some found
  exact List.mem_map_of_mem (List.mem_filter.mpr ⟨member,decide_eq_true active⟩)

theorem list_valid (valid : ProjectionValid s) (ran : s.list item = some t) : ProjectionValid t := by
  unfold Projecting.list at ran
  obtain ⟨row,found,rfl⟩ := Option.map_eq_some_iff.mp ran
  obtain ⟨stored,ready⟩ := Option.filter_eq_some_iff.mp found
  obtain ⟨pending,source,recompute,idle⟩ := of_decide_eq_true ready
  have idle := Option.isNone_iff_eq_none.mp idle
  have others : ∀ other run, s.runs other = some run → other ≠ item := by
    rintro other run started rfl
    cases idle.symm.trans started
  have onward : Onward s {s with runs := s.runs.put item ⟨s.activeWorkspaceIds,.empty,false⟩} := by
    refine ⟨rfl,fun account => .inl (.refl _ account),fun other id account present owes => ?_⟩
    by_cases same : other = item
    · subst same
      refine ⟨owes.row,fun run started => ?_⟩
      cases Option.some.inj ((Table.put_same _ _ _).symm.trans started)
      exact ⟨rfl,active_listed present⟩
    · exact owes.frame rfl (Table.put_other _ _ same)
  refine onward.valid valid valid.snapshot valid.structured ?_ ?_
  · intro id lock held
    refine onward.held (valid.locks id lock held) fun other holder => ?_
    obtain ⟨run,started,going⟩ := (valid.locks id lock held).held other holder
    exact ⟨run,(Table.put_other _ _ (others other run started)).trans started,going⟩
  · intro other run started
    rcases Table.put_some started with ⟨rfl,rfl⟩ | ⟨_,started⟩
    · refine ⟨⟨row,stored,pending,source,recompute⟩,fun _ id next written => ?_⟩
      cases written
    · exact onward.pursued valid started (valid.runs other run started).row
        fun id lock held holder => ⟨lock,held,holder⟩

theorem releaseLocks_some {locks : Table Uuid RowLock} (found : Projecting.releaseLocks locks item id = some lock) :
    locks id = some lock ∧ lock.holder ≠ some item := by
  obtain ⟨stored,other⟩ := Option.filter_eq_some_iff.mp found
  exact ⟨stored,of_decide_eq_true other⟩

theorem releaseLocks_kept {locks : Table Uuid RowLock} (stored : locks id = some lock)
    (other : lock.holder ≠ some item) : Projecting.releaseLocks locks item id = some lock := by
  unfold Projecting.releaseLocks
  rw [stored]
  exact Option.filter_some_pos (decide_eq_true other)

theorem rollBack_valid (valid : ProjectionValid s) (ran : s.rollBack item = some t) : ProjectionValid t := by
  unfold Projecting.rollBack at ran
  obtain ⟨run,_,rfl⟩ := Option.map_eq_some_iff.mp ran
  have onward : Onward s {s with runs := Projecting.drop s.runs item, locks := Projecting.releaseLocks s.locks item} := by
    refine ⟨rfl,fun account => .inl (.refl _ account),fun other id account present owes => ?_⟩
    by_cases same : other = item
    · subst same
      refine ⟨owes.row,fun run started => ?_⟩
      exact absurd rfl (drop_some started).1
    · exact owes.frame rfl (drop_other same)
  refine onward.valid valid valid.snapshot valid.structured ?_ ?_
  · intro id lock held
    obtain ⟨held,free⟩ := releaseLocks_some held
    refine onward.held (valid.locks id lock held) fun other holder => ?_
    obtain ⟨run,started,going⟩ := (valid.locks id lock held).held other holder
    have differs : other ≠ item := by
      rintro rfl
      exact free holder
    exact ⟨run,(drop_other differs).trans started,going⟩
  · intro other run started
    obtain ⟨differs,started⟩ := drop_some started
    refine onward.pursued valid started (valid.runs other run started).row fun id lock held holder => ?_
    refine ⟨lock,releaseLocks_kept held ?_,holder⟩
    rw [holder]
    exact fun same => differs (Option.some.inj same)

theorem complete_valid (valid : ProjectionValid s) (ran : s.complete item = some t) : ProjectionValid t := by
  unfold Projecting.complete at ran
  obtain ⟨row,found,rfl⟩ := Option.map_eq_some_iff.mp ran
  obtain ⟨stored,ready⟩ := Option.filter_eq_some_iff.mp found
  obtain ⟨_,_,through⟩ := of_decide_eq_true ready
  have here := item_id stored
  -- a handler still going through the workspaces keeps its row from being completed
  have through : ∀ run, s.runs item = some run → run.committed = true := by
    intro run started
    obtain ⟨row',stored',_,_,recompute⟩ := (valid.runs item run started).row
    cases stored.symm.trans stored'
    rcases through with unneeded | done
    · cases recompute.symm.trans unneeded
    · rw [started] at done
      exact done
  have onward : Onward s {s.putItem {row with status := .completed} with runs := Projecting.drop s.runs item} := by
    refine ⟨rfl,fun account => .inl (.refl _ account),fun other id account present owes => ?_⟩
    have differs : other ≠ item := by
      rintro rfl
      obtain ⟨old,there,owing⟩ := owes.row
      cases stored.symm.trans there
      have done : (s.runs other).any (·.committed) = true := by
        refine (of_decide_eq_true ready).2.2.resolve_left fun unneeded => ?_
        cases owing.recompute.symm.trans unneeded
      obtain ⟨run,started,committed⟩ := (Option.any_eq_true _ _).mp done
      cases (owes.ahead run started).1.symm.trans committed
    exact owes.frame (putItem_other (here ▸ differs)) (drop_other differs)
  refine onward.valid valid valid.snapshot valid.structured ?_ ?_
  · intro id lock held
    refine onward.held (valid.locks id lock held) fun other holder => ?_
    obtain ⟨run,started,going⟩ := (valid.locks id lock held).held other holder
    have differs : other ≠ item := by
      rintro rfl
      cases (through run started).symm.trans going
    exact ⟨run,(drop_other differs).trans started,going⟩
  · intro other run started
    obtain ⟨differs,started⟩ := drop_some started
    refine onward.pursued valid started ?_ fun id lock held holder => ⟨lock,held,holder⟩
    obtain ⟨row',stored',rest⟩ := (valid.runs other run started).row
    exact ⟨row',(putItem_other (here ▸ differs)).trans stored',rest⟩

-- A workspace whose members are those of the facts that were seen.
structure Projects (view : Views) (old next : Workspace) : Prop where
  id : next.id = old.id
  archivedAt : next.archivedAt = old.archivedAt
  keyed : (keys (existingMembers next)).Nodup
  source : ∀ account, (existingMembers next).lookup account = memberSource view next account

theorem Projects.bump {view : Views} (projects : Projects view old next) : Projects view old (bumpVersion next) :=
  ⟨projects.id,projects.archivedAt,projects.keyed,projects.source⟩

theorem existing_replaced (workspace : Workspace) (desired : Desired) (now : Time) :
    existingMembers (replaceMembers workspace desired now) = desired := by
  unfold existingMembers replaceMembers
  rw [List.map_map]
  exact List.map_id' desired

theorem desired_projects {view : Views} (snapshots : ∀ leader, Snapshot (view leader).reports)
    (ran : desiredSeen view workspace = .ok desired) (now : Time) :
    Projects view workspace (replaceMembers workspace desired now) := by
  refine ⟨rfl,rfl,?_,fun account => ?_⟩
  · rw [existing_replaced]
    exact desiredSeen_keys ran
  · rw [existing_replaced]
    exact desiredSeen_lookup snapshots ran account

theorem same_projects {view : Views} (snapshots : ∀ leader, Snapshot (view leader).reports)
    (keyed : (keys (existingMembers workspace)).Nodup) (ran : desiredSeen view workspace = .ok desired)
    (same : sameMembers (existingMembers workspace) desired = true) : Projects view workspace workspace := by
  refine ⟨rfl,rfl,keyed,fun account => ?_⟩
  rw [(sameMembers_lookup keyed (desiredSeen_keys ran)).mp same account]
  exact desiredSeen_lookup snapshots ran account

theorem replaceSeen_projects {view : Views} (snapshots : ∀ leader, Snapshot (view leader).reports)
    (keyed : (keys (existingMembers workspace)).Nodup) (ran : replaceSeen view now workspace = .ok next) :
    Projects view workspace next := by
  unfold replaceSeen at ran
  obtain ⟨desired,seen,ran⟩ := bind_ok.mp ran
  cases pure_ok.mp ran
  split
  · rename_i same
    exact same_projects snapshots keyed seen same
  · exact desired_projects snapshots seen now

theorem recomputeMembersSeen_projects {view : Views} (snapshots : ∀ leader, Snapshot (view leader).reports)
    (keyed : (keys (existingMembers workspace)).Nodup) (ran : recomputeMembersSeen view now workspace = .ok next) :
    Projects view workspace next := by
  unfold recomputeMembersSeen at ran
  obtain ⟨_,ran⟩ := require_bind_ok.mp ran
  obtain ⟨desired,seen,ran⟩ := bind_ok.mp ran
  cases pure_ok.mp ran
  split
  · rename_i same
    exact same_projects snapshots keyed seen same
  · exact (desired_projects snapshots seen now).bump

theorem edited_projects {view : Views} {edited : Workspace} (snapshots : ∀ leader, Snapshot (view leader).reports)
    (ran : replaceSeen view now edited = .ok projected) (keyed : (keys (existingMembers edited)).Nodup)
    (here : edited.id = workspace.id) (archivedAt : edited.archivedAt = workspace.archivedAt) :
    Projects view workspace (bumpVersion projected) := by
  have projects := replaceSeen_projects snapshots keyed ran
  exact ⟨projects.id.trans here,projects.archivedAt.trans archivedAt,projects.keyed,projects.source⟩

theorem command_projects {view : Views} {command : WorkspaceCommand} (snapshots : ∀ leader, Snapshot (view leader).reports)
    (keyed : (keys (existingMembers workspace)).Nodup) (ran : command.run candidate view now workspace = .ok next) :
    Projects view workspace next := by
  cases command with
  | invite account expectedVersion actor =>
    obtain ⟨_,_,ran⟩ := bind_ok.mp ran
    unfold inviteSeen at ran
    obtain ⟨_,_,ran⟩ := bind_ok.mp ran
    obtain ⟨_,ran⟩ := require_bind_ok.mp ran
    obtain ⟨_,ran⟩ := require_bind_ok.mp ran
    obtain ⟨projected,replaced,ran⟩ := bind_ok.mp ran
    cases pure_ok.mp ran
    exact edited_projects snapshots replaced keyed rfl rfl
  | remove account expectedVersion actor =>
    obtain ⟨_,_,ran⟩ := bind_ok.mp ran
    unfold removeSeen at ran
    obtain ⟨_,ran⟩ := require_bind_ok.mp ran
    obtain ⟨_,ran⟩ := require_bind_ok.mp ran
    obtain ⟨projected,replaced,ran⟩ := bind_ok.mp ran
    cases pure_ok.mp ran
    exact edited_projects snapshots replaced keyed rfl rfl
  | transfer newOwner expectedVersion actor =>
    obtain ⟨_,_,ran⟩ := bind_ok.mp ran
    unfold transferSeen at ran
    obtain ⟨_,ran⟩ := require_bind_ok.mp ran
    obtain ⟨_,_,ran⟩ := bind_ok.mp ran
    obtain ⟨_,ran⟩ := require_bind_ok.mp ran
    obtain ⟨projected,replaced,ran⟩ := bind_ok.mp ran
    cases pure_ok.mp ran
    exact edited_projects snapshots replaced keyed rfl rfl
  | recompute => exact recomputeMembersSeen_projects snapshots keyed ran

theorem Reads.agrees (reads : Reads d changed seen) (unchanged : account ∉ changed) : seen.Agrees d account :=
  ⟨(reads seen.members (by simp)).2 account unchanged,(reads seen.reports (by simp)).2 account unchanged⟩

theorem Reads.snapshot (reads : Reads d changed seen) : Snapshot seen.reports := (reads seen.reports (by simp)).1

-- What was read can differ from the facts at the accounts that changed since.
theorem stale_changed {view : Views} (reads : ∀ leader, Reads d changed (view leader))
    (source : (existingMembers next).lookup account = memberSource view next account)
    (stale : Stale d next account) : account ∈ changed := by
  by_contra unchanged
  refine stale (source.trans ?_)
  exact memberSource_agrees fun leader _ => (reads leader).agrees unchanged

theorem command_valid {view : Views} (valid : ProjectionValid s)
    (read : Read s (.command id command candidate view now))
    (ran : s.command id command candidate view now = some t) : ProjectionValid t := by
  unfold Projecting.command at ran
  obtain ⟨lock,found,ran⟩ := Option.bind_eq_some_iff.mp ran
  obtain ⟨row,there,ran⟩ := Option.bind_eq_some_iff.mp ran
  obtain ⟨next,done,ran⟩ := Option.bind_eq_some_iff.mp ran
  cases Option.some.inj ran
  obtain ⟨held,free⟩ := Option.filter_eq_some_iff.mp found
  have free := of_decide_eq_true free
  have ahead := valid.locks id lock held
  have reads := (read lock held).2
  obtain ⟨member,here⟩ := find_some there
  have projects := command_projects (fun leader => (reads leader).snapshot) (valid.keyed row member)
    (toOption_some.mp done)
  have same : next.id = id := projects.id.trans here
  have active : next.archivedAt = none := by
    obtain ⟨row',there',active⟩ := ahead.present
    cases there.symm.trans there'
    exact projects.archivedAt.trans active
  have owes : ∀ item other account, Owes s item other account →
      Owes {s.store next with locks := Projecting.drop s.locks id} item other account :=
    fun _ _ _ owes => owes.frame rfl rfl
  have stored : find Workspace.id s.workspaces next.id = some row := by
    rw [same]
    exact there
  have workspace : ∀ other, other ≠ id → find Workspace.id (s.store next).workspaces other = s.workspace other := by
    intro other differs
    refine (find_replace rfl other).trans (if_neg ?_)
    rw [same]
    exact differs
  refine ⟨valid.snapshot,valid.structured,unique_replace rfl valid.unique,?_,?_,?_,?_⟩
  · intro other there'
    rcases mem_replace valid.unique stored there' with ⟨kept,_⟩ | rfl
    · exact valid.keyed other kept
    · exact projects.keyed
  · intro other lock' held'
    obtain ⟨differs,held'⟩ := drop_some held'
    have before := valid.locks other lock' held'
    refine ⟨?_,before.held,?_⟩
    · obtain ⟨row',there',active'⟩ := before.present
      exact ⟨row',(workspace other differs).trans there',active'⟩
    · intro account changed
      obtain ⟨item,differs,owed⟩ := before.behind account changed
      exact ⟨item,differs,owes _ _ _ owed⟩
  · intro item run started
    refine ⟨(valid.runs item run started).row,fun going other written staged => ?_⟩
    have before := (valid.runs item run started).staged going other written staged
    obtain ⟨lock',held',holder⟩ := before.locked
    have differs : other ≠ id := by
      rintro rfl
      cases held.symm.trans held'
      cases free.symm.trans holder
    refine ⟨⟨lock',(drop_other differs).trans held',holder⟩,?_,before.keyed,?_⟩
    · obtain ⟨old,there',turned⟩ := before.turned
      exact ⟨old,(workspace other differs).trans there',turned⟩
    · intro account stale
      obtain ⟨other',differs',owed⟩ := before.covered account stale
      exact ⟨other',differs',owes _ _ _ owed⟩
  · intro other there' active' account stale
    rcases mem_replace valid.unique stored there' with ⟨kept,_⟩ | rfl
    · obtain ⟨item,owed⟩ := valid.covered other kept active' account stale
      exact ⟨item,owes _ _ _ owed⟩
    · obtain ⟨item,_,owed⟩ := ahead.behind account (stale_changed reads (projects.source account) stale)
      exact ⟨item,owes _ _ _ (same.symm ▸ owed)⟩

theorem createSeen_projects {view : Views} (snapshots : ∀ leader, Snapshot (view leader).reports)
    (ran : createSeen candidate view id name owner actor now = .ok next) :
    Projects view ⟨id,strip name,owner,none,1,[],[]⟩ next ∧ next.ownerId = owner ∧ next.leaderIds = [] := by
  unfold createSeen at ran
  obtain ⟨_,ran⟩ := require_bind_ok.mp ran
  obtain ⟨_,_,ran⟩ := bind_ok.mp ran
  obtain ⟨_,ran⟩ := require_bind_ok.mp ran
  refine ⟨replaceSeen_projects snapshots List.nodup_nil ran,?_⟩
  unfold replaceSeen at ran
  obtain ⟨desired,_,ran⟩ := bind_ok.mp ran
  cases pure_ok.mp ran
  split
  · exact ⟨rfl,rfl⟩
  · exact ⟨rfl,rfl⟩

theorem memberSource_alone {view : Views} (owner : workspace.ownerId = account) (alone : workspace.leaderIds = [])
    (other : String) : memberSource view workspace other =
      if other = account then some .owner
      else if reportsTo (view account) other account then some .directReport else none := by
  unfold memberSource
  rw [owner,alone]
  simp

theorem create_valid {view : Views} (valid : ProjectionValid s)
    (read : Read s (.create id name owner actor candidate view now))
    (followed : Followed s (.create id name owner actor candidate view now))
    (ran : s.create id name owner actor candidate view now = some t) : ProjectionValid t := by
  unfold Projecting.create at ran
  split at ran
  · rename_i begun
    obtain ⟨begun,absent⟩ := begun
    obtain ⟨changed,begun⟩ := Option.isSome_iff_exists.mp begun
    obtain ⟨next,done,rfl⟩ := Option.map_eq_some_iff.mp ran
    have reads := (read changed begun).2
    obtain ⟨projects,owns,alone⟩ := createSeen_projects (fun leader => (reads leader).snapshot) (toOption_some.mp done)
    have fresh : find Workspace.id s.workspaces next.id = none := by
      rw [projects.id]
      exact absent
    have owes : ∀ item other account, Owes s item other account →
        Owes {s with workspaces := s.workspaces ++ [next], creations := Projecting.drop s.creations id} item other account :=
      fun _ _ _ owes => owes.frame rfl rfl
    have workspace : ∀ other row, s.workspace other = some row →
        find Workspace.id (s.workspaces ++ [next]) other = some row := by
      intro other row there
      have differs : other ≠ next.id := by
        rintro rfl
        cases fresh.symm.trans there
      exact ((find_insert other fresh).trans (if_neg differs)).trans there
    refine ⟨valid.snapshot,valid.structured,unique_insert valid.unique fresh,?_,?_,?_,?_⟩
    · intro row member
      rcases List.mem_append.mp member with earlier | last
      · exact valid.keyed row earlier
      · cases List.mem_singleton.mp last
        exact projects.keyed
    · intro other lock held
      have before := valid.locks other lock held
      refine ⟨?_,before.held,?_⟩
      · obtain ⟨row,there,active⟩ := before.present
        exact ⟨row,workspace other row there,active⟩
      · intro account changed
        obtain ⟨item,differs,owed⟩ := before.behind account changed
        exact ⟨item,differs,owes _ _ _ owed⟩
    · intro item run started
      refine ⟨(valid.runs item run started).row,fun going other written staged => ?_⟩
      have before := (valid.runs item run started).staged going other written staged
      refine ⟨before.locked,?_,before.keyed,?_⟩
      · obtain ⟨old,there,turned⟩ := before.turned
        exact ⟨old,workspace other old there,turned⟩
      · intro account stale
        obtain ⟨other',differs,owed⟩ := before.covered account stale
        exact ⟨other',differs,owes _ _ _ owed⟩
    · intro row member active account stale
      rcases List.mem_append.mp member with earlier | last
      · obtain ⟨item,owed⟩ := valid.covered row earlier active account stale
        exact ⟨item,owes _ _ _ owed⟩
      · cases List.mem_singleton.mp last
        unfold Stale factSource at stale
        rw [projects.source,memberSource_alone owns alone,memberSource_alone owns alone] at stale
        by_cases owner' : account = owner
        · rw [if_pos owner',if_pos owner'] at stale
          exact absurd rfl stale
        · rw [if_neg owner',if_neg owner'] at stale
          have differs : reportsTo (view owner) account owner ≠ reportsTo (.still s.directory) account owner :=
            fun same => stale (by rw [same])
          obtain ⟨item,row,stored,owing,idle⟩ := followed account owner' differs
          exact ⟨item,⟨⟨row,stored,owing⟩,fun run started => by cases idle.symm.trans started⟩⟩
  · cases ran

theorem recomputeSeen_turned {view : Views} (ran : recomputeSeen view affected now old = .ok next) :
    next.id = old.id ∧
      (next = old ∨ next.version = old.version + 1 ∧ sameMembers (existingMembers old) (existingMembers next) = false) := by
  unfold recomputeSeen at ran
  split at ran
  · cases pure_ok.mp ran
    exact ⟨rfl,.inl rfl⟩
  · obtain ⟨desired,_,ran⟩ := bind_ok.mp ran
    cases pure_ok.mp ran
    split
    · exact ⟨rfl,.inl rfl⟩
    · split
      · exact ⟨rfl,.inl rfl⟩
      · rename_i differs
        refine ⟨rfl,.inr ⟨rfl,?_⟩⟩
        change sameMembers _ (existingMembers (replaceMembers old desired now)) = false
        rw [existing_replaced]
        exact Bool.eq_false_iff.mpr differs

-- What a handler leaves of a workspace: the members of the facts it saw, or the
-- workspace as it was, which then has no row about an affected account.
theorem recomputeSeen_projects {view : Views} (snapshots : ∀ leader, Snapshot (view leader).reports)
    (keyed : (keys (existingMembers old)).Nodup) (active : old.archivedAt = none)
    (ran : recomputeSeen view affected now old = .ok next) :
    Projects view old next ∨ next = old ∧ ∀ account ∈ affected,
      (existingMembers old).lookup account = none ∧ memberSource view old account = none := by
  unfold recomputeSeen at ran
  rw [active,if_neg (by simp)] at ran
  obtain ⟨desired,seen,ran⟩ := bind_ok.mp ran
  cases pure_ok.mp ran
  split
  · rename_i unconcerned
    obtain ⟨existing,wanted⟩ := Bool.and_eq_true_iff.mp unconcerned
    have absent : ∀ members, intersects affected members = false → ∀ account ∈ affected, members.lookup account = none := by
      intro members apart account member
      refine Option.not_isSome_iff_eq_none.mp fun present => ?_
      obtain ⟨entry,there,here⟩ := List.mem_map.mp (lookup_key.mp present)
      have touched : intersects affected members = true :=
        List.any_eq_true.mpr ⟨entry,there,decide_eq_true (here ▸ member)⟩
      cases apart.symm.trans touched
    refine .inr ⟨rfl,fun account member => ⟨absent _ (Bool.not_eq_true' _ ▸ existing) account member,?_⟩⟩
    rw [←desiredSeen_lookup snapshots seen]
    exact absent _ (Bool.not_eq_true' _ ▸ wanted) account member
  · split
    · rename_i same
      exact .inl (same_projects snapshots keyed seen same)
    · exact .inl (desired_projects snapshots seen now).bump

theorem recompute_valid {view : Views} (valid : ProjectionValid s) (read : Read s (.recompute item id view now))
    (ran : s.recompute item id view now = some t) : ProjectionValid t := by
  unfold Projecting.recompute at ran
  obtain ⟨run,found,ran⟩ := Option.bind_eq_some_iff.mp ran
  obtain ⟨lock,holding,ran⟩ := Option.bind_eq_some_iff.mp ran
  obtain ⟨row,stored,ran⟩ := Option.bind_eq_some_iff.mp ran
  obtain ⟨old,there,ran⟩ := Option.bind_eq_some_iff.mp ran
  obtain ⟨next,done,ran⟩ := Option.bind_eq_some_iff.mp ran
  obtain ⟨started,going⟩ := Option.filter_eq_some_iff.mp found
  obtain ⟨going,_⟩ := of_decide_eq_true going
  obtain ⟨held,holder⟩ := Option.filter_eq_some_iff.mp holding
  have holder := of_decide_eq_true holder
  cases Option.some.inj ran
  have computed := toOption_some.mp done
  have reads := read lock held
  have ahead := valid.locks id lock held
  obtain ⟨member,here⟩ := find_some there
  have active : old.archivedAt = none := by
    obtain ⟨row',there',active⟩ := ahead.present
    cases there.symm.trans there'
    exact active
  have onward : Onward s {s with runs := s.runs.put item {run with staged := run.staged.put id next}} := by
    refine ⟨rfl,fun account => .inl (.refl _ account),fun other id' account present owes => ?_⟩
    by_cases same : other = item
    · subst same
      refine ⟨owes.row,fun run' started' => ?_⟩
      cases Option.some.inj ((Table.put_same _ _ _).symm.trans started')
      exact owes.ahead run started
    · exact owes.frame rfl (Table.put_other _ _ same)
  have others : ∀ other lock', s.locks other = some lock' → ∀ item', lock'.holder = some item' →
      ∃ run', s.runs.put item {run with staged := run.staged.put id next} item' = some run' ∧ run'.committed = false := by
    intro other lock' held' item' holder'
    by_cases same : item' = item
    · subst same
      exact ⟨_,Table.put_same _ _ _,going⟩
    · obtain ⟨run',started',going'⟩ := (valid.locks other lock' held').held item' holder'
      exact ⟨run',(Table.put_other _ _ same).trans started',going'⟩
  have behind : ∀ account, Stale s.directory next account → ∃ other, other ≠ item ∧ Owes s other id account := by
    intro account stale
    have changed : (existingMembers next).lookup account = memberSource view next account →
        ∃ other, other ≠ item ∧ Owes s other id account := by
      intro source
      obtain ⟨other,differs,owes⟩ := ahead.behind account (stale_changed reads source stale)
      refine ⟨other,?_,owes⟩
      rintro rfl
      exact differs holder
    rcases recomputeSeen_projects (fun leader => (reads leader).snapshot) (valid.keyed old member) active computed with
      projects | ⟨rfl,unconcerned⟩
    · exact changed (projects.source account)
    · obtain ⟨other,owes⟩ := valid.covered next member active account stale
      by_cases same : other = item
      · subst same
        obtain ⟨row',stored',owing⟩ := owes.row
        cases stored.symm.trans stored'
        obtain ⟨absent,unwanted⟩ := unconcerned account owing.affected
        exact changed (absent.trans unwanted.symm)
      · exact ⟨other,same,here ▸ owes⟩
  obtain ⟨same,turned⟩ := recomputeSeen_turned computed
  refine onward.valid valid valid.snapshot valid.structured ?_ ?_
  · exact fun other lock' held' => onward.held (valid.locks other lock' held') (others other lock' held')
  · intro other run' started'
    rcases Table.put_some started' with ⟨rfl,rfl⟩ | ⟨_,started'⟩
    · refine ⟨(valid.runs other run started).row,fun going id' written staged => ?_⟩
      rcases Table.put_some staged with ⟨rfl,rfl⟩ | ⟨_,staged⟩
      · refine ⟨⟨lock,held,holder⟩,⟨old,there,same.trans here,turned⟩,?_,?_⟩
        · rcases recomputeSeen_projects (fun leader => (reads leader).snapshot) (valid.keyed old member) active computed with
            projects | ⟨rfl,_⟩
          · exact projects.keyed
          · exact valid.keyed _ member
        · intro account stale
          obtain ⟨other',differs,owes⟩ := behind account stale
          exact ⟨other',differs,onward.owes _ _ _ ahead.present owes⟩
      · have before := (valid.runs other run started).staged going id' written staged
        exact onward.staged valid started before before.locked
    · exact onward.pursued valid started' (valid.runs other run' started').row
        fun id' lock' held' holder' => ⟨lock',held',holder'⟩

-- The committed rows: those a handler staged, in the place of the old ones.
theorem find_staged {rows : List Workspace} {staged : Table Uuid Workspace}
    (keeps : ∀ id next, staged id = some next → next.id = id) (id : Uuid) :
    find Workspace.id (rows.map fun row => (staged row.id).getD row) id =
      (find Workspace.id rows id).map fun row => (staged row.id).getD row := by
  have same : ∀ row : Workspace, ((staged row.id).getD row).id = row.id := by
    intro row
    cases found : staged row.id with
    | none => rfl
    | some next => exact keeps row.id next found
  unfold find
  rw [List.find?_map]
  congr 2
  funext row
  dsimp only [Function.comp]
  rw [same]

theorem staged_keeps (valid : ProjectionValid s) (started : s.runs item = some run) (going : run.committed = false)
    (id : Uuid) (next : Workspace) (written : run.staged id = some next) : next.id = id := by
  obtain ⟨_,_,same,_⟩ := ((valid.runs item run started).staged going id next written).turned
  exact same

theorem commitRun_valid (valid : ProjectionValid s) (ran : s.commitRun item = some t) : ProjectionValid t := by
  unfold Projecting.commitRun at ran
  obtain ⟨run,found,rfl⟩ := Option.map_eq_some_iff.mp ran
  obtain ⟨started,through⟩ := Option.filter_eq_some_iff.mp found
  obtain ⟨going,through⟩ := of_decide_eq_true through
  have pursued := valid.runs item run started
  have keeps := staged_keeps valid started going
  have same : ∀ row : Workspace, ((run.staged row.id).getD row).id = row.id := by
    intro row
    cases written : run.staged row.id with
    | none => rfl
    | some next => exact keeps row.id next written
  -- behind its own locks the handler staged every workspace it listed
  have locked : ∀ id, (run.staged id).isSome → ∃ lock, s.locks id = some lock ∧ lock.holder = some item := by
    intro id written
    obtain ⟨next,written⟩ := Option.isSome_iff_exists.mp written
    exact (pursued.staged going id next written).locked
  have apart : ∀ id lock, s.locks id = some lock → lock.holder ≠ some item → run.staged id = none := by
    intro id lock held differs
    refine Option.not_isSome_iff_eq_none.mp fun written => ?_
    obtain ⟨lock',held',holder⟩ := locked id written
    cases held.symm.trans held'
    exact differs holder
  have owes : ∀ other id account, other ≠ item → Owes s other id account →
      Owes {s with workspaces := s.workspaces.map fun row => (run.staged row.id).getD row,
                   runs := s.runs.put item {run with committed := true},
                   locks := Projecting.releaseLocks s.locks item} other id account :=
    fun other id account differs owes => owes.frame rfl (Table.put_other _ _ differs)
  have untouched : ∀ id row, s.workspace id = some row → run.staged id = none →
      find Workspace.id (s.workspaces.map fun row => (run.staged row.id).getD row) id = some row := by
    intro id row there unwritten
    have there' : find Workspace.id s.workspaces id = some row := there
    rw [find_staged keeps,there',Option.map_some,(find_some there).2,unwritten]
    rfl
  refine ⟨valid.snapshot,valid.structured,?_,?_,?_,?_,?_⟩
  · change ((s.workspaces.map fun row => (run.staged row.id).getD row).map Workspace.id).Nodup
    rw [List.map_map]
    have ids : (Workspace.id ∘ fun row => (run.staged row.id).getD row) = Workspace.id := funext same
    rw [ids]
    exact valid.unique
  · intro row member
    obtain ⟨old,there,rfl⟩ := List.mem_map.mp member
    cases written : run.staged old.id with
    | none => exact valid.keyed old there
    | some next => exact (pursued.staged going old.id next written).keyed
  · intro id lock held
    obtain ⟨held,differs⟩ := releaseLocks_some held
    have before := valid.locks id lock held
    have unwritten := apart id lock held differs
    refine ⟨?_,?_,?_⟩
    · obtain ⟨row,there,active⟩ := before.present
      exact ⟨row,untouched id row there unwritten,active⟩
    · intro other holder
      obtain ⟨run',started',going'⟩ := before.held other holder
      have apart' : other ≠ item := by
        rintro rfl
        exact differs holder
      exact ⟨run',(Table.put_other _ _ apart').trans started',going'⟩
    · intro account changed
      obtain ⟨other,differs',owed⟩ := before.behind account changed
      refine ⟨other,differs',owes other id account ?_ owed⟩
      rintro rfl
      have written := through id (owed.ahead run started).2
      rw [unwritten] at written
      cases written
  · intro other run' started'
    rcases Table.put_some started' with ⟨rfl,rfl⟩ | ⟨differs,started'⟩
    · exact ⟨pursued.row,fun going' => by cases going'⟩
    · refine ⟨(valid.runs other run' started').row,fun going' id next written => ?_⟩
      have before := (valid.runs other run' started').staged going' id next written
      obtain ⟨lock,held,holder⟩ := before.locked
      have free : lock.holder ≠ some item := by
        rw [holder]
        exact fun same => differs (Option.some.inj same)
      have unwritten := apart id lock held free
      refine ⟨⟨lock,releaseLocks_kept held free,holder⟩,?_,before.keyed,?_⟩
      · obtain ⟨old,there,turned⟩ := before.turned
        exact ⟨old,untouched id old there unwritten,turned⟩
      · intro account stale
        obtain ⟨third,differs',owed⟩ := before.covered account stale
        refine ⟨third,differs',owes third id account ?_ owed⟩
        rintro rfl
        have written' := through id (owed.ahead run started).2
        rw [unwritten] at written'
        cases written'
  · intro row member active account stale
    obtain ⟨old,there,rfl⟩ := List.mem_map.mp member
    rw [same]
    cases written : run.staged old.id with
    | none =>
      rw [written] at active stale
      obtain ⟨other,owed⟩ := valid.covered old there active account stale
      refine ⟨other,owes other old.id account ?_ owed⟩
      rintro rfl
      have present := through old.id (owed.ahead run started).2
      rw [written] at present
      cases present
    | some next =>
      rw [written] at stale
      obtain ⟨other,differs,owed⟩ := (pursued.staged going old.id next written).covered account stale
      exact ⟨other,owes other old.id account differs owed⟩

theorem step_projections (valid : ProjectionValid s) (followed : Followed s label) (read : Read s label)
    (taken : projectionStep s label = some t) : ProjectionValid t := by
  cases label with
  | begin => exact begin_valid valid taken
  | changeAccount => exact changeAccount_valid valid followed taken
  | changeSuperior => exact changeSuperior_valid valid followed taken
  | openAccount => exact openAccount_valid valid taken
  | resolve => exact resolve_valid valid taken
  | cancel => exact cancel_valid valid followed taken
  | lock => exact lockRow_valid valid taken fun item none => by cases none
  | release => exact release_valid valid taken
  | command => exact command_valid valid read taken
  | beginCreate =>
    change Projecting.beginCreate _ s = some t at taken
    unfold Projecting.beginCreate at taken
    split at taken
    · cases Option.some.inj taken
      exact creations_valid valid _
    · cases taken
  | abandonCreate =>
    cases Option.some.inj taken
    exact creations_valid valid _
  | create => exact create_valid valid read followed taken
  | list => exact list_valid valid taken
  | visit => exact visit_valid valid taken
  | recompute => exact recompute_valid valid read taken
  | commitRun => exact commitRun_valid valid taken
  | rollBack => exact rollBack_valid valid taken
  | complete => exact complete_valid valid taken

theorem reached_projections (path : Runs (Guarded Followed ProjectionStep) .initial labels s) : ProjectionValid s :=
  path.invariant (fun _ _ _ valid taken => step_projections valid taken.1 taken.2.1 taken.2.2) initial_projections

def Unpending (s : Projecting) : Prop := ∀ row ∈ s.items, row.status ≠ .pending

def Converged (s : Projecting) : Prop :=
  ∀ row ∈ s.workspaces, row.archivedAt = none →
    ∃ desired, desiredMembers s.directory row = .ok desired ∧ sameMembers (existingMembers row) desired = true

def Converges (s : Projecting) : Prop :=
  Unpending s → (∀ row ∈ s.workspaces, row.archivedAt = none → LeadersEffective s.directory row) → Converged s

def BumpsChanged (s : Projecting) : Prop :=
  ∀ item next, s.commitRun item = some next → ∀ row ∈ s.workspaces, ∃ after, next.workspace row.id = some after ∧
    after.version = if sameMembers (existingMembers row) (existingMembers after) then row.version else row.version + 1

theorem ProjectionValid.converges (valid : ProjectionValid s) : Converges s := by
  intro settled leaders row member active
  obtain ⟨desired,wanted⟩ := (addLeaders_total valid.structured _
    (leadersFirst row.ownerId row.leaderIds)).mpr (leaders row member active)
  have seen : desiredSeen (fun _ => .still s.directory) row = .ok desired := (desiredSeen_still _ _).trans wanted
  refine ⟨desired,wanted,(sameMembers_lookup (valid.keyed row member) (desiredSeen_keys seen)).mpr fun account => ?_⟩
  rw [desiredSeen_lookup (fun _ => valid.snapshot) seen]
  by_contra stale
  obtain ⟨item,owes⟩ := valid.covered row member active account stale
  obtain ⟨change,stored,owing⟩ := owes.row
  exact settled change (find_some stored).1 owing.status

theorem sameMembers_refl (members : Desired) : sameMembers members members = true := by
  unfold sameMembers
  simp

theorem ProjectionValid.bumps (valid : ProjectionValid s) : BumpsChanged s := by
  intro item next ran row member
  unfold Projecting.commitRun at ran
  obtain ⟨run,found,rfl⟩ := Option.map_eq_some_iff.mp ran
  obtain ⟨started,through⟩ := Option.filter_eq_some_iff.mp found
  obtain ⟨going,_⟩ := of_decide_eq_true through
  have there : find Workspace.id s.workspaces row.id = some row := find_of_mem valid.unique member
  refine ⟨(run.staged row.id).getD row,?_,?_⟩
  · change find Workspace.id (s.workspaces.map fun row => (run.staged row.id).getD row) row.id = _
    rw [find_staged (staged_keeps valid started going),there]
    rfl
  · cases written : run.staged row.id with
    | none => exact (if_pos (sameMembers_refl _)).symm
    | some next =>
      obtain ⟨old,there',_,turned⟩ := ((valid.runs item run started).staged going row.id next written).turned
      cases there.symm.trans there'
      rcases turned with rfl | ⟨version,differs⟩
      · exact (if_pos (sameMembers_refl _)).symm
      · rw [Option.getD_some,differs]
        exact version

-- Where the projections are followed, they converge.
theorem membership_converges (path : Runs (Guarded Followed ProjectionStep) .initial labels s) :
    Converges s ∧ BumpsChanged s :=
  ⟨(reached_projections path).converges,(reached_projections path).bumps⟩

-- A change of an account, from its registration to the end of its handler's call.
def handled (item : Uuid) (account : String) (change : ProjectionLabel) (visits : List ProjectionLabel) :
    List ProjectionLabel :=
  [.begin item [account] true,change,.list item] ++ visits ++ [.commitRun item,.complete item]

def joined (item : Uuid) (account : String) : List ProjectionLabel :=
  .openAccount (sampleAccount account .pendingInit) ::
    handled item account (.changeAccount item (sampleAccount account .enabled)) []

def sampleAccounts : Table String AccountView :=
  ((Table.empty.put "max" (sampleAccount "max" .enabled)).put "ann" (sampleAccount "ann" .enabled)).put "bob"
    (sampleAccount "bob" .enabled)

-- Max manages Ann, who leads Bob.
def sampleTeam : List ProjectionLabel :=
  joined 1 "max" ++ joined 2 "ann" ++ joined 3 "bob" ++
    handled 4 "max" (.changeSuperior 4 "max" none sampleAccounts) [] ++
    handled 5 "ann" (.changeSuperior 5 "ann" (some "max") sampleAccounts) [] ++
    handled 6 "bob" (.changeSuperior 6 "bob" (some "ann") sampleAccounts) []

-- Steps that read nothing, taken while the change they commit is pending.
def plain (s : Projecting) : ProjectionLabel → Bool
  | .cancel _ | .command _ _ _ _ _ | .create _ _ _ _ _ _ _ | .recompute _ _ _ _ => false
  | .changeAccount item _ | .changeSuperior item _ _ _ => (s.item item).all (·.status = .pending)
  | _ => true

theorem plain_steps (taken : Guarded (fun s label => plain s label = true) (Enabled projectionStep) s label t) :
    Guarded Followed ProjectionStep s label t := by
  obtain ⟨plainly,taken⟩ := taken
  have pending : ∀ item, (s.item item).all (·.status = .pending) = true →
      ∀ row, s.item item = some row → row.status = .pending := by
    intro item all row stored
    rw [stored] at all
    exact of_decide_eq_true all
  cases label <;> first | exact ⟨trivial,trivial,taken⟩ | exact ⟨pending _ plainly,trivial,taken⟩ | cases plainly

def sampleOrganized : Projecting :=
  (execute (restrict plain projectionStep) .initial sampleTeam).get (by decide +kernel)

theorem sampleOrganized_reached : Runs (Guarded Followed ProjectionStep) .initial sampleTeam sampleOrganized :=
  (restrict_runs (execute_get (by decide +kernel))).mono fun _ _ _ => plain_steps

-- Bob is disabled while Ann creates a workspace: the handler of this change has
-- no workspace to go through yet.
def sampleLeaving : List ProjectionLabel :=
  .beginCreate 9 :: handled 7 "bob" (.changeAccount 7 (sampleAccount "bob" .disabled)) []

def sampleLeft : Projecting :=
  (execute (restrict plain projectionStep) sampleOrganized sampleLeaving).get (by decide +kernel)

theorem sampleLeft_reached : Runs (Guarded Followed ProjectionStep) sampleOrganized sampleLeaving sampleLeft :=
  (restrict_runs (execute_get (by decide +kernel))).mono fun _ _ _ => plain_steps

def sampleCreate (d : Directory) : ProjectionLabel := .create 9 "payments" "ann" "ann" (.still d) (fun _ => .still d) 5

theorem still_reads (snapshot : Snapshot d) (same : ∀ account ∉ changed, SameFacts d now account) :
    Reads now changed (.still d) := by
  intro one member
  have here : one = d := by
    simpa [LeaderView.still] using member
  subst here
  exact ⟨snapshot,same⟩

-- Ann's transaction read the facts after Bob had left.
def sampleFresh : Projecting := (projectionStep sampleLeft (sampleCreate sampleLeft.directory)).get (by decide +kernel)

theorem membership_converges_fresh : Converges sampleFresh ∧ BumpsChanged sampleFresh := by
  have path := sampleOrganized_reached.append sampleLeft_reached
  have still : ∀ changed, Reads sampleLeft.directory changed (.still sampleLeft.directory) :=
    fun _ => still_reads (reached_projections path).snapshot fun account _ => SameFacts.refl _ account
  have taken : Guarded Followed ProjectionStep sampleLeft (sampleCreate sampleLeft.directory) sampleFresh := by
    refine ⟨fun account _ differs => absurd rfl differs,fun changed _ => ?_,(Option.some_get _).symm⟩
    exact ⟨still changed,fun _ => still changed⟩
  exact membership_converges (path.snoc taken)

-- Ann's transaction read them before, and committed when the handler was through.
def sampleMissed : Projecting :=
  (projectionStep sampleLeft (sampleCreate sampleOrganized.directory)).get (by decide +kernel)

theorem create_misses_change :
    ¬∀ labels s, Runs ProjectionStep .initial labels s → Converges s ∧ BumpsChanged s := by
  intro claimed
  have path := (sampleOrganized_reached.append sampleLeft_reached).unguarded
  have left : sampleLeft.directory =
      Projecting.putAccount sampleOrganized.directory (sampleAccount "bob" .disabled) := rfl
  have begun : sampleLeft.creations 9 = some ["bob"] := by decide +kernel
  have still : Reads sampleLeft.directory ["bob"] (.still sampleOrganized.directory) := by
    refine still_reads (reached_projections sampleOrganized_reached).snapshot fun account other => ?_
    rw [left]
    exact putAccount_other fun here => other (List.mem_singleton.mpr here)
  have taken : ProjectionStep sampleLeft (sampleCreate sampleOrganized.directory) sampleMissed := by
    refine ⟨fun changed there => ?_,(Option.some_get _).symm⟩
    cases begun.symm.trans there
    exact ⟨still,fun _ => still⟩
  have settled : Unpending sampleMissed := by
    unfold Unpending
    decide +kernel
  have leaders : ∀ row ∈ sampleMissed.workspaces, row.archivedAt = none → LeadersEffective sampleMissed.directory row := by
    decide +kernel
  have differs : ∃ row ∈ sampleMissed.workspaces, row.archivedAt = none ∧
      (desiredMembers sampleMissed.directory row).toOption.any (sameMembers (existingMembers row)) = false := by
    decide +kernel
  obtain ⟨row,member,active,differs⟩ := differs
  obtain ⟨desired,wanted,same⟩ := (claimed _ _ (path.snoc taken)).1 settled leaders row member active
  rw [wanted] at differs
  cases differs.symm.trans same

end EngineeringPlatform.Workspace
