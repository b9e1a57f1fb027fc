import EngineeringPlatform.Organization
import EngineeringPlatform.Frontier
namespace EngineeringPlatform.Organization
open Checked KeyedRows Identity

-- The accounts that _affected_accounts names in its next round.
def reportsTo (edges : List OrgEdge) (affected : List String) : List String :=
  (edges.filter fun edge => edge.superiorId.any (· ∈ affected)).map OrgEdge.accountId

def affectedAccounts (edges : List OrgEdge) (target : String) : List String :=
  (Frontier.grow (reportsTo edges) (edges.length + 1) [target]).insertionSort (· ≤ ·)

structure LeaderNode where
  account : AccountRef
  members : List AccountRef
  deriving DecidableEq

structure ManagerNode where
  account : AccountRef
  leaders : List LeaderNode
  deriving DecidableEq

def accountRef (account : AccountView) : AccountRef := ⟨account.id,account.employeeNo,account.displayName⟩

def participant (d : Directory) (account : String) : Except OrganizationError AccountRef := do
  let found ← orRaise ((d.accounts account).filter (·.effective)) .corruptStructure
  pure (accountRef found)

-- The edges of one kind under one superior, by _sort_key of their accounts.
def childEdges (edges : List OrgEdge) (refs : String → AccountRef) (superior : Option String) (kind : OrgKind) : List OrgEdge :=
  (edges.filter fun edge => edge.superiorId = superior ∧ edge.kind = kind).insertionSort fun one two =>
    refBefore (refs one.accountId) (refs two.accountId) = true

def managerEdges (edges : List OrgEdge) (refs : String → AccountRef) : List OrgEdge :=
  (edges.filter fun edge => edge.kind = .manager).insertionSort fun one two =>
    refBefore (refs one.accountId) (refs two.accountId) = true

def leaderNode (edges : List OrgEdge) (refs : String → AccountRef) (leader : OrgEdge) : LeaderNode :=
  ⟨refs leader.accountId,(childEdges edges refs (some leader.accountId) .member).map fun member => refs member.accountId⟩

def managerNode (edges : List OrgEdge) (refs : String → AccountRef) (manager : OrgEdge) : ManagerNode :=
  ⟨refs manager.accountId,(childEdges edges refs (some manager.accountId) .leader).map (leaderNode edges refs)⟩

def accountsOf (accounts : List (String × AccountRef)) (account : String) : AccountRef :=
  ((accounts.find? fun entry => entry.1 = account).map Prod.snd).getD ⟨account,"",""⟩

def getTree (d : Directory) : Except OrganizationError (List ManagerNode) := do
  let edges ← d.validEdges
  let accounts ← edges.mapM fun edge => do
    let found ← participant d edge.accountId
    pure (edge.accountId,found)
  pure ((managerEdges edges (accountsOf accounts)).map (managerNode edges (accountsOf accounts)))

-- Where a tree places an account: under which superior, at which level.
def LeaderNode.places (node : LeaderNode) (manager : String) : List OrgEdge :=
  ⟨node.account.id,some manager,.leader⟩ :: node.members.map fun member => ⟨member.id,some node.account.id,.member⟩

def ManagerNode.places (node : ManagerNode) : List OrgEdge :=
  ⟨node.account.id,none,.manager⟩ :: node.leaders.flatMap fun leader => leader.places node.account.id

def places (tree : List ManagerNode) : List OrgEdge := tree.flatMap ManagerNode.places

-- The way up from an account, itself first, with the level of each.
inductive Chain (edges : List OrgEdge) : String → List (String × OrgKind) → Prop where
  | top (found : edgeOf edges account = some edge) (above : edge.superiorId = none) :
    Chain edges account [(account,edge.kind)]
  | under (found : edgeOf edges account = some edge) (above : edge.superiorId = some superior)
    (rest : Chain edges superior chain) : Chain edges account ((account,edge.kind) :: chain)

def levels : OrgKind → List OrgKind
  | .manager => [.manager]
  | .leader => [.leader,.manager]
  | .member => [.member,.leader,.manager]

-- A forest of managers, their leaders and the leaders' members.
def ThreeLevelForest (edges : List OrgEdge) : Prop :=
  ∀ edge ∈ edges, ∃ chain, Chain edges edge.accountId chain ∧ (chain.map Prod.fst).Nodup ∧ chain.map Prod.snd = levels edge.kind

-- The direct superior of an account.
def Reports (edges : List OrgEdge) (superior account : String) : Prop :=
  ∃ edge ∈ edges, edge.accountId = account ∧ edge.superiorId = some superior

theorem mem_affectedAccounts (edges : List OrgEdge) (target account : String) :
    account ∈ affectedAccounts edges target ↔ Relation.ReflTransGen (Reports edges) target account := by
  unfold affectedAccounts
  rw [(List.perm_insertionSort _ _).mem_iff]
  have bounded (seen : List String) : reportsTo edges seen ⊆ edges.map OrgEdge.accountId :=
    List.map_subset _ (List.filter_subset_self _)
  refine Frontier.mem_grow bounded (fun seen one => ?_) ?_
  · unfold reportsTo Reports
    simp only [List.mem_map,List.mem_filter,Option.any_eq_true,decide_eq_true_eq]
    constructor
    · rintro ⟨edge,⟨member,superior,above,seen⟩,rfl⟩
      exact ⟨superior,seen,edge,member,rfl,above⟩
    · rintro ⟨superior,seen,edge,member,rfl,above⟩
      exact ⟨edge,⟨member,superior,above,seen⟩,rfl⟩
  · rw [List.length_map]
    exact Nat.lt_succ_self _

theorem affectedAccounts_nodup (edges : List OrgEdge) (target : String) : (affectedAccounts edges target).Nodup :=
  (List.perm_insertionSort _ _).nodup_iff.mpr (Frontier.grow_nodup _ (List.nodup_singleton target))

-- The checks of one edge.
inductive EdgeValid (edges : List OrgEdge) (edge : OrgEdge) : Prop where
  | manager (kind : edge.kind = .manager) (above : edge.superiorId = none)
  | leader (kind : edge.kind = .leader) (above : edge.superiorId = some superior) (found : edgeOf edges superior = some manager)
    (level : manager.kind = .manager)
  | member (kind : edge.kind = .member) (above : edge.superiorId = some superior) (found : edgeOf edges superior = some leader)
    (level : leader.kind = .leader)

section
variable {edges : List OrgEdge} {edge above : OrgEdge} {account superior : String} {chain : List (String × OrgKind)}

theorem deriveKind_ok : deriveKind (some above.kind) = .ok kind ↔
    above.kind = .manager ∧ kind = .leader ∨ above.kind = .leader ∧ kind = .member := by
  cases above.kind <;> simp [deriveKind,pure,Except.pure,eq_comm]

theorem validateEdge_ok (found : edgeOf edges edge.accountId = some edge) :
    validateEdge edges edge = .ok () ↔ EdgeValid edges edge := by
  unfold validateEdge
  rw [require_bind_ok]
  constructor
  · rintro ⟨_,ran⟩
    cases kind : edge.kind with
    | manager =>
      rw [kind] at ran
      exact .manager kind (require_ok.mp ran)
    | leader | member =>
      rw [kind] at ran
      obtain ⟨above,there,ran⟩ := orRaise_bind_ok.mp ran
      obtain ⟨derived,level,ran⟩ := bind_ok.mp ran
      cases require_ok.mp ran
      obtain ⟨superior,named,there⟩ := Option.bind_eq_some_iff.mp there
      rcases deriveKind_ok.mp level with ⟨level,same⟩ | ⟨level,same⟩ <;> cases same
      first | exact .leader kind named there level | exact .member kind named there level
  · intro valid
    have apart {superior : String} {one : OrgEdge} (there : edgeOf edges superior = some one) (differs : one.kind ≠ edge.kind) :
        superior ≠ edge.accountId := by
      rintro rfl
      cases found.symm.trans there
      exact differs rfl
    cases valid with
    | manager kind above =>
      rw [kind,above]
      exact ⟨by simp,require_ok.mpr rfl⟩
    | leader kind above there level =>
      have differs := apart there (by rw [kind,level]; decide)
      rw [kind,above]
      refine ⟨fun same => differs (Option.some.inj same),orRaise_bind_ok.mpr ⟨_,there,?_⟩⟩
      rw [level]
      rfl
    | member kind above there level =>
      have differs := apart there (by rw [kind,level]; decide)
      rw [kind,above]
      refine ⟨fun same => differs (Option.some.inj same),orRaise_bind_ok.mpr ⟨_,there,?_⟩⟩
      rw [level]
      rfl

theorem Chain.head (up : Chain edges account chain) :
    ∃ edge rest, edgeOf edges account = some edge ∧ chain = (account,edge.kind) :: rest := by
  cases up with
  | top found => exact ⟨_,_,found,rfl⟩
  | under found => exact ⟨_,_,found,rfl⟩

theorem Chain.entry (up : Chain edges account chain) :
    ∀ entry ∈ chain, (edgeOf edges entry.1).map OrgEdge.kind = some entry.2 := by
  induction up with
  | top found =>
    intro entry member
    cases List.mem_singleton.mp member
    rw [found]
    rfl
  | under found _ _ ih =>
    intro entry member
    rcases List.mem_cons.mp member with rfl | later
    · rw [found]
      rfl
    · exact ih entry later

-- On different levels are different accounts.
theorem Chain.nodup (up : Chain edges account chain) (distinct : (chain.map Prod.snd).Nodup) : (chain.map Prod.fst).Nodup := by
  refine List.Nodup.of_map (fun account => (edgeOf edges account).map OrgEdge.kind) ?_
  have same : (chain.map Prod.fst).map (fun account => (edgeOf edges account).map OrgEdge.kind) =
      (chain.map Prod.snd).map some := by
    rw [List.map_map,List.map_map]
    exact List.map_congr_left fun entry member => up.entry entry member
  rw [same]
  exact distinct.map (Option.some_injective _)

theorem levels_nodup (kind : OrgKind) : (levels kind).Nodup := by cases kind <;> decide

theorem Chain.length_le (up : Chain edges account chain) (distinct : (chain.map Prod.fst).Nodup) :
    chain.length ≤ edges.length := by
  have inside : chain.map Prod.fst ⊆ edges.map OrgEdge.accountId := by
    intro account member
    obtain ⟨entry,there,rfl⟩ := List.mem_map.mp member
    obtain ⟨edge,found,_⟩ := Option.map_eq_some_iff.mp (up.entry entry there)
    obtain ⟨stored,same⟩ := find_some found
    exact List.mem_map.mpr ⟨edge,stored,same⟩
  have short := (distinct.subperm inside).length_le
  rwa [List.length_map,List.length_map] at short

theorem Chain.climb (up : Chain edges account chain) {seen : List String} {rounds : Nat}
    (apart : ∀ entry ∈ chain, entry.1 ∉ seen) (distinct : (chain.map Prod.fst).Nodup) (enough : chain.length ≤ rounds) :
    climb edges rounds seen (some account) = true := by
  induction up generalizing seen rounds with
  | top found none =>
    cases rounds with
    | zero => cases enough
    | succ rounds =>
      have new := apart _ List.mem_cons_self
      unfold Organization.climb
      rw [found]
      change (!_ && Organization.climb edges rounds _ _) = true
      rw [Option.bind_some,none]
      cases rounds <;> simpa [Organization.climb] using new
  | @under account edge superior chain found named rest ih =>
    cases rounds with
    | zero => cases enough
    | succ rounds =>
      have new := apart _ List.mem_cons_self
      have step := List.nodup_cons.mp distinct
      have later := @ih (account :: seen) rounds (fun entry member same => ?_) step.2 (Nat.le_of_succ_le_succ enough)
      · unfold Organization.climb
        rw [found]
        change (!_ && Organization.climb edges rounds _ _) = true
        rw [Option.bind_some,named,later]
        simpa using new
      · rcases List.mem_cons.mp same with same | earlier
        · exact step.1 (List.mem_map.mpr ⟨entry,member,same⟩)
        · exact apart entry (List.mem_cons_of_mem _ member) earlier

variable (unique : Unique OrgEdge.accountId edges)
include unique

theorem edge_found (member : edge ∈ edges) : edgeOf edges edge.accountId = some edge := find_of_mem unique member

theorem valid_chain (valid : ∀ edge ∈ edges, EdgeValid edges edge) (member : edge ∈ edges) :
    ∃ chain, Chain edges edge.accountId chain ∧ chain.map Prod.snd = levels edge.kind := by
  have manager {superior : String} {one : OrgEdge} (found : edgeOf edges superior = some one) (level : one.kind = .manager) :
      Chain edges superior [(superior,.manager)] := by
    rw [←level]
    refine .top found ?_
    cases valid one (find_some found).1 with
    | manager _ above => exact above
    | leader kind => cases level.symm.trans kind
    | member kind => cases level.symm.trans kind
  have leader {superior : String} {one : OrgEdge} (found : edgeOf edges superior = some one) (level : one.kind = .leader) :
      ∃ top, Chain edges superior [(superior,.leader),(top,.manager)] := by
    rw [←level]
    cases valid one (find_some found).1 with
    | manager kind => cases level.symm.trans kind
    | leader _ above there kind => exact ⟨_,.under found above (manager there kind)⟩
    | member kind => cases level.symm.trans kind
  have found := edge_found unique member
  cases valid edge member with
  | manager kind above => exact ⟨_,.top found above,by rw [kind]; rfl⟩
  | leader kind above there level => exact ⟨_,.under found above (manager there level),by rw [kind]; rfl⟩
  | member kind above there level =>
    obtain ⟨top,up⟩ := leader there level
    exact ⟨_,.under found above up,by rw [kind]; rfl⟩

theorem chain_valid (member : edge ∈ edges) (up : Chain edges edge.accountId chain)
    (same : chain.map Prod.snd = levels edge.kind) : EdgeValid edges edge := by
  have found := edge_found unique member
  cases up with
  | @top _ one there above =>
    cases found.symm.trans there
    cases kind : edge.kind with
    | manager => exact .manager kind above
    | leader | member =>
      rw [kind] at same
      cases same
  | @under _ one superior rest there above up =>
    cases found.symm.trans there
    obtain ⟨over',others,there',rfl⟩ := up.head
    rw [List.map_cons,List.map_cons] at same
    cases kind : edge.kind with
    | manager =>
      rw [kind] at same
      cases same
    | leader =>
      rw [kind] at same
      exact .leader kind above there' (List.cons.inj (List.cons.inj same).2).1
    | member =>
      rw [kind] at same
      exact .member kind above there' (List.cons.inj (List.cons.inj same).2).1

-- validate_structure accepts the forests of three levels and nothing else; its walk
-- up never finds a cycle the levels have not excluded, so it ends.
theorem validateStructure_forest : validateStructure edges = .ok () ↔ ThreeLevelForest edges := by
  unfold validateStructure
  rw [bind_ok]
  constructor
  · rintro ⟨_,checked,_⟩ edge member
    have valid : ∀ edge ∈ edges, EdgeValid edges edge := fun one inside =>
      (validateEdge_ok (edge_found unique inside)).mp (forM_ok.mp checked one inside)
    obtain ⟨chain,up,same⟩ := valid_chain unique valid member
    exact ⟨chain,up,up.nodup (by rw [same]; exact levels_nodup _),same⟩
  · intro forest
    refine ⟨(),forM_ok.mpr fun edge member => ?_,require_ok.mpr fun edge member => ?_⟩
    · obtain ⟨chain,up,_,same⟩ := forest edge member
      exact (validateEdge_ok (edge_found unique member)).mpr (chain_valid unique member up same)
    · obtain ⟨chain,up,distinct,_⟩ := forest edge member
      exact up.climb (fun _ _ => List.not_mem_nil) distinct (Nat.le_succ_of_le (up.length_le distinct))

theorem climb_ends (checked : edges.forM (validateEdge edges) = .ok ()) (member : edge ∈ edges) {rounds : Nat}
    (enough : edges.length ≤ rounds) : climb edges rounds [] (some edge.accountId) = true := by
  have valid : ∀ edge ∈ edges, EdgeValid edges edge := fun one inside =>
    (validateEdge_ok (edge_found unique inside)).mp (forM_ok.mp checked one inside)
  obtain ⟨chain,up,same⟩ := valid_chain unique valid member
  have distinct := up.nodup (by rw [same]; exact levels_nodup _)
  exact up.climb (fun _ _ => List.not_mem_nil) distinct ((up.length_le distinct).trans enough)

end

variable {leader manager : OrgEdge} {d : Directory}

section
variable {edges : List OrgEdge} {edge : OrgEdge} {refs : String → AccountRef}

-- The edges of a tree, in the order of its nodes.
def leaderPlaces (edges : List OrgEdge) (refs : String → AccountRef) (leader : OrgEdge) : List OrgEdge :=
  leader :: childEdges edges refs (some leader.accountId) .member

def managerPlaces (edges : List OrgEdge) (refs : String → AccountRef) (manager : OrgEdge) : List OrgEdge :=
  manager :: (childEdges edges refs (some manager.accountId) .leader).flatMap (leaderPlaces edges refs)

theorem mem_childEdges {superior : Option String} {kind : OrgKind} :
    edge ∈ childEdges edges refs superior kind ↔ edge ∈ edges ∧ edge.superiorId = superior ∧ edge.kind = kind := by
  unfold childEdges
  rw [(List.perm_insertionSort _ _).mem_iff,List.mem_filter,decide_eq_true_eq]

theorem mem_managerEdges : edge ∈ managerEdges edges refs ↔ edge ∈ edges ∧ edge.kind = .manager := by
  unfold managerEdges
  rw [(List.perm_insertionSort _ _).mem_iff,List.mem_filter,decide_eq_true_eq]

theorem mem_leaderPlaces : edge ∈ leaderPlaces edges refs leader ↔
    edge = leader ∨ edge ∈ edges ∧ edge.superiorId = some leader.accountId ∧ edge.kind = .member := by
  unfold leaderPlaces
  rw [List.mem_cons,mem_childEdges]

theorem mem_managerPlaces : edge ∈ managerPlaces edges refs manager ↔
    edge = manager ∨ ∃ leader ∈ edges, (leader.superiorId = some manager.accountId ∧ leader.kind = .leader) ∧
      edge ∈ leaderPlaces edges refs leader := by
  unfold managerPlaces
  rw [List.mem_cons,List.mem_flatMap]
  simp only [mem_childEdges,and_assoc]

section
variable (unique : Unique OrgEdge.accountId edges)
include unique

theorem childEdges_nodup (superior : Option String) (kind : OrgKind) : (childEdges edges refs superior kind).Nodup :=
  (List.perm_insertionSort _ _).nodup_iff.mpr ((unique.of_map _).filter _)

theorem managerEdges_nodup : (managerEdges edges refs).Nodup :=
  (List.perm_insertionSort _ _).nodup_iff.mpr ((unique.of_map _).filter _)

theorem same_account {one two : OrgEdge} (first : one ∈ edges) (second : two ∈ edges) (same : one.accountId = two.accountId) :
    one = two := List.inj_on_of_nodup_map unique first second same

theorem leaderPlaces_nodup (kind : leader.kind = .leader) : (leaderPlaces edges refs leader).Nodup := by
  refine List.nodup_cons.mpr ⟨fun member => ?_,childEdges_nodup unique _ _⟩
  cases kind.symm.trans (mem_childEdges.mp member).2.2

theorem managerPlaces_nodup (kind : manager.kind = .manager) : (managerPlaces edges refs manager).Nodup := by
  refine List.nodup_cons.mpr ⟨fun member => ?_,List.nodup_flatMap.mpr ⟨fun leader member => ?_,?_⟩⟩
  · obtain ⟨leader,inside,placed⟩ := List.mem_flatMap.mp member
    rcases mem_leaderPlaces.mp placed with rfl | ⟨_,_,level⟩
    · cases kind.symm.trans (mem_childEdges.mp inside).2.2
    · cases kind.symm.trans level
  · exact leaderPlaces_nodup unique (mem_childEdges.mp member).2.2
  · refine (childEdges_nodup unique _ _).imp_of_mem fun {one two} first second differs edge mine theirs => ?_
    obtain ⟨stored,_,level⟩ := mem_childEdges.mp first
    obtain ⟨stored',_,level'⟩ := mem_childEdges.mp second
    rcases mem_leaderPlaces.mp mine with rfl | ⟨_,above,kind⟩
    · rcases mem_leaderPlaces.mp theirs with rfl | ⟨_,_,kind⟩
      · exact differs rfl
      · cases level.symm.trans kind
    · rcases mem_leaderPlaces.mp theirs with rfl | ⟨_,above',_⟩
      · cases level'.symm.trans kind
      · exact differs (same_account unique stored stored' (Option.some.inj (above.symm.trans above')))

theorem treePlaces_nodup : ((managerEdges edges refs).flatMap (managerPlaces edges refs)).Nodup := by
  refine List.nodup_flatMap.mpr ⟨fun manager member => managerPlaces_nodup unique (mem_managerEdges.mp member).2,?_⟩
  refine (managerEdges_nodup unique).imp_of_mem fun {one two} first second differs edge mine theirs => ?_
  obtain ⟨stored,level⟩ := mem_managerEdges.mp first
  obtain ⟨stored',level'⟩ := mem_managerEdges.mp second
  rcases mem_managerPlaces.mp mine with rfl | ⟨leader,inside,⟨above,kind⟩,placed⟩
  · rcases mem_managerPlaces.mp theirs with rfl | ⟨leader,_,⟨_,kind⟩,placed⟩
    · exact differs rfl
    · rcases mem_leaderPlaces.mp placed with rfl | ⟨_,_,member⟩
      · cases level.symm.trans kind
      · cases level.symm.trans member
  · rcases mem_managerPlaces.mp theirs with rfl | ⟨leader',inside',⟨above',kind'⟩,placed'⟩
    · rcases mem_leaderPlaces.mp placed with rfl | ⟨_,_,member⟩
      · cases level'.symm.trans kind
      · cases level'.symm.trans member
    · have same : leader = leader' := by
        rcases mem_leaderPlaces.mp placed with rfl | ⟨_,up,member⟩
        · rcases mem_leaderPlaces.mp placed' with rfl | ⟨_,_,member⟩
          · rfl
          · cases kind.symm.trans member
        · rcases mem_leaderPlaces.mp placed' with rfl | ⟨_,up',_⟩
          · cases kind'.symm.trans member
          · exact same_account unique inside inside' (Option.some.inj (up.symm.trans up'))
      subst same
      exact differs (same_account unique stored stored' (Option.some.inj (above.symm.trans above')))

-- Every edge of a forest has its place.
omit unique in
theorem mem_treePlaces (valid : ∀ edge ∈ edges, EdgeValid edges edge) :
    edge ∈ (managerEdges edges refs).flatMap (managerPlaces edges refs) ↔ edge ∈ edges := by
  rw [List.mem_flatMap]
  constructor
  · rintro ⟨manager,top,placed⟩
    rcases mem_managerPlaces.mp placed with rfl | ⟨leader,inside,_,placed⟩
    · exact (mem_managerEdges.mp top).1
    · rcases mem_leaderPlaces.mp placed with rfl | ⟨stored,_⟩
      · exact inside
      · exact stored
  · intro member
    have under {leader : OrgEdge} (inside : leader ∈ edges) (kind : leader.kind = .leader) :
        ∃ manager ∈ managerEdges edges refs, leader.superiorId = some manager.accountId := by
      cases valid leader inside with
      | manager other => cases kind.symm.trans other
      | leader _ above found level =>
        obtain ⟨stored,same⟩ := find_some found
        exact ⟨_,mem_managerEdges.mpr ⟨stored,level⟩,same ▸ above⟩
      | member other => cases kind.symm.trans other
    cases valid edge member with
    | manager kind => exact ⟨edge,mem_managerEdges.mpr ⟨member,kind⟩,mem_managerPlaces.mpr (.inl rfl)⟩
    | leader kind =>
      obtain ⟨manager,top,above⟩ := under member kind
      exact ⟨manager,top,mem_managerPlaces.mpr (.inr ⟨edge,member,⟨above,kind⟩,mem_leaderPlaces.mpr (.inl rfl)⟩)⟩
    | @member superior leader kind above found level =>
      obtain ⟨stored,same⟩ := find_some found
      obtain ⟨manager,top,above'⟩ := under stored level
      refine ⟨manager,top,mem_managerPlaces.mpr (.inr ⟨leader,stored,⟨above',level⟩,mem_leaderPlaces.mpr (.inr ⟨member,?_,kind⟩)⟩)⟩
      rw [above,←same]

end

-- The nodes say of each account what its edge says.
theorem leaderNode_places (named : ∀ edge ∈ edges, (refs edge.accountId).id = edge.accountId) {manager : String}
    (stored : leader ∈ edges) (above : leader.superiorId = some manager) (kind : leader.kind = .leader) :
    (leaderNode edges refs leader).places manager = leaderPlaces edges refs leader := by
  have members : ∀ member ∈ childEdges edges refs (some leader.accountId) .member,
      (⟨(refs member.accountId).id,some (refs leader.accountId).id,.member⟩ : OrgEdge) = member := by
    intro member inside
    obtain ⟨there,up,level⟩ := mem_childEdges.mp inside
    rw [named member there,named leader stored,←up,←level]
  unfold LeaderNode.places leaderNode leaderPlaces
  rw [List.map_map]
  refine congrArg₂ List.cons ?_ ((List.map_congr_left members).trans (List.map_id _))
  rw [named leader stored,←above,←kind]

theorem managerNode_places (named : ∀ edge ∈ edges, (refs edge.accountId).id = edge.accountId)
    (stored : manager ∈ edges) (above : manager.superiorId = none) (kind : manager.kind = .manager) :
    (managerNode edges refs manager).places = managerPlaces edges refs manager := by
  unfold ManagerNode.places managerNode managerPlaces
  rw [List.flatMap_map]
  refine congrArg₂ List.cons ?_ (List.flatMap_congr fun leader inside => ?_)
  · rw [named manager stored,←above,←kind]
  · obtain ⟨there,up,level⟩ := mem_childEdges.mp inside
    rw [named manager stored]
    exact leaderNode_places named there up level

-- Identity returns the account it was asked for.
def Directory.Keyed (d : Directory) : Prop := ∀ id row, d.accounts id = some row → row.id = id

def Directory.AllEffective (d : Directory) : Prop := ∀ edge ∈ d.edges, d.effective edge.accountId = true

theorem accountsOf_id (keyed : d.Keyed) (effective : d.AllEffective) :
    ∃ accounts, (d.edges.mapM fun edge => do
      let found ← participant d edge.accountId
      pure (edge.accountId,found)) = .ok accounts ∧
      ∀ edge ∈ d.edges, (accountsOf accounts edge.accountId).id = edge.accountId := by
  let answer (edge : OrgEdge) : String × AccountRef :=
    (edge.accountId,((d.accounts edge.accountId).map accountRef).getD ⟨edge.accountId,"",""⟩)
  have stored (edge : OrgEdge) (member : edge ∈ d.edges) :
      ∃ account, d.accounts edge.accountId = some account ∧ account.effective = true :=
    (Option.any_eq_true _ _).mp (effective edge member)
  have own (edge : OrgEdge) (member : edge ∈ d.edges) : (answer edge).2.id = edge.accountId := by
    obtain ⟨account,found,_⟩ := stored edge member
    change (((d.accounts edge.accountId).map accountRef).getD _).id = _
    rw [found]
    exact keyed _ _ found
  refine ⟨d.edges.map answer,mapM_eq fun edge member => ?_,fun edge member => ?_⟩
  · obtain ⟨account,found,is⟩ := stored edge member
    unfold participant
    dsimp only [answer]
    rw [found,Option.filter_some,if_pos is]
    rfl
  · unfold accountsOf
    cases there : (d.edges.map answer).find? fun entry => entry.1 = edge.accountId with
    | none =>
      have absent := List.find?_eq_none.mp there (answer edge) (List.mem_map_of_mem member)
      exact absurd (decide_eq_true rfl) absent
    | some entry =>
      have found := List.find?_some there
      have same : entry.1 = edge.accountId := of_decide_eq_true found
      obtain ⟨other,inside,rfl⟩ := List.mem_map.mp (List.mem_of_find?_eq_some there)
      exact (own other inside).trans same

theorem getTree_places (unique : Unique OrgEdge.accountId d.edges)
    (valid : ∀ edge ∈ d.edges, EdgeValid d.edges edge) (checked : validateStructure d.edges = .ok ()) (keyed : d.Keyed)
    (effective : d.AllEffective) : ∃ tree, getTree d = .ok tree ∧ (places tree).Perm d.edges := by
  obtain ⟨accounts,read,named⟩ := accountsOf_id keyed effective
  have edges : d.validEdges = .ok d.edges := by
    unfold Directory.validEdges
    rw [checked]
    rfl
  refine ⟨_,bind_ok.mpr ⟨_,edges,bind_ok.mpr ⟨_,read,rfl⟩⟩,?_⟩
  have same : places ((managerEdges d.edges (accountsOf accounts)).map (managerNode d.edges (accountsOf accounts))) =
      (managerEdges d.edges (accountsOf accounts)).flatMap (managerPlaces d.edges (accountsOf accounts)) := by
    unfold places
    rw [List.flatMap_map]
    refine List.flatMap_congr fun manager inside => ?_
    obtain ⟨stored,kind⟩ := mem_managerEdges.mp inside
    cases valid manager stored with
    | manager _ above => exact managerNode_places named stored above kind
    | leader other => cases kind.symm.trans other
    | member other => cases kind.symm.trans other
  rw [same]
  exact (List.perm_ext_iff_of_nodup (treePlaces_nodup unique) (unique.of_map _)).mpr fun edge => mem_treePlaces valid

end

-- What happens to a directory: a change of its structure, or of the accounts alone.
def OrganizationStep (d next : Directory) : Prop :=
  (∃ account superior, setSuperior account superior d = .ok (next,())) ∨ next.edges = d.edges

theorem setSuperior_ok {next : Directory} (ran : setSuperior account superior d = .ok (next,())) :
    (∃ edge : OrgEdge, edge.accountId = account ∧ next.edges = upsert OrgEdge.accountId d.edges account edge fun _ => edge) ∧
      validateStructure next.edges = .ok () := by
  unfold setSuperior at ran
  obtain ⟨_,ran⟩ := require_bind_ok.mp ran
  obtain ⟨above,_,ran⟩ := bind_ok.mp ran
  obtain ⟨kind,_,ran⟩ := bind_ok.mp ran
  obtain ⟨_,valid,ran⟩ := bind_ok.mp ran
  cases pure_ok.mp ran
  exact ⟨⟨⟨account,superior,kind⟩,rfl,rfl⟩,valid⟩

theorem steps_valid {later : Directory} (steps : Relation.ReflTransGen OrganizationStep d later)
    (valid : validateStructure d.edges = .ok ()) : validateStructure later.edges = .ok () := by
  induction steps with
  | refl => exact valid
  | tail _ step ih =>
    rcases step with ⟨account,superior,ran⟩ | same
    · exact (setSuperior_ok ran).2
    · rw [same]
      exact ih

-- The edges are a dict, with one entry for each account.
theorem organization_structure (d : Directory) (unique : Unique OrgEdge.accountId d.edges) :
    (validateStructure d.edges = .ok () ↔ ThreeLevelForest d.edges) ∧
    (d.edges.forM (validateEdge d.edges) = .ok () → ∀ edge ∈ d.edges, ∀ rounds, d.edges.length ≤ rounds →
      climb d.edges rounds [] (some edge.accountId) = true) ∧
    (∀ account superior next, setSuperior account superior d = .ok (next,()) →
      Unique OrgEdge.accountId next.edges ∧ ThreeLevelForest next.edges ∧
      (∀ later, Relation.ReflTransGen OrganizationStep next later → later.validEdges = .ok later.edges) ∧
      (affectedAccounts next.edges account).Nodup ∧
      ∀ other, other ∈ affectedAccounts next.edges account ↔ Relation.ReflTransGen (Reports next.edges) account other) ∧
    (ThreeLevelForest d.edges → d.Keyed → d.AllEffective → ∃ tree, getTree d = .ok tree ∧ (places tree).Perm d.edges) := by
  refine ⟨validateStructure_forest unique,fun checked edge member rounds enough => climb_ends unique checked member enough,
    fun account superior next ran => ?_,fun forest keyed effective => ?_⟩
  · obtain ⟨⟨edge,same,edges⟩,valid⟩ := setSuperior_ok ran
    have uniqueNext : Unique OrgEdge.accountId next.edges := by
      rw [edges]
      unfold upsert
      split
      · exact unique_replace same unique
      · rename_i missing
        have absent : find OrgEdge.accountId d.edges account = none := by simpa using missing
        exact unique_insert unique (same ▸ absent)
    refine ⟨uniqueNext,(validateStructure_forest uniqueNext).mp valid,fun later steps => ?_,
      affectedAccounts_nodup _ _,mem_affectedAccounts _ _⟩
    unfold Directory.validEdges
    rw [steps_valid steps valid]
    rfl
  · have checked := (validateStructure_forest unique).mpr forest
    refine getTree_places unique (fun edge member => ?_) checked keyed effective
    obtain ⟨chain,up,_,same⟩ := forest edge member
    exact chain_valid unique member up same

def sampleDirectory : Directory where
  accounts id := if id ∈ ["max","eve","ann","bob"] then some ⟨id,id,id,.enabled,true⟩ else none
  edges := [⟨"bob",some "ann",.member⟩,⟨"max",none,.manager⟩,⟨"eve",none,.manager⟩,⟨"ann",some "max",.leader⟩]

-- Ann moves from Max to Eve, and Bob with her.
def sampleMoved : Directory := {sampleDirectory with
  edges := [⟨"bob",some "ann",.member⟩,⟨"max",none,.manager⟩,⟨"eve",none,.manager⟩,⟨"ann",some "eve",.leader⟩]}

theorem organization_structure_sample : ThreeLevelForest sampleDirectory.edges ∧
    (∃ tree, getTree sampleDirectory = .ok tree ∧ (places tree).Perm sampleDirectory.edges) ∧
    setSuperior "ann" (some "eve") sampleDirectory = .ok (sampleMoved,()) ∧ ThreeLevelForest sampleMoved.edges ∧
    "bob" ∈ affectedAccounts sampleMoved.edges "ann" := by
  have whole := organization_structure sampleDirectory (by unfold KeyedRows.Unique; decide)
  have forest := whole.1.mp (by decide)
  have moved : setSuperior "ann" (some "eve") sampleDirectory = .ok (sampleMoved,()) := by rfl
  obtain ⟨_,after,_,_,affected⟩ := whole.2.2.1 "ann" (some "eve") sampleMoved moved
  refine ⟨forest,whole.2.2.2 forest (fun id row found => ?_) (by unfold Directory.AllEffective; decide),moved,after,
    (affected "bob").mpr (.single ⟨⟨"bob",some "ann",.member⟩,by decide,rfl,rfl⟩)⟩
  unfold sampleDirectory at found
  dsimp only at found
  split at found
  · cases found
    rfl
  · cases found

end EngineeringPlatform.Organization
