import EngineeringPlatform.Qualification
namespace EngineeringPlatform.Authorization
open Checked KeyedRows TransitionRuns InterleavedCalls Identity Organization Workspace
variable {strict : Bool} {seen : Estate → Prop} {s t : Estate}

-- An instant of a part of the call, between the states it started and ended in.
def Between (seen : Estate → Prop) (s t : Estate) (holds : Estate → Prop) : Prop :=
  ∃ instant, seen instant ∧ s.Later instant ∧ instant.Later t ∧ holds instant

def AccountHeld (actor : String) (facts : ActorAccountFacts) (s : Estate) : Prop :=
  ∃ view, s.governance.directory.accounts actor = some view ∧ view.status = facts.status ∧
    view.initialized = facts.initialized

theorem accountFacts_yields (actor : String) :
    Yields estateRules strict seen (accountFacts actor) s fun facts t => Between seen s t (AccountHeld actor facts) := by
  refine yields_readOk fun one before _ first _ _ => yields_read fun two _ second there => ?_
  refine yields_readOk fun three after _ third _ _ => yields_ofOutcome fun facts read t _ last _ => ?_
  obtain ⟨view,found,read⟩ := orRaise_bind_ok.mp read
  obtain ⟨⟨_,status⟩,read⟩ := require_bind_ok.mp read
  cases pure_ok.mp read
  exact ⟨two,there,first.trans second,third.trans last,view,found,status,rfl⟩

def WorkspaceHeld (actor : String) (workspaceId : Uuid) (facts : ActorWorkspaceFacts) (s : Estate) : Prop :=
  ∃ workspace, s.governance.workspace workspaceId = some workspace ∧ workspace.version = facts.version ∧
    workspace.archivedAt = none ∧ (facts.memberSource.isSome = true → ∃ row ∈ workspace.members, row.accountId = actor)

theorem getWorkspace_ok {id : Uuid} (ran : getWorkspace id s = .ok dto) :
    ∃ workspace, s.governance.workspace id = some workspace ∧ workspace.archivedAt = none ∧
      dto.version = workspace.version := by
  obtain ⟨workspace,active,ran⟩ := bind_ok.mp ran
  cases pure_ok.mp ran
  obtain ⟨found,located,active⟩ := orRaise_bind_ok.mp active
  obtain ⟨open_,active⟩ := require_bind_ok.mp active
  cases pure_ok.mp active
  exact ⟨_,located,open_,rfl⟩

theorem effectiveRows_yields (rows : List MemberRow) :
    Yields estateRules strict seen (effectiveRows rows) s fun found t => s.Later t ∧ ∀ row ∈ found, row ∈ rows := by
  induction rows generalizing s with
  | nil => exact yields_pure fun t _ later _ => ⟨later,fun _ absurd => by cases absurd⟩
  | cons row rest ih =>
    refine yields_read fun one _ first _ => (ih.weaken fun others two _ _ _ kept => ?_).bind
    refine yields_pure fun t _ last _ => ⟨first.trans (kept.1.trans last),fun found member => ?_⟩
    split at member
    · rcases List.mem_cons.mp member with rfl | later
      · exact List.mem_cons_self
      · exact List.mem_cons_of_mem _ (kept.2 found later)
    · exact List.mem_cons_of_mem _ (kept.2 found member)

-- A workspace of the same version before and after is the same all the time.
theorem workspace_steady {id : Uuid} {one two three : Estate} (first : one.Later two) (second : two.Later three)
    (before : one.governance.workspace id = some old) (after : three.governance.workspace id = some new)
    (still : new.version = old.version) : two.governance.workspace id = some old ∧ new = old := by
  obtain ⟨middle,found,moved⟩ := first.governance id old before
  obtain ⟨last,there,later⟩ := second.governance id middle found
  cases Option.some.inj (after.symm.trans there)
  have up := moved.version
  have on := later.version
  have same := moved.same (by omega)
  exact ⟨same ▸ found,(later.same (by omega)).trans same⟩

theorem membershipFacts_yields (actor : String) (workspaceId : Uuid) :
    Yields estateRules strict seen (membershipFacts actor workspaceId) s fun facts t =>
      Between seen s t (WorkspaceHeld actor workspaceId facts) := by
  refine yields_readOk fun one before _ first _ opened => ?_
  refine Yields.bind (yields_readOk fun two _ _ second _ _ => yields_read fun three _ third _ => ?_)
  refine (effectiveRows_yields _).weaken fun found four _ _ _ kept => ?_
  refine yields_readOk fun five after _ fifth there closed => yields_ofOutcome fun facts read t _ last _ => ?_
  obtain ⟨fourth,known⟩ := kept
  obtain ⟨same,read⟩ := require_bind_ok.mp read
  obtain ⟨_,read⟩ := require_bind_ok.mp read
  cases pure_ok.mp read
  subst same
  obtain ⟨old,located,_,version⟩ := getWorkspace_ok opened
  obtain ⟨new,again,active,still⟩ := getWorkspace_ok closed
  obtain ⟨steady,same⟩ := workspace_steady (second.trans third) (fourth.trans fifth) located again (still.symm.trans version)
  refine ⟨five,there,?_,last,new,again,still.symm,active,fun present => ?_⟩
  · exact first.trans (second.trans (third.trans (fourth.trans fifth)))
  · obtain ⟨row,member⟩ : ∃ row, row ∈ found.filter (·.accountId = actor) := by
      obtain ⟨row,head⟩ := Option.isSome_iff_exists.mp (Option.isSome_map ▸ present)
      exact ⟨row,List.mem_of_mem_head? head⟩
    obtain ⟨listed,mine⟩ := List.mem_filter.mp member
    have stored := known row listed
    unfold projectionRows at stored
    rw [steady] at stored
    exact ⟨row,same ▸ stored,by simpa using mine⟩

def GrantHeld (actor : String) (grant : Grant) (s : Estate) : Prop :=
  grant ∈ s.ledger.grantsOf actor ∧ grant.validFrom.all (· ≤ s.clock) = true

theorem requiredGrants_yields (actor : String) (scope : Scope) (capabilities : List String) :
    Yields estateRules strict seen (requiredGrants actor scope capabilities) s fun grants t =>
      s.Later t ∧ ∀ grant ∈ grants, Between seen s t (GrantHeld actor grant) := by
  induction capabilities generalizing s with
  | nil => exact yields_pure fun t _ later _ => ⟨later,fun _ absurd => by cases absurd⟩
  | cons capability rest ih =>
    refine yields_read fun one _ first _ => yields_read fun two _ second there => ?_
    refine (ih.weaken fun others three _ _ _ kept => ?_).bind
    obtain ⟨third,held⟩ := kept
    refine yields_pure fun t _ last _ => ⟨first.trans (second.trans (third.trans last)),fun grant member => ?_⟩
    rcases List.mem_append.mp member with here | later
    · obtain ⟨stored,chosen⟩ := List.mem_filter.mp here
      simp only [decide_eq_true_eq,Grant.validAt,Bool.and_eq_true] at chosen
      obtain ⟨mine,_,⟨started,_⟩,_⟩ := chosen
      refine ⟨two,there,first.trans second,third.trans last,List.mem_filter.mpr ⟨stored,by simpa using mine⟩,?_⟩
      simp only [Option.all_eq_true_iff_get,decide_eq_true_eq] at started ⊢
      exact fun some => Nat.le_trans (started some) second.clock
    · obtain ⟨instant,present,after,before,held⟩ := held grant later
      exact ⟨instant,present,(first.trans second).trans after,before.trans last,held⟩

theorem principal_steady {one two three : Estate} (first : one.Later two) (second : two.Later three)
    (before : one.ledger.principal actor = some row) (after : three.ledger.principal actor = some row) :
    ∃ middle, two.ledger.principal actor = some middle ∧ PrincipalLater one.ledger two.ledger actor row middle ∧
      PrincipalLater two.ledger three.ledger actor middle row ∧ middle.version = row.version ∧
      middle.fenceGeneration = row.fenceGeneration := by
  obtain ⟨middle,found,moved⟩ := first.ledger actor row before
  obtain ⟨last,there,later⟩ := second.ledger actor middle found
  cases Option.some.inj (after.symm.trans there)
  have versions := moved.version
  have still := later.version
  have fences := moved.fence
  have steady := later.fence
  exact ⟨middle,found,moved,later,by omega,by omega⟩

theorem grants_steady {one two three four : Estate} (first : one.Later two) (second : two.Later three)
    (third : three.Later four) (before : one.ledger.principal actor = some row)
    (after : four.ledger.principal actor = some row) : three.ledger.grantsOf actor = two.ledger.grantsOf actor := by
  obtain ⟨middle,found,_,_,version,_⟩ := principal_steady first (second.trans third) before after
  obtain ⟨last,there,moved⟩ := second.ledger actor middle found
  obtain ⟨other,again,_,_,still,_⟩ := principal_steady (first.trans second) third before after
  cases Option.some.inj (again.symm.trans there)
  exact moved.grants (still.trans version.symm)

-- The instant is the one in which the account is read again: the version of the workspace
-- and of the principal were read both before and after it.
theorem qualified_at {one two three four five : Estate} (first : one.Later two) (second : two.Later three)
    (third : three.Later four) (fourth : four.Later five) {principal : Option PrincipalVersion}
    (begun : one.ledger.principal actor = principal) (ended : five.ledger.principal actor = principal)
    (checked : five.clock ≤ checkedAt) (member : WorkspaceHeld actor workspaceId membership two)
    (held : AccountHeld actor account three) (again : WorkspaceHeld actor workspaceId membership four)
    (effective : effectiveFacts actor workspaceId principal account membership = true)
    (granted : ∀ grant ∈ grants, ∃ instant, one.Later instant ∧ instant.Later three ∧ GrantHeld actor grant instant)
    (required : ∀ capability ∈ capabilities, ∃ grant ∈ matchingGrants actor (workspaceScope workspaceId) checkedAt grants,
      grant.capability = capability) : Qualified three actor workspaceId capabilities := by
  obtain ⟨named,facts⟩ := Bool.and_eq_true_iff.mp effective
  obtain ⟨row,rfl,clean⟩ : ∃ row, principal = some row ∧ row.dirtyGeneration = none := by
    cases principal with
    | none => cases named
    | some row =>
      simp only [Option.any_some,decide_eq_true_eq] at named
      exact ⟨row,rfl,named.2.2.1⟩
  simp only [decide_eq_true_eq] at facts
  obtain ⟨_,_,enabled,initialized,_,_,_,sourced,_⟩ := facts
  obtain ⟨middle,found,moved,_,version,fence⟩ := principal_steady (first.trans second) (third.trans fourth) begun ended
  refine ⟨?_,?_,⟨middle,found,moved.clean version fence clean⟩,fun capability listed => ?_⟩
  · obtain ⟨view,there,status,set⟩ := held
    exact ⟨view,there,status.trans enabled,set.trans initialized⟩
  · obtain ⟨old,there,before,active,rows⟩ := member
    obtain ⟨new,last,after,_⟩ := again
    obtain ⟨steady,_⟩ := workspace_steady second third there last (after.trans before.symm)
    exact ⟨old,steady,active,rows sourced⟩
  · obtain ⟨grant,chosen,capable⟩ := required capability listed
    obtain ⟨member,matched⟩ := List.mem_filter.mp chosen
    simp only [decide_eq_true_eq,Grant.validAt,Bool.and_eq_true] at matched
    obtain ⟨mine,inside,active,_,_,unexpired⟩ := matched
    obtain ⟨instant,before,after,stored,started⟩ := granted grant member
    have same := grants_steady before after (third.trans fourth) begun ended
    rw [←same] at stored
    refine ⟨grant,List.mem_of_mem_filter stored,mine,capable,inside,active,?_⟩
    simp only [Grant.validAt,Bool.and_eq_true,Option.all_eq_true_iff_get,decide_eq_true_eq] at started unexpired ⊢
    refine ⟨fun some => Nat.le_trans (started some) after.clock,fun some => ?_⟩
    exact Nat.lt_of_le_of_lt (Nat.le_trans (third.trans fourth).clock checked) (unexpired some)

theorem evaluate_yields (actor : String) (workspaceId : Uuid) (capabilities : List String) :
    Yields estateRules strict seen (evaluate actor workspaceId capabilities) s fun snapshot _ =>
      snapshot.eligible = true → ∃ instant, seen instant ∧ Qualified instant actor workspaceId capabilities := by
  have unavailable {principal : Option PrincipalVersion} {account : Option ActorAccountFacts}
      {workspace : Option ActorWorkspaceFacts} {grants : List Grant} {t : Estate} :
      Yields estateRules strict seen (do
        let checkedAt ← read (·.clock)
        pure ⟨false,.factsUnavailable,actor,workspaceId,capabilities,account,workspace,principal,grants,checkedAt⟩ :
          Call Estate FactsError ActorQualificationSnapshot) t fun snapshot _ =>
        snapshot.eligible = true → ∃ instant, seen instant ∧ Qualified instant actor workspaceId capabilities :=
    yields_read fun _ _ _ _ => yields_pure fun _ _ _ _ absurd => by cases absurd
  refine yields_read fun one _ _ _ => Yields.attempt ((accountFacts_yields actor).weaken fun account two _ second _ _ => ?_)
    fun _ _ _ _ _ => unavailable
  refine Yields.attempt ((membershipFacts_yields actor workspaceId).weaken fun membership three _ _ _ member => ?_)
    fun _ _ _ _ _ => unavailable
  obtain ⟨joined,_,third,fourth,member⟩ := member
  refine Yields.bind ((requiredGrants_yields actor _ capabilities).weaken fun grants four _ _ _ granted => ?_)
  obtain ⟨moved,granted⟩ := granted
  refine Yields.attempt ((accountFacts_yields actor).weaken fun accountAfter five _ _ _ held => ?_)
    fun _ _ _ _ _ => unavailable
  obtain ⟨instant,present,fifth,sixth,held⟩ := held
  refine Yields.attempt ((membershipFacts_yields actor workspaceId).weaken fun membershipAfter six _ _ _ again => ?_)
    fun _ _ _ _ _ => unavailable
  obtain ⟨rejoined,_,seventh,eighth,again⟩ := again
  refine yields_read fun seven _ ninth _ => yields_read fun eight _ tenth _ => yields_pure fun _ _ _ _ eligible => ?_
  obtain ⟨⟨same,stays,steady⟩,effective,required⟩ := of_decide_eq_true eligible
  subst same stays
  have start : one.Later three := second.trans (third.trans fourth)
  refine ⟨instant,present,qualified_at (second.trans third) (fourth.trans (moved.trans fifth)) (sixth.trans seventh)
    (eighth.trans ninth) rfl steady.symm tenth.clock member held again effective (fun grant listed => ?_) required⟩
  obtain ⟨read,_,after,before,found⟩ := granted grant ((List.mem_insertionSort _).mp listed)
  exact ⟨read,start.trans after,before.trans fifth,found⟩

-- An instant between the start and the end of a call that answers eligible, in which
-- all that it asks for held at once.
theorem qualification_snapshot {s last : Estate}
    (path : Runs (Enabled estateStep) (estateInitial clock sessionIdleTimeout) labels s)
    (executed : Executes (Enabled estateStep) false (evaluate actor workspaceId capabilities) s instants (.ok snapshot) last)
    (eligible : snapshot.eligible = true) : ∃ instant ∈ instants, Qualified instant actor workspaceId capabilities := by
  obtain ⟨_,_,qualified⟩ := executed.yielded estate_follows (estate_reached path) (fun _ member => member)
    (evaluate_yields actor workspaceId capabilities)
  exact qualified eligible

def sampleAccount (id : String) (isSuperAdmin : Bool) : AccountRow :=
  (⟨id,id,id,.enabled,true⟩,⟨none,some 1,some 1,isSuperAdmin,2⟩)

-- A leader under a manager, with a workspace of her own and one grant in it.
def sampleMember : List EstateLabel :=
  [.govern (.security (.start "7") 0),.identity ⟨"7",[sampleAccount "alice" false,sampleAccount "bob" false],[]⟩,
    .govern (.setSuperior "bob" none),.govern (.setSuperior "alice" (some "bob")),
    .govern (.create 1 "space" "alice" "alice" 5),
    .govern (.security (.grant ⟨"alice","review",workspaceScope 1,"MANUAL","duty",none,some 90⟩ 3 6) 0)]

def sampleMembered : Estate := (execute estateStep (estateInitial 10 30) sampleMember).get (by decide +kernel)

-- The clock moves on while she is evaluated, and somebody else gets a grant.
def sampleEvaluation : List (Option EstateLabel) :=
  List.replicate 9 none ++ [some (.tick 5),some (.govern (.security (.grant ⟨"bob","review",workspaceScope 1,"MANUAL",
    "duty",none,none⟩ 4 7) 0))] ++ List.replicate 12 none

def sampleEvaluated : Except FactsError ActorQualificationSnapshot × List Estate × Estate :=
  (perform estateStep false sampleEvaluation (evaluate "alice" 1 ["review"]) sampleMembered).get (by decide +kernel)

theorem qualification_snapshot_member : ∃ instant ∈ sampleEvaluated.2.1, Qualified instant "alice" 1 ["review"] := by
  have path : Runs (Enabled estateStep) (estateInitial 10 30) sampleMember sampleMembered := execute_get (by decide +kernel)
  have executed : Executes (Enabled estateStep) false (evaluate "alice" 1 ["review"]) sampleMembered sampleEvaluated.2.1
      sampleEvaluated.1 sampleEvaluated.2.2 := perform_get (by decide +kernel)
  have answered : sampleEvaluated.1.toOption.any (·.eligible) = true := by decide +kernel
  cases outcome : sampleEvaluated.1 with
  | ok snapshot =>
    rw [outcome] at executed answered
    exact qualification_snapshot path executed answered
  | error error =>
    rw [outcome] at answered
    cases answered

end EngineeringPlatform.Authorization
