import EngineeringPlatform.PrincipalFreshness
namespace EngineeringPlatform.Authorization
open Checked KeyedRows TransitionRuns InterleavedCalls Identity Organization Workspace
variable {strict : Bool} {seen : Estate → Prop} {s t : Estate}

theorem take_keeps (label : Estate → EstateLabel) : (take label).Keeps factsRules := by
  refine keeps_commit fun t next _ valid ran => ?_
  cases taken : estateStep t (label t) with
  | none =>
    rw [taken] at ran
    cases ran
  | some later =>
    rw [taken] at ran
    cases ran
    exact ⟨(estate_step valid taken).1,estate_facts valid taken⟩

theorem reconcileEach_keeps (ids : List Uuid) : (reconcileEach ids).Keeps factsRules := by
  induction ids with
  | nil => exact keeps_pure
  | cons id rest ih => exact (take_keeps _).attempt.bind fun _ => ih.bind fun _ => keeps_pure

theorem reconcilePending_keeps : reconcilePending.Keeps factsRules :=
  keeps_read.bind fun _ => (reconcileEach_keeps _).bind fun _ => keeps_read.bind fun _ => keeps_pure

theorem reconcileAll_keeps (ids : List Uuid) : (reconcileAll ids).Keeps factsRules := by
  induction ids with
  | nil => exact keeps_pure
  | cons id rest ih => exact (take_keeps _).bind fun _ => ih

theorem reconcileForAccount_keeps (account : String) : (reconcileForAccount account).Keeps factsRules := by
  refine keeps_read.bind fun ids => (reconcileAll_keeps ids).attempt.bind fun outcome => ?_
  cases outcome with
  | error error => exact keeps_pure
  | ok done => exact keeps_read.bind fun _ => keeps_pure

theorem revokeIdle_keeps (revocation : IdleRevocation) (tokenHash : String) (session : SessionRow) :
    (revokeIdle revocation tokenHash session).Keeps factsRules :=
  (take_keeps _).bind fun _ => (take_keeps _).bind fun _ => take_keeps _

theorem isFormalMember_keeps (workspaceId account : String) : (isFormalMember workspaceId account).Keeps factsRules := by
  refine keeps_read.bind fun found => ?_
  cases found with
  | none => exact keeps_pure
  | some workspace =>
    dsimp only
    split
    · exact keeps_pure
    · refine keeps_read.bind fun view => ?_
      split
      · exact keeps_read.bind fun _ => keeps_pure
      · exact keeps_pure

theorem inScope_keeps (scope : Scope) (account : String) : (inScope scope account).Keeps factsRules := by
  cases scope with
  | platform => exact keeps_pure
  | workspace id => exact isFormalMember_keeps id account

theorem grantedCapabilities_keeps (account : String) (grants : List Grant) (values : List ScopedCapability) :
    (grantedCapabilities account grants values).Keeps factsRules := by
  induction grants generalizing values with
  | nil => exact keeps_pure
  | cons grant rest ih =>
    unfold grantedCapabilities
    split
    · exact ih values
    · exact (inScope_keeps _ account).bind fun _ => ih _

theorem principalCapabilities_keeps (account : String) (isSuperAdmin : Bool) :
    (principalCapabilities account isSuperAdmin).Keeps factsRules :=
  keeps_read.bind fun _ => keeps_read.bind fun _ => (grantedCapabilities_keeps account _ _).bind fun _ => keeps_pure

theorem matchingGrant_keeps (account capability : String) (scope : Scope) :
    (matchingGrant account capability scope).Keeps factsRules :=
  keeps_read.bind fun _ => keeps_read.bind fun _ => keeps_pure

-- A decision that names a principal names the session and the version it was given.
def Decides (session : SessionPrincipal) (state : PrincipalVersion) (decision : AuthorizationDecision) : Prop :=
  ∀ principal, decision.principal = some principal → ∃ capabilities, principal = principalOf session state capabilities

theorem refusal_decides (code : DecisionCode) : Decides session state (refusal code) := fun _ absurd => by cases absurd

theorem refused_yields {code : DecisionCode} :
    Yields factsRules strict seen (pure (refusal code) : Call Estate DecisionError AuthorizationDecision) s fun decision t =>
      FactsLater s t ∧ Decides session state decision :=
  yields_pure fun _ _ later _ => ⟨later,refusal_decides code⟩

theorem allowWith_yields (session : SessionPrincipal) (state : PrincipalVersion) :
    Yields factsRules strict seen (allowWith session state) s fun decision t =>
      FactsLater s t ∧ Decides session state decision := by
  refine Yields.attempt ((principalCapabilities_keeps _ _).yields.weaken fun capabilities one _ _ _ first => ?_)
    fun error one _ first _ => ?_
  · refine yields_pure fun _ _ last _ => ⟨FactsLater.trans first last,fun principal named => ?_⟩
    cases named
    exact ⟨capabilities,rfl⟩
  · exact refused_yields.weaken fun _ _ _ _ _ kept => ⟨FactsLater.trans first kept.1,kept.2⟩

theorem decideCapability_yields (session : SessionPrincipal) (state : PrincipalVersion) (capability : String) (scope : Scope) :
    Yields factsRules strict seen (decideCapability session state capability scope) s fun decision t =>
      FactsLater s t ∧ Decides session state decision := by
  have on {one two : Estate} {decision : AuthorizationDecision} (first : FactsLater s one)
      (kept : FactsLater one two ∧ Decides session state decision) : FactsLater s two ∧ Decides session state decision :=
    ⟨first.trans kept.1,kept.2⟩
  unfold decideCapability
  split
  · exact allowWith_yields session state
  split
  · exact refused_yields
  refine Yields.bind ((matchingGrant_keeps _ _ _).yields.weaken fun found one _ _ _ first => ?_)
  cases found with
  | false => exact refused_yields.weaken fun _ _ _ _ _ kept => on first kept
  | true =>
    refine Yields.attempt ((inScope_keeps _ _).yields.weaken fun member two _ _ _ second => ?_)
      fun error two _ second _ => refused_yields.weaken fun _ _ _ _ _ kept => on (first.trans second) kept
    cases member with
    | false => exact refused_yields.weaken fun _ _ _ _ _ kept => on (FactsLater.trans first second) kept
    | true => exact (allowWith_yields session state).weaken fun _ _ _ _ _ kept => on (FactsLater.trans first second) kept

-- An instant of the call in which the account had the version and the facts of the session.
def Stood (seen : Estate → Prop) (session : SessionPrincipal) (state : PrincipalVersion) (t : Estate) : Prop :=
  ∃ instant row, seen instant ∧ FactsLater instant t ∧ instant.ledger.principal session.accountId = some row ∧
    row.version = state.version ∧ instant.facts session.accountId = some ⟨true,session.isSuperAdmin⟩

theorem Stood.later {two : Estate} (stood : Stood seen session state t) (moved : FactsLater t two) :
    Stood seen session state two := by
  obtain ⟨instant,row,there,later,found,same,known⟩ := stood
  exact ⟨instant,row,there,FactsLater.trans later moved,found,same,known⟩

-- What a full session is validated with are the facts of its account.
theorem validateSession_facts (valid : validateSession tokenHash s = .valid session) (full : session.sessionKind = .full) :
    s.facts session.accountId = some ⟨true,session.isSuperAdmin⟩ := by
  unfold validateSession at valid
  split at valid
  · cases valid
  rename_i row _
  split at valid
  · cases valid
  rename_i view detail account
  split at valid
  · cases valid
  rename_i permitted
  split at valid
  · cases valid
  cases valid
  have known : s.account row.accountId = some (view,detail) := (Option.ite_none_left_eq_some.mp account).2
  have enabled : view.status = .enabled := by
    have permitted := Bool.eq_true_of_not_eq_false permitted
    rw [show row.kind = .full from full] at permitted
    exact (of_decide_eq_true permitted).1
  simp [Estate.facts,known,AccountRow.facts,enabled]

-- The instant a call's session was validated in.
def Validated (seen : Estate → Prop) (session : SessionPrincipal) (instant t : Estate) : Prop :=
  seen instant ∧ FactsLater instant t ∧ instant.facts session.accountId = some ⟨true,session.isSuperAdmin⟩

theorem validate_yields (tokenHash : String) (revocation : IdleRevocation) :
    Yields factsRules strict seen (validate tokenHash revocation) s fun found t =>
      ∀ session instant, found = some (session,instant) → session.sessionKind = .full → Validated seen session instant t := by
  refine yields_read fun one _ _ there => ?_
  cases found : validateSession tokenHash one with
  | valid principal =>
    refine Yields.bind (reconcilePending_keeps.yields.weaken fun _ two _ _ _ first => ?_)
    refine yields_pure fun t _ last _ session instant same full => ?_
    cases same
    exact ⟨there,FactsLater.trans first last,validateSession_facts found full⟩
  | invalid =>
    refine Yields.bind (reconcilePending_keeps.yields.weaken fun _ _ _ _ _ _ => ?_)
    exact yields_pure fun _ _ _ _ _ _ absurd => by cases absurd
  | idle session =>
    refine Yields.attempt ((revokeIdle_keeps revocation tokenHash session).yields.weaken fun _ _ _ _ _ _ => ?_) fun _ _ _ _ _ => ?_
    · refine Yields.bind ((take_keeps _).attempt.yields.weaken fun _ _ _ _ _ _ => ?_)
      refine Yields.bind (reconcilePending_keeps.yields.weaken fun _ _ _ _ _ _ => ?_)
      exact yields_pure fun _ _ _ _ _ _ absurd => by cases absurd
    · refine Yields.bind (reconcilePending_keeps.yields.weaken fun _ _ _ _ _ _ => ?_)
      exact fun _ _ _ _ _ absurd => by cases absurd

-- A clean version that is still the one of the validation stood then; otherwise nothing
-- has changed the facts since, and it stands now.
theorem Validated.stood (validated : Validated seen session instant s) (there : seen s)
    (steady : steadySince session.accountId instant s = true) (found : s.ledger.principal session.accountId = some state)
    (clean : state.dirtyGeneration = none) : Stood seen session state s := by
  obtain ⟨early,later,known⟩ := validated
  unfold steadySince at steady
  rw [found] at steady
  simp only [clean,Option.isSome_none,Bool.false_eq_true,false_or,decide_eq_true_eq] at steady
  rcases steady with same | unchanged
  · obtain ⟨row,before,version⟩ := Option.map_eq_some_iff.mp same
    exact ⟨instant,row,early,later,before,version,known⟩
  · rcases later.changes.facts _ _ known with still | changed
    · exact ⟨s,state,there,FactsLater.refl s,found,rfl,still⟩
    · rw [unchanged] at changed
      cases changed

theorem currentVersion_yields (validated : Validated seen session instant s) :
    Yields factsRules true seen (currentVersion session.accountId instant) s fun found t =>
      ∀ state, found = some state → Stood seen session state t := by
  obtain ⟨early,later,known⟩ := validated
  refine yields_readRelying fun one _ first there relied => ?_
  have here : Validated seen session instant one := ⟨early,FactsLater.trans later first,known⟩
  cases found : one.ledger.principal session.accountId with
  | none => exact yields_pure fun _ _ _ _ _ absurd => by cases absurd
  | some state =>
    dsimp only
    split
    · rename_i clean
      refine yields_pure fun t _ last _ other same => ?_
      cases same
      exact (here.stood there (relied rfl) found clean).later last
    · rename_i dirty
      refine Yields.bind ((reconcileForAccount_keeps _).yields.weaken fun reconciled two _ second _ _ => ?_)
      cases reconciled with
      | false => exact yields_pure fun _ _ _ _ _ absurd => by cases absurd
      | true =>
        refine yields_readRelying fun three _ third again relied => yields_pure fun t _ last _ other same => ?_
        obtain ⟨clean,same⟩ := Option.ite_none_right_eq_some.mp same
        have here : Validated seen session instant three :=
          ⟨early,FactsLater.trans here.2.1 (FactsLater.trans second third),known⟩
        cases reread : three.ledger.principal session.accountId with
        | none =>
          rw [reread] at clean
          exact absurd clean dirty
        | some last' =>
          rw [reread] at clean same
          cases same
          exact (here.stood again (relied rfl) reread clean).later last

-- The facts of a principal held in an instant in which its version did.
def Truthful (instants : List Estate) (principal : AuthorizationPrincipal) : Prop :=
  ∃ instant ∈ instants,
    (instant.ledger.principal principal.accountId).map (·.version) = some principal.authorizationVersion ∧
    instant.facts principal.accountId = some ⟨true,principal.isSuperAdmin⟩

theorem resolved_yields {decide : SessionPrincipal → PrincipalVersion → Call Estate DecisionError AuthorizationDecision}
    (decides : ∀ session state s, Yields factsRules true seen (decide session state) s fun decision t =>
      FactsLater s t ∧ Decides session state decision) :
    Yields factsRules true seen (resolved tokenHash revocation decide) s fun decision t =>
      ∀ principal, decision.principal = some principal →
        ∃ session state capabilities, principal = principalOf session state capabilities ∧ Stood seen session state t := by
  have refused {code : DecisionCode} {one : Estate} :
      Yields factsRules true seen (pure (refusal code) : Call Estate DecisionError AuthorizationDecision) one
        fun decision t => ∀ principal, decision.principal = some principal →
          ∃ session state capabilities, principal = principalOf session state capabilities ∧ Stood seen session state t :=
    yields_pure fun _ _ _ _ _ absurd => by cases absurd
  refine Yields.attempt ((validate_yields _ _).weaken fun found one _ _ _ validated => ?_) fun _ _ _ _ _ => refused
  cases found with
  | none => exact refused
  | some found =>
    obtain ⟨session,instant⟩ := found
    dsimp only
    split
    · exact refused
    rename_i full
    have validated := validated session instant rfl (not_not.mp full)
    refine Yields.bind ((currentVersion_yields validated).weaken fun version two _ _ _ stood => ?_)
    cases version with
    | none => exact refused
    | some state =>
      refine (decides session state two).weaken fun decision t _ _ _ kept principal named => ?_
      obtain ⟨moved,decides⟩ := kept
      obtain ⟨capabilities,same⟩ := decides principal named
      exact ⟨session,state,capabilities,same,(stood state rfl).later moved⟩

-- One request for a principal, as it comes in.
inductive PrincipalRequest where
  | authorize (tokenHash capability : String) (scope : Scope) (revocation : IdleRevocation)
  | resolvePrincipal (tokenHash : String) (revocation : IdleRevocation)

def PrincipalRequest.decision : PrincipalRequest → Call Estate DecisionError AuthorizationDecision
  | .authorize tokenHash capability scope revocation => Authorization.authorize tokenHash capability scope revocation
  | .resolvePrincipal tokenHash revocation => Authorization.resolvePrincipal tokenHash revocation

theorem decision_yields (request : PrincipalRequest) :
    Yields factsRules true seen request.decision s fun decision t => ∀ principal, decision.principal = some principal →
      ∃ session state capabilities, principal = principalOf session state capabilities ∧ Stood seen session state t := by
  cases request with
  | authorize tokenHash capability scope revocation =>
    exact resolved_yields fun session state _ => decideCapability_yields session state capability scope
  | resolvePrincipal tokenHash revocation => exact resolved_yields fun session state _ => allowWith_yields session state

-- Whoever still has the principal is accepted only while its facts hold.
theorem principalHasCapability_ensures (principal : AuthorizationPrincipal) (capability : String) (scope : Scope)
    {before : Estate} (earlier : FactsLater before s) (found : before.ledger.principal principal.accountId = some row)
    (version : row.version = principal.authorizationVersion) (known : before.facts principal.accountId = some facts) :
    Yields factsRules strict seen (principalHasCapability principal capability scope) s fun _ _ =>
      s.facts principal.accountId = some facts := by
  refine yields_read fun one valid later _ => ?_
  cases again : one.ledger.principal principal.accountId with
  | none => exact fun _ _ _ _ => raised_yields
  | some state =>
    dsimp only
    split
    · exact fun _ _ _ _ => raised_yields
    rename_i current
    obtain ⟨clean,same⟩ := not_or.mp current
    have steady : s.facts principal.accountId = some facts :=
      clean_facts earlier later valid found known again ((not_not.mp same).trans version.symm) (not_not.mp clean)
    split
    · exact yields_pure fun _ _ _ _ => steady
    split
    · exact yields_pure fun _ _ _ _ => steady
    refine Yields.bind ((matchingGrant_keeps _ _ _).yields.weaken fun found two _ _ _ _ => ?_)
    cases found with
    | false => exact yields_pure fun _ _ _ _ => steady
    | true => exact (inScope_keeps _ _).yields.weaken fun _ _ _ _ _ _ => steady

-- Once its facts are others, no call answers for the principal.
def Revocable (last : Estate) (principal : AuthorizationPrincipal) : Prop :=
  ∀ labels final, Runs (Enabled estateStep) last labels final →
    final.facts principal.accountId ≠ some ⟨true,principal.isSuperAdmin⟩ → ∀ capability scope instants answer returned,
      ¬Executes (Enabled estateStep) false (principalHasCapability principal capability scope) final instants (.ok answer)
        returned

theorem estate_preserves : Preserves (Enabled estateStep) Estate.Valid :=
  fun _ _ _ valid taken => (estate_step valid taken).1

theorem runs_facts (valid : s.Valid) (path : Runs (Enabled estateStep) s labels t) : FactsLater s t :=
  path.relation estate_preserves FactsLater.refl (fun _ _ _ => FactsLater.trans) (fun _ _ _ => estate_facts) valid

theorem stale_privilege {s last : Estate} {request : PrincipalRequest}
    (path : Runs (Enabled estateStep) (estateInitial clock sessionIdleTimeout) labels s)
    (executed : Executes (Enabled estateStep) true request.decision s instants (.ok decision) last)
    (named : decision.principal = some principal) : Truthful instants principal ∧ Revocable last principal := by
  obtain ⟨stored,_,stood⟩ := executed.yielded facts_follow (estate_reached path) (fun _ member => member)
    (decision_yields request)
  obtain ⟨session,state,capabilities,rfl,instant,row,present,later,found,version,known⟩ := stood principal named
  refine ⟨⟨instant,present,Option.map_eq_some_iff.mpr ⟨row,found,version⟩,known⟩,fun labels final moved changed capability scope _ answer _ asked => ?_⟩
  have valid : final.Valid := moved.invariant estate_preserves stored
  have after := runs_facts stored moved
  obtain ⟨_,_,holds⟩ := asked.yielded facts_follow valid (fun _ member => member)
    (principalHasCapability_ensures _ capability scope (FactsLater.trans later after) found version known)
  exact changed holds

def rootSource (key : String) (named : blank key = false) : SecurityChangeSource :=
  ⟨"identity","root","super_admin",key,some key,none,none,⟨rfl,rfl,rfl,named⟩,rfl,rfl⟩

-- One identity transaction about one account, from the fence that it raises to its convergence.
def identityTransaction (source : SecurityChangeSource) (workId : Uuid) (row : AccountRow)
    (sessions : List (String × SessionRow)) : List EstateLabel :=
  [.govern (.security (.start source.idempotencyKey) 0),
    .govern (.security (.begin (identityChange source row.id) workId 0) 0),
    .identity ⟨source.idempotencyKey,[row],sessions⟩,.govern (.security (.reconcile workId {} 0) 0)]

def adminRow (isSuperAdmin : Bool) : AccountRow :=
  (⟨"alice","1","Alice",.enabled,true⟩,⟨none,some 1,some 1,isSuperAdmin,2⟩)

def adminSession : SessionRow := ⟨"session","alice",.full,none,10,false⟩

def promotion : List EstateLabel :=
  identityTransaction (rootSource "1" rfl) 1 (adminRow true) [("token",adminSession)]

def removal : List EstateLabel :=
  identityTransaction (rootSource "2" rfl) 2 (adminRow false) [("token",{adminSession with revoked := true})]

def adminRequest : PrincipalRequest := .resolvePrincipal "token" ⟨rootSource "3" rfl,"3",3⟩

-- The removal converges between the session's validation and the read of the version.
def staleSchedule : List (Option EstateLabel) :=
  promotion.map some ++ [none,none,none] ++ removal.map some ++ [none,none,none]

def stalePrincipal : AuthorizationPrincipal :=
  ⟨"alice","1","Alice",true,3,(sorted superAdminPlatformCapabilities).map (⟨·,.platform⟩)⟩

def staleCall : Except DecisionError AuthorizationDecision × List Estate × Estate :=
  (perform estateStep false staleSchedule adminRequest.decision (estateInitial 10 30)).get (by decide +kernel)

def staleUse : Except DecisionError Bool × List Estate × Estate :=
  (perform estateStep false [none] (principalHasCapability stalePrincipal platformSuperAdminManage .platform)
    staleCall.2.2).get (by decide +kernel)

-- She is no Super Admin in any instant of version 3, from the very first on.
theorem stale_principal_accepted : ∃ instants decision last, decision.principal = some stalePrincipal ∧
    Executes (Enabled estateStep) false adminRequest.decision (estateInitial 10 30) instants (.ok decision) last ∧
    ¬Truthful instants stalePrincipal ∧ last.facts "alice" = some ⟨true,false⟩ ∧
    ∃ asked returned, Executes (Enabled estateStep) false
      (principalHasCapability stalePrincipal platformSuperAdminManage .platform) last asked (.ok true) returned := by
  have executed : Executes (Enabled estateStep) false adminRequest.decision (estateInitial 10 30) staleCall.2.1 staleCall.1
      staleCall.2.2 := perform_get (by decide +kernel)
  have asked : Executes (Enabled estateStep) false
      (principalHasCapability stalePrincipal platformSuperAdminManage .platform) staleCall.2.2 staleUse.2.1 staleUse.1
      staleUse.2.2 := perform_get (by decide +kernel)
  have answered : staleCall.1.toOption.bind (·.principal) = some stalePrincipal := by decide +kernel
  have accepted : staleUse.1.toOption = some true := by decide +kernel
  have untruthful : ¬Truthful staleCall.2.1 stalePrincipal := by
    unfold Truthful
    decide +kernel
  have removed : staleCall.2.2.facts "alice" = some ⟨true,false⟩ := by decide +kernel
  obtain ⟨decision,outcome,named⟩ := Option.bind_eq_some_iff.mp answered
  rw [toOption_some.mp outcome] at executed
  rw [toOption_some.mp accepted] at asked
  exact ⟨_,decision,_,named,executed,untruthful,removed,_,_,asked⟩

def adminSpace : Estate := (execute estateStep (estateInitial 10 30) promotion).get (by decide +kernel)

def freshPrincipal : AuthorizationPrincipal := {stalePrincipal with authorizationVersion := 2}

def freshCall : Except DecisionError AuthorizationDecision × List Estate × Estate :=
  (perform estateStep true (List.replicate 6 none) adminRequest.decision adminSpace).get (by decide +kernel)

theorem stale_privilege_admin : Truthful freshCall.2.1 freshPrincipal ∧ Revocable freshCall.2.2 freshPrincipal := by
  have path : Runs (Enabled estateStep) (estateInitial 10 30) promotion adminSpace := execute_get (by decide +kernel)
  have executed : Executes (Enabled estateStep) true adminRequest.decision adminSpace freshCall.2.1 freshCall.1
      freshCall.2.2 := perform_get (by decide +kernel)
  have answered : freshCall.1.toOption.bind (·.principal) = some freshPrincipal := by decide +kernel
  obtain ⟨decision,outcome,named⟩ := Option.bind_eq_some_iff.mp answered
  rw [toOption_some.mp outcome] at executed
  exact stale_privilege path executed named

end EngineeringPlatform.Authorization
