import EngineeringPlatform.FormalAssignments
import Mathlib.Data.List.Find
-- The latest observation of a binding against what the last commit proved of it.
namespace EngineeringPlatform.FormalDelivery
open Checked KeyedRows RowLocks TransitionRuns
open Integration (GitLabMergeRequestSnapshot MergeRequestBinding MergeRequestObservation newerObservation)

def FormalCommit.snapshot : FormalCommit → GitLabMergeRequestSnapshot
  | .create commit => commit.snapshot
  | .merge commit => commit.snapshot

def FormalCommit.observationId : FormalCommit → Uuid
  | .create commit => commit.observationId
  | .merge commit => commit.observationId

def FormalCommit.now : FormalCommit → Time
  | .create commit => commit.lease.now
  | .merge commit => commit.lease.now

-- The binding a commit is about, as the store has it.
def FormalCommit.bindingIn (s : FormalStore) : FormalCommit → Uuid
  | .create commit => ((s.formalBindingByWorkItem commit.admission.workItemId).map (·.id)).getD commit.bindingId
  | .merge commit => commit.bindingId

structure Shows (digest : Digest) (row : MergeRequestObservation) (snapshot : GitLabMergeRequestSnapshot) : Prop where
  headSha : row.headSha = snapshot.headSha
  state : row.state = snapshot.state
  mergeCommitSha : row.mergeCommitSha = snapshot.mergeCommitSha
  mergeUserId : row.externalMergeUserId = snapshot.mergeUserId
  mergedAt : row.mergedAt = snapshot.mergedAt
  observationDigest : row.observationDigest = observationDigest digest snapshot

def LatestShows (digest : Digest) (s : FormalStore) (bindingId : Uuid) (snapshot : GitLabMergeRequestSnapshot) : Prop :=
  ∃ row, s.latestMergeRequestObservation bindingId = some row ∧ Shows digest row snapshot

-- The latest observation shows the snapshot already, or else the snapshot is new to the
-- binding and is observed after everything the binding has.
def Proves (digest : Digest) (s : FormalStore) (commit : FormalCommit) : Prop :=
  LatestShows digest s (commit.bindingIn s) commit.snapshot ∨
    ¬Seen s (commit.bindingIn s) (observationDigest digest commit.snapshot) ∧
      ∀ row ∈ s.observationsOf (commit.bindingIn s),
        row.observedAt < commit.now ∨ row.observedAt = commit.now ∧ row.id < commit.observationId

structure ObservationsValid (s : FormalStore) : Prop where
  workItems : Unique MergeRequestBinding.workItemId s.bindings
  current : ∀ row ∈ s.bindings, row.supersededAt = none
  ids : Unique MergeRequestObservation.id s.observations

-- What a commit does to the observations.
structure Appends (digest : Digest) (commit : FormalCommit) (s next : FormalStore) : Prop where
  observations : Seen s (commit.bindingIn s) (observationDigest digest commit.snapshot) ∧ next.observations = s.observations ∨
    ¬Seen s (commit.bindingIn s) (observationDigest digest commit.snapshot) ∧ (∀ row ∈ s.observations, row.id ≠ commit.observationId) ∧
      next.observations = s.observations ++
        [observationRow digest commit.observationId (commit.bindingIn s) commit.snapshot commit.now]

theorem newer_trans (first : newerObservation one two = true) (second : newerObservation two three = true) :
    newerObservation one three = true := by
  unfold newerObservation at *
  simp only [decide_eq_true_eq] at *
  rcases first with first | ⟨same,first⟩
  · rcases second with second | ⟨same,_⟩
    · exact .inl (Nat.lt_trans second first)
    · exact .inl (same ▸ first)
  · rcases second with second | ⟨same',second⟩
    · exact .inl (same ▸ second)
    · exact .inr ⟨same.trans same',Nat.lt_trans second first⟩

theorem newer_total (differs : one.id ≠ two.id) : newerObservation one two = true ∨ newerObservation two one = true := by
  unfold newerObservation
  simp only [decide_eq_true_eq]
  rcases Nat.lt_trichotomy one.observedAt two.observedAt with before | same | after
  · exact .inr (.inl before)
  · rcases Nat.lt_or_gt_of_ne differs with low | high
    · exact .inr (.inr ⟨same.symm,low⟩)
    · exact .inl (.inr ⟨same,high⟩)
  · exact .inl (.inl after)

theorem newer_ranking {rows : List MergeRequestObservation} (ids : Unique MergeRequestObservation.id rows) :
    RankedRows.Ranking newerObservation rows := by
  refine ⟨fun row => by simp [newerObservation],fun _ _ _ => newer_trans,fun one first two second differs => ?_⟩
  refine newer_total fun same => differs (Option.some.inj ?_)
  exact (find_of_mem ids first).symm.trans (same ▸ find_of_mem ids second)

variable {s next : FormalStore}

theorem observationsOf_ranking (valid : ObservationsValid s) (bindingId : Uuid) :
    RankedRows.Ranking newerObservation (s.observationsOf bindingId) :=
  (newer_ranking valid.ids).sublist List.filter_sublist

theorem observationsOf_same (same : next.observations = s.observations) (bindingId : Uuid) :
    next.observationsOf bindingId = s.observationsOf bindingId := by
  unfold FormalStore.observationsOf
  rw [same]

theorem latest_same (same : next.observationsOf bindingId = s.observationsOf bindingId) :
    next.latestMergeRequestObservation bindingId = s.latestMergeRequestObservation bindingId :=
  congrArg (RankedRows.top newerObservation) same

theorem observationsOf_append (appended : next.observations = s.observations ++ [row])
    (bindingId : Uuid) :
    next.observationsOf bindingId = if row.bindingId = bindingId then s.observationsOf bindingId ++ [row] else s.observationsOf bindingId := by
  unfold FormalStore.observationsOf
  rw [appended]
  by_cases here : row.bindingId = bindingId
  · simp [here]
  · simp [here]

-- Of rows and one more, the one more comes first when it is newer than each, and else
-- what came first before.
theorem top_append {rows : List MergeRequestObservation} (ranking : RankedRows.Ranking newerObservation (rows ++ [row]))
    (fresh : row ∉ rows) :
    RankedRows.top newerObservation (rows ++ [row]) = some row ↔ ∀ other ∈ rows, newerObservation row other = true := by
  constructor
  · intro first other member
    have older := RankedRows.top_first ranking first other (List.mem_append_left _ member)
    have differs : row ≠ other := fun same => fresh (same ▸ member)
    rcases ranking.total row (by simp) other (List.mem_append_left _ member) differs with newer | newer
    · exact newer
    · simp [older] at newer
  · intro newest
    cases found : RankedRows.top newerObservation (rows ++ [row]) with
    | none => simp [RankedRows.top_none] at found
    | some best =>
      rcases List.mem_append.mp (RankedRows.top_mem found) with old | new
      · have first := RankedRows.top_first ranking found row (by simp)
        simp [newest best old] at first
      · exact congrArg some (List.mem_singleton.mp new)

-- The row that is appended for a commit.
def FormalCommit.row (digest : Digest) (s : FormalStore) (commit : FormalCommit) : MergeRequestObservation :=
  observationRow digest commit.observationId (commit.bindingIn s) commit.snapshot commit.now

theorem row_newest {commit : FormalCommit} {other : MergeRequestObservation} :
    newerObservation (commit.row digest s) other = true ↔
      other.observedAt < commit.now ∨ other.observedAt = commit.now ∧ other.id < commit.observationId := by
  unfold newerObservation
  rw [decide_eq_true_eq,eq_comm]
  rfl

theorem seen_of_shows (member : row ∈ s.observationsOf bindingId) (shows : Shows digest row snapshot) :
    Seen s bindingId (observationDigest digest snapshot) := by
  obtain ⟨stored,here⟩ := List.mem_filter.mp member
  exact ⟨row,stored,of_decide_eq_true here,shows.observationDigest⟩

-- After a commit the latest observation shows what was proved exactly when the commit
-- came upon a store that lets it.
theorem latest_iff (after : ObservationsValid next)
    (appends : Appends digest commit s next) :
    LatestShows digest next (commit.bindingIn s) commit.snapshot ↔ Proves digest s commit := by
  rcases appends.observations with ⟨seen,same⟩ | ⟨unseen,fresh,appended⟩
  · have latest := latest_same (observationsOf_same same (commit.bindingIn s))
    unfold LatestShows Proves
    rw [latest]
    exact ⟨.inl,fun proves => proves.elim id fun new => absurd seen new.1⟩
  · have rows : next.observationsOf (commit.bindingIn s) = s.observationsOf (commit.bindingIn s) ++ [commit.row digest s] :=
      (observationsOf_append appended _).trans (if_pos rfl)
    have ranking := rows ▸ observationsOf_ranking after (commit.bindingIn s)
    have new : commit.row digest s ∉ s.observationsOf (commit.bindingIn s) :=
      fun old => fresh _ (List.mem_of_mem_filter old) rfl
    have first := top_append ranking new
    constructor
    · rintro ⟨best,latest,shows⟩
      rw [FormalStore.latestMergeRequestObservation,rows] at latest
      rcases List.mem_append.mp (RankedRows.top_mem latest) with old | last
      · exact absurd (seen_of_shows old shows) unseen
      · cases List.mem_singleton.mp last
        exact .inr ⟨unseen,fun other member => row_newest.mp (first.mp latest other member)⟩
    · rintro (⟨best,latest,shows⟩ | ⟨_,newest⟩)
      · exact absurd (seen_of_shows (RankedRows.top_mem latest) shows) unseen
      · refine ⟨commit.row digest s,?_,⟨rfl,rfl,rfl,rfl,rfl,rfl⟩⟩
        rw [FormalStore.latestMergeRequestObservation,rows]
        exact first.mpr fun other member => row_newest.mpr (newest other member)

-- The other bindings keep their observations.
theorem Appends.others (appends : Appends digest commit s next) (differs : bindingId ≠ commit.bindingIn s) :
    next.observationsOf bindingId = s.observationsOf bindingId := by
  rcases appends.observations with ⟨_,same⟩ | ⟨_,_,appended⟩
  · exact observationsOf_same same bindingId
  · exact (observationsOf_append appended _).trans (if_neg differs.symm)

theorem Appends.unique (appends : Appends digest commit s next)
    (ids : Unique MergeRequestObservation.id s.observations) : Unique MergeRequestObservation.id next.observations := by
  rcases appends.observations with ⟨_,same⟩ | ⟨_,fresh,appended⟩
  · exact same ▸ ids
  · rw [appended]
    exact unique_insert ids (List.find?_eq_none.mpr fun row member same => fresh row member (of_decide_eq_true same))

theorem observed_appends {noted : FormalStore} {id bindingId : Uuid}
    (observing : observed digest id bindingId snapshot now s = .ok (noted,observation))
    (last : next.observations = noted.observations) :
    Seen s bindingId (observationDigest digest snapshot) ∧ next.observations = s.observations ∨
      ¬Seen s bindingId (observationDigest digest snapshot) ∧ (∀ row ∈ s.observations, row.id ≠ id) ∧
        next.observations = s.observations ++ [observationRow digest id bindingId snapshot now] := by
  obtain ⟨_,_,outcome⟩ := observed_ok observing
  rw [last]
  exact outcome

-- A binding that was found is still the one of its work item, for none is superseded.
theorem formalBinding_found (valid : ObservationsValid s) (member : binding ∈ s.bindings)
    (here : binding.workItemId = workItemId) : s.formalBindingByWorkItem workItemId = some binding := by
  have found := find_of_mem valid.workItems member
  rw [here] at found
  refine Eq.trans (List.find?_congr fun row there => ?_) found
  simp [valid.current row there]

theorem formalBinding_none
    (absent : ∀ other ∈ s.bindings, other.supersededAt = none → other.workItemId ≠ workItemId) :
    s.formalBindingByWorkItem workItemId = none :=
  List.find?_eq_none.mpr fun row member chosen =>
    absent row member (of_decide_eq_true chosen).2 (of_decide_eq_true chosen).1

-- What a transaction has read of its binding still stands.
def Bound (workItemId : Uuid) (found : Option MergeRequestBinding) (s : FormalStore) : Prop :=
  ∀ binding, found = some binding → binding ∈ s.bindings ∧ binding.workItemId = workItemId

theorem ObservationsValid.bind (valid : ObservationsValid s)
    (fresh : ∀ other ∈ s.bindings, other.supersededAt = none → other.workItemId ≠ row.workItemId)
    (current : row.supersededAt = none) : ObservationsValid {s with bindings := s.bindings ++ [row]} := by
  refine ⟨unique_insert valid.workItems (List.find?_eq_none.mpr fun other member same => ?_),fun other member => ?_,valid.ids⟩
  · exact fresh other member (valid.current other member) (of_decide_eq_true same)
  · rcases List.mem_append.mp member with old | new
    · exact valid.current other old
    · cases List.mem_singleton.mp new
      exact current

theorem commitCreate_appends (valid : ObservationsValid s)
    (read : Bound commit.admission.workItemId found s) (ran : commitCreate digest commit found current s = .ok (next,facts)) :
    ObservationsValid next ∧ (∀ row ∈ s.bindings, row ∈ next.bindings) ∧
      facts.bindingId = (FormalCommit.create commit).bindingIn s ∧ Appends digest (.create commit) s next := by
  obtain ⟨bound,binding,noted,_,_,_,ensured,same,bindings,observing,last,_⟩ := commitCreate_ok ran
  obtain ⟨id,kept,_⟩ := ensureBinding_keeps ensured
  obtain ⟨stored,grown,here⟩ : ObservationsValid bound ∧ (∀ row ∈ s.bindings, row ∈ bound.bindings) ∧
      binding.id = (FormalCommit.create commit).bindingIn s := by
    rcases ensureBinding_ok ensured with ⟨rfl,rfl⟩ | ⟨rfl,rfl,absent,rfl⟩
    · obtain ⟨member,here⟩ := read binding rfl
      refine ⟨valid,fun _ member => member,?_⟩
      simp [FormalCommit.bindingIn,formalBinding_found valid member here]
    · refine ⟨valid.bind absent rfl,fun _ member => List.mem_append_left _ member,?_⟩
      simp [FormalCommit.bindingIn,formalBinding_none absent,formalBinding]
  have outcome := observed_appends observing last
  rw [Seen,kept,here] at outcome
  have appends : Appends digest (.create commit) s next := ⟨outcome⟩
  refine ⟨⟨bindings ▸ stored.workItems,bindings ▸ stored.current,appends.unique valid.ids⟩,bindings ▸ grown,same.trans here,appends⟩

theorem commitMerge_appends (valid : ObservationsValid s)
    (ran : commitMerge digest commit s = .ok (next,facts)) :
    ObservationsValid next ∧ (∀ row ∈ s.bindings, row ∈ next.bindings) ∧
      facts.bindingId = (FormalCommit.merge commit).bindingIn s ∧ Appends digest (.merge commit) s next := by
  obtain ⟨same,noted,_,observing,bindings,last,_⟩ := commitMerge_ok ran
  have kept := bindings.trans (observed_ok observing).1
  have appends : Appends digest (.merge commit) s next := ⟨observed_appends observing last⟩
  exact ⟨⟨kept ▸ valid.workItems,kept ▸ valid.current,appends.unique valid.ids⟩,fun _ member => kept ▸ member,same,appends⟩

def observationRules (digest : Digest) : Rules FormalStore Uuid FormalCommit FormalFacts where
  valid := ObservationsValid
  rely _ s next := ∀ row ∈ s.bindings, row ∈ next.bindings
  commits commit s next facts := facts.bindingId = commit.bindingIn s ∧ Appends digest commit s next
  refl _ _ _ member := member
  trans _ _ _ _ first second row member := second row (first row member)

theorem createTransaction_appends (digest : Digest) (commit : CommitCreate) (s : FormalStore) :
    (observationRules digest).Sound (.create commit) (fun _ => False) s (createTransaction digest commit) := by
  refine Rules.sound_see (observationRules digest) fun looked valid _ => ?_
  have read : Bound commit.admission.workItemId (looked.formalBindingByWorkItem commit.admission.workItemId) looked := by
    intro binding found
    have chosen := List.find?_some found
    exact ⟨List.mem_of_find?_eq_some found,(of_decide_eq_true chosen).1⟩
  have sound {before : FormalStore} {holds : Uuid → Prop} {current : Option FormalReviewAssignment}
      (kept : ∀ row ∈ looked.bindings, row ∈ before.bindings) :
      (observationRules digest).Sound (.create commit) holds before
        (.finish (commitCreate digest commit (looked.formalBindingByWorkItem commit.admission.workItemId) current)) := by
    intro now next result valid relied ran
    obtain ⟨done,grown,same,appends⟩ := commitCreate_appends valid
      (fun binding found => ⟨relied _ (kept _ (read binding found).1),(read binding found).2⟩) ran
    exact ⟨done,⟨same,appends⟩,fun _ _ => grown⟩
  intro reading _ relied
  cases found : reading.currentFormalReviewAssignment
      (((looked.formalBindingByWorkItem commit.admission.workItemId).map (·.id)).getD commit.bindingId) with
  | none =>
    dsimp only [bind,Transaction.andThen]
    rw [found]
    exact sound relied
  | some row =>
    dsimp only [bind,Transaction.andThen]
    rw [found]
    intro waited _ first locked _ second
    exact sound fun row member => second row (first row (relied row member))

theorem observationRules_follows (digest : Digest) : (observationRules digest).Follows (formalProgram digest) := by
  refine ⟨fun request s _ => ?_,?_⟩
  · cases request with
    | create commit => exact createTransaction_appends digest commit s
    | merge commit =>
      intro now next result valid _ ran
      obtain ⟨done,grown,same,appends⟩ := commitMerge_appends valid ran
      exact ⟨done,⟨same,appends⟩,fun _ _ => grown⟩
  · intro s event next valid moved
    cases moved
    exact ⟨⟨valid.workItems,valid.current,valid.ids⟩,fun _ _ _ member => member⟩

theorem initial_observations : ObservationsValid .initial := ⟨List.nodup_nil,(fun _ absent => by cases absent),List.nodup_nil⟩

theorem observations_valid {s : FormalSystem}
    (path : Runs (Enabled (formalProgram digest).step) (.initial .initial) labels s) : (observationRules digest).Valid s :=
  (observationRules digest).runs_valid (observationRules_follows digest) path
    ((observationRules digest).initial_valid initial_observations)

theorem commits_latest {s : FormalSystem} (valid : (observationRules digest).Valid s)
    (committed : s.commits (label : Label FormalCommit Elsewhere) = some (commit,next,facts)) :
    LatestShows digest next facts.bindingId commit.snapshot ↔ Proves digest s.store commit := by
  obtain ⟨after,same,appends⟩ := (observationRules digest).commits_ok valid committed
  rw [same]
  exact latest_iff after appends

abbrev Proofs := Uuid → Option GitLabMergeRequestSnapshot

-- The snapshot that the last commit of each binding proved.
def record (proved : Proofs) : Option (FormalCommit × FormalStore × FormalFacts) → Proofs
  | some (commit,_,facts) => Function.update proved facts.bindingId (some commit.snapshot)
  | none => proved

def advanceProofs (digest : Digest) (state : FormalSystem × Proofs) (label : Label FormalCommit Elsewhere) :
    Option (FormalSystem × Proofs) :=
  ((formalProgram digest).step state.1 label).map fun next => (next,record state.2 (state.1.commits label))

def ProvesAt (digest : Digest) (state : FormalSystem × Proofs) (label : Label FormalCommit Elsewhere) : Prop :=
  ∀ commit next facts, state.1.commits label = some (commit,next,facts) → Proves digest state.1.store commit

structure Proved (digest : Digest) (state : FormalSystem × Proofs) : Prop where
  valid : (observationRules digest).Valid state.1
  latest : ∀ bindingId snapshot, state.2 bindingId = some snapshot → LatestShows digest state.1.store bindingId snapshot

theorem latest_kept (same : next.observationsOf bindingId = s.observationsOf bindingId)
    (shows : LatestShows digest s bindingId snapshot) : LatestShows digest next bindingId snapshot := by
  unfold LatestShows
  rw [latest_same same]
  exact shows

-- A commit proves the latest observation of its own binding and leaves the others'.
theorem advanceProofs_proved {state next : FormalSystem × Proofs} (proved : Proved digest state)
    (proves : ProvesAt digest state label) (taken : advanceProofs digest state label = some next) : Proved digest next := by
  obtain ⟨system,moved,rfl⟩ := Option.map_eq_some_iff.mp taken
  refine ⟨(observationRules digest).step_valid (observationRules_follows digest) proved.valid moved,?_⟩
  intro bindingId snapshot recorded
  cases committed : state.1.commits label with
  | none =>
    rw [committed] at recorded
    have before := proved.latest bindingId snapshot recorded
    rcases step_commits moved with same | ⟨_,_,some⟩ | ⟨event,_,elsewhere⟩
    · exact latest_kept (congrArg (FormalStore.observationsOf · bindingId) same) before
    · cases committed.symm.trans some
    · exact latest_kept (congrArg (FormalStore.observationsOf · bindingId) (Option.some.inj elsewhere).symm) before
  | some done =>
    obtain ⟨commit,store,facts⟩ := done
    rw [committed] at recorded
    have stored := commits_store moved committed
    obtain ⟨_,same,appends⟩ := (observationRules digest).commits_ok proved.valid committed
    by_cases here : bindingId = facts.bindingId
    · subst here
      cases Option.some.inj ((Function.update_self facts.bindingId _ _).symm.trans recorded)
      rw [stored]
      exact (commits_latest proved.valid committed).mpr (proves _ _ _ committed)
    · have before := proved.latest bindingId snapshot ((Function.update_of_ne here _ _).symm.trans recorded)
      rw [stored]
      exact latest_kept (appends.others (same ▸ here)) before

-- The latest observation of a binding shows what a commit proved exactly when the commit
-- came upon a store that lets it; when every commit does, it always shows what was proved
-- last.
theorem latest_observation_proved (digest : Digest) :
    (∀ labels (s : FormalSystem), Runs (Enabled (formalProgram digest).step) (.initial .initial) labels s →
      ∀ (label : Label FormalCommit Elsewhere) commit next facts, s.commits label = some (commit,next,facts) →
        (LatestShows digest next facts.bindingId commit.snapshot ↔ Proves digest s.store commit)) ∧
    ∀ labels (s : FormalSystem) proved,
      Runs (Guarded (ProvesAt digest) (Enabled (advanceProofs digest))) (.initial .initial,fun _ => none) labels (s,proved) →
      ∀ bindingId snapshot, proved bindingId = some snapshot → LatestShows digest s.store bindingId snapshot := by
  constructor
  · intro labels s path label commit next facts committed
    exact commits_latest (observations_valid path) committed
  · intro labels s proved path
    have initial : Proved digest (.initial .initial,fun _ => none) :=
      ⟨(observationRules digest).initial_valid initial_observations,fun _ _ absent => by cases absent⟩
    have last : Proved digest (s,proved) :=
      path.invariant (fun _ _ _ proved taken => advanceProofs_proved proved taken.1 taken.2) initial
    exact last.latest

-- Every commit of a run of two cycles at two heads brings the newest observation.
def commitsNewest (state : FormalSystem × Proofs) (label : Label FormalCommit Elsewhere) : Bool :=
  (state.1.commits label).all fun (commit,_,_) =>
    (state.1.store.observationsOf (commit.bindingIn state.1.store)).all fun row =>
      row.observationDigest ≠ observationDigest sampleDigest commit.snapshot ∧
        (row.observedAt < commit.now ∨ row.observedAt = commit.now ∧ row.id < commit.observationId)

theorem commitsNewest_proves {state : FormalSystem × Proofs} {label : Label FormalCommit Elsewhere}
    (newest : commitsNewest state label = true) : ProvesAt sampleDigest state label := by
  intro commit next facts committed
  unfold commitsNewest at newest
  rw [committed] at newest
  have each row (member : row ∈ state.1.store.observationsOf (commit.bindingIn state.1.store)) :=
    of_decide_eq_true (List.all_eq_true.mp newest row member)
  refine .inr ⟨?_,fun row member => (each row member).2⟩
  rintro ⟨row,member,here,same⟩
  exact (each row (List.mem_filter.mpr ⟨member,decide_eq_true here⟩)).1 same

theorem latest_observation_proved_sample : ∃ (s : FormalSystem) (proved : Proofs),
    Runs (Guarded (ProvesAt sampleDigest) (Enabled (advanceProofs sampleDigest))) (.initial .initial,fun _ => none)
      sampleCycles (s,proved) ∧
    proved 51 = some (sampleSnapshot "b") ∧ LatestShows sampleDigest s.store 51 (sampleSnapshot "b") := by
  have done : (execute (restrict commitsNewest (advanceProofs sampleDigest)) (.initial .initial,fun _ => none) sampleCycles).any
      (fun state => state.2 51 = some (sampleSnapshot "b")) = true := by decide +kernel
  obtain ⟨⟨s,proved⟩,ran,last⟩ := (Option.any_eq_true _ _).mp done
  have path : Runs (Guarded (ProvesAt sampleDigest) (Enabled (advanceProofs sampleDigest))) _ _ _ :=
    (restrict_runs (execute_exact.mp ran)).mono fun _ _ _ taken => ⟨commitsNewest_proves taken.1,taken.2⟩
  have last := of_decide_eq_true last
  exact ⟨s,proved,path,last,(latest_observation_proved sampleDigest).2 _ s proved path 51 _ last⟩

-- Three acceptance cycles, the last of which comes back to the head of the first.
def sampleReturn : List (Label FormalCommit Elsewhere) :=
  sampleCycles ++ sampleCommit (sampleCreate 3 "a" (some 51)) 4

def sampleReturned : FormalSystem := (execute (formalProgram sampleDigest).step (.initial .initial) sampleReturn).get (by decide)

def sampleLast : FormalCommit × FormalStore × FormalFacts :=
  (sampleReturned.commits (.advance 0 : Label FormalCommit Elsewhere)).get (by decide)

theorem latest_observation_stale :
    ¬ ∀ labels (s : FormalSystem), Runs (Enabled (formalProgram sampleDigest).step) (.initial .initial) labels s →
      ∀ (label : Label FormalCommit Elsewhere) commit next facts, s.commits label = some (commit,next,facts) →
        LatestShows sampleDigest next facts.bindingId commit.snapshot := by
  intro claim
  have path : Runs (Enabled (formalProgram sampleDigest).step) (.initial .initial) sampleReturn sampleReturned :=
    execute_get (by decide)
  have committed : sampleReturned.commits (.advance 0 : Label FormalCommit Elsewhere) = some sampleLast :=
    (Option.some_get _).symm
  obtain ⟨row,latest,shows⟩ := claim sampleReturn sampleReturned path (.advance 0) sampleLast.1 sampleLast.2.1 sampleLast.2.2 committed
  have stale : (sampleLast.2.1.latestMergeRequestObservation sampleLast.2.2.bindingId).map (·.headSha) = some "b" := by decide
  have proved : sampleLast.1.snapshot.headSha = "a" := by decide
  rw [latest] at stale
  exact absurd (((Option.some.inj stale).symm.trans shows.headSha).trans proved) (by decide)

end EngineeringPlatform.FormalDelivery
