import EngineeringPlatform.FormalCommits
import Mathlib.Data.List.Range
-- The review assignments of a binding: revisions without a gap, of which only the
-- last is current.
namespace EngineeringPlatform.FormalDelivery
open Checked KeyedRows RowLocks TransitionRuns
open Integration (MergeRequestBinding)

structure Gapless (rows : List FormalReviewAssignment) : Prop where
  revisions : rows.map FormalReviewAssignment.revision = List.range' 1 rows.length
  current : ∀ row ∈ rows, row.supersededAt = none ↔ row.revision = rows.length

structure AssignmentsValid (s : FormalStore) : Prop where
  ids : Unique FormalReviewAssignment.id s.assignments
  gapless : ∀ bindingId, Gapless (s.assignmentsOf bindingId)

-- An assignment that is there stays there, under its binding and its revision.
def Persist (s next : FormalStore) : Prop :=
  ∀ row ∈ s.assignments, ∃ later ∈ next.assignments,
    later.id = row.id ∧ later.bindingId = row.bindingId ∧ later.revision = row.revision

theorem Persist.refl (s : FormalStore) : Persist s s := fun row member => ⟨row,member,rfl,rfl,rfl⟩

theorem Persist.trans {one two three : FormalStore} (first : Persist one two) (second : Persist two three) :
    Persist one three := by
  intro row member
  obtain ⟨middle,there,id,binding,revision⟩ := first row member
  obtain ⟨later,last,id',binding',revision'⟩ := second middle there
  exact ⟨later,last,id'.trans id,binding'.trans binding,revision'.trans revision⟩

variable {rows : List FormalReviewAssignment} {s next : FormalStore}

theorem Gapless.member (gapless : Gapless rows) :
    (∃ row ∈ rows, row.revision = n) ↔ 1 ≤ n ∧ n ≤ rows.length := by
  have listed : n ∈ rows.map FormalReviewAssignment.revision ↔ 1 ≤ n ∧ n < 1 + rows.length := by
    rw [gapless.revisions,List.mem_range'_1]
  rw [List.mem_map] at listed
  rw [listed]
  omega

theorem Gapless.empty : Gapless [] := ⟨rfl,fun _ absent => by cases absent⟩

-- A row that follows rows which are all superseded.
theorem Gapless.insert {row : FormalReviewAssignment}
    (revisions : rows.map FormalReviewAssignment.revision = List.range' 1 rows.length)
    (superseded : ∀ other ∈ rows, other.supersededAt ≠ none) (next : row.revision = rows.length + 1)
    (current : row.supersededAt = none) : Gapless (rows ++ [row]) := by
  have within : ∀ other ∈ rows, other.revision ≤ rows.length := by
    intro other member
    have listed : other.revision ∈ rows.map FormalReviewAssignment.revision := List.mem_map_of_mem member
    rw [revisions,List.mem_range'_1] at listed
    omega
  refine ⟨?_,?_⟩
  · rw [List.map_append,revisions,List.length_append,List.range'_append_1.symm]
    simp [next,Nat.add_comm]
  · intro other member
    rw [List.length_append]
    rcases List.mem_append.mp member with old | new
    · have low := within other old
      have gone := superseded other old
      simp only [gone,false_iff,List.length_singleton]
      omega
    · cases List.mem_singleton.mp new
      simp [next,current]

theorem assignmentsOf_insert (s : FormalStore) (row : FormalReviewAssignment) (bindingId : Uuid) :
    FormalStore.assignmentsOf {s with assignments := s.assignments ++ [row]} bindingId =
      if row.bindingId = bindingId then s.assignmentsOf bindingId ++ [row] else s.assignmentsOf bindingId := by
  unfold FormalStore.assignmentsOf
  by_cases here : row.bindingId = bindingId
  · simp [here]
  · simp [here]

-- Every binding but one keeps its rows, and that one has rows that are all superseded.
structure Reassigning (s : FormalStore) (bindingId : Uuid) : Prop where
  ids : Unique FormalReviewAssignment.id s.assignments
  others : ∀ other, other ≠ bindingId → Gapless (s.assignmentsOf other)
  revisions : (s.assignmentsOf bindingId).map FormalReviewAssignment.revision =
    List.range' 1 (s.assignmentsOf bindingId).length

theorem AssignmentsValid.reassigning (valid : AssignmentsValid s) (bindingId : Uuid) :
    Reassigning s bindingId :=
  ⟨valid.ids,fun other _ => valid.gapless other,(valid.gapless bindingId).revisions⟩

theorem assign_valid (reassigning : Reassigning s bindingId)
    (follows : (∀ other ∈ s.assignmentsOf bindingId, other.revision ≠ n) → n = (s.assignmentsOf bindingId).length + 1)
    (ran : assign commit bindingId n s = .ok (next,row)) : AssignmentsValid next ∧ Persist s next := by
  obtain ⟨after,inserted,ran⟩ := bind_ok.mp ran
  cases pure_ok.mp ran
  obtain ⟨fresh,revision,superseded,rfl⟩ := insertFormalReviewAssignment_ok inserted
  refine ⟨⟨?_,fun other => ?_⟩,fun old member => ⟨old,List.mem_append_left _ member,rfl,rfl,rfl⟩⟩
  · exact unique_insert reassigning.ids (List.find?_eq_none.mpr (by simpa using fresh))
  · rw [assignmentsOf_insert]
    split
    · rename_i here
      cases here
      exact .insert reassigning.revisions superseded (follows revision) rfl
    · rename_i differs
      exact reassigning.others other fun same => differs same.symm

theorem superseded_row (valid : AssignmentsValid s) (member : row ∈ s.assignments)
    (ran : supersedeFormalReviewAssignment row.id revision now s = .ok next) :
    row.supersededAt = none ∧
      next = {s with assignments := update FormalReviewAssignment.id s.assignments row.id (·.supersede now)} := by
  simp only [supersedeFormalReviewAssignment,orRaise_bind_ok,require_bind_ok,pure_ok] at ran
  obtain ⟨found,there,_,rfl⟩ := ran
  have holds := List.find?_some there
  simp only [decide_eq_true_eq] at holds
  obtain ⟨id,_,current⟩ := holds
  have same : found = row := Option.some.inj
    ((find_of_mem valid.ids (List.mem_of_find?_eq_some there)).symm.trans (id ▸ find_of_mem valid.ids member))
  exact ⟨same ▸ current,rfl⟩

-- The rows of a binding after an update of one assignment, which keeps its binding.
theorem assignmentsOf_update (s : FormalStore) (id bindingId : Uuid) :
    FormalStore.assignmentsOf {s with assignments := update FormalReviewAssignment.id s.assignments id (·.supersede now)}
      bindingId = update FormalReviewAssignment.id (s.assignmentsOf bindingId) id (·.supersede now) := by
  unfold FormalStore.assignmentsOf update
  rw [List.filter_map]
  congr 1
  refine List.filter_congr fun row _ => ?_
  dsimp only [Function.comp]
  split
  · rfl
  · rfl

theorem update_revisions (rows : List FormalReviewAssignment) (id : Uuid) :
    (update FormalReviewAssignment.id rows id (·.supersede now)).map FormalReviewAssignment.revision =
      rows.map FormalReviewAssignment.revision := by
  unfold update
  rw [List.map_map]
  refine List.map_congr_left fun row _ => ?_
  dsimp only [Function.comp]
  split
  · rfl
  · rfl

-- Superseding the current assignment, which has the last revision, leaves none.
theorem supersede_reassigning (valid : AssignmentsValid s) (member : row ∈ s.assignments)
    (ran : supersedeFormalReviewAssignment row.id revision now s = .ok next) :
    Reassigning next row.bindingId ∧ row.revision = (next.assignmentsOf row.bindingId).length ∧ Persist s next := by
  obtain ⟨current,rfl⟩ := superseded_row valid member ran
  have own : row ∈ s.assignmentsOf row.bindingId := List.mem_filter.mpr ⟨member,decide_eq_true rfl⟩
  have length := (congrArg List.length (@assignmentsOf_update now s row.id row.bindingId)).trans (List.length_map _)
  refine ⟨⟨unique_update (fun _ => rfl) valid.ids,fun other differs => ?_,?_⟩,?_,fun old there => ?_⟩
  · have untouched : ∀ another ∈ s.assignments, another.id = row.id →
        decide (another.bindingId = other) = false ∧ decide ((another.supersede now).bindingId = other) = false := by
      intro another there same
      cases (find_of_mem valid.ids there).symm.trans (same ▸ find_of_mem valid.ids member)
      exact ⟨decide_eq_false differs.symm,decide_eq_false differs.symm⟩
    change Gapless ((update _ _ _ _).filter _)
    rw [filter_update untouched]
    exact valid.gapless other
  · rw [length,assignmentsOf_update,update_revisions]
    exact (valid.gapless row.bindingId).revisions
  · rw [length]
    exact ((valid.gapless row.bindingId).current row own).mp current
  · refine ⟨_,List.mem_map_of_mem there,?_⟩
    split
    · exact ⟨rfl,rfl,rfl⟩
    · exact ⟨rfl,rfl,rfl⟩

-- What a transaction has read of the current assignment still names a row of the binding.
def Known (bindingId : Uuid) (current : Option FormalReviewAssignment) (s : FormalStore) : Prop :=
  ∀ row, current = some row → ∃ stored ∈ s.assignments,
    stored.id = row.id ∧ stored.bindingId = bindingId ∧ stored.revision = row.revision

theorem Known.persists (known : Known bindingId current s) (persist : Persist s next) :
    Known bindingId current next := by
  intro row read
  obtain ⟨stored,member,id,binding,revision⟩ := known row read
  obtain ⟨later,there,id',binding',revision'⟩ := persist stored member
  exact ⟨later,there,id'.trans id,binding'.trans binding,revision'.trans revision⟩

theorem known_found {chosen : FormalReviewAssignment → Bool}
    (chooses : ∀ row, chosen row = true → row.bindingId = bindingId) : Known bindingId (s.assignments.find? chosen) s :=
  fun row found => ⟨row,List.mem_of_find?_eq_some found,rfl,chooses row (List.find?_some found),rfl⟩

theorem ensureAssignment_valid (valid : AssignmentsValid s)
    (known : Known bindingId current s)
    (ran : ensureAssignment commit bindingId current s = .ok (next,row)) : AssignmentsValid next ∧ Persist s next := by
  cases current with
  | none =>
    refine assign_valid (valid.reassigning bindingId) (fun fresh => ?_) ran
    by_contra longer
    obtain ⟨first,member,revision⟩ := (valid.gapless bindingId).member.mpr ⟨Nat.le_refl 1,by omega⟩
    exact fresh first member revision
  | some assignment =>
    obtain ⟨_,ran⟩ := require_bind_ok.mp ran
    split at ran
    · cases pure_ok.mp ran
      exact ⟨valid,.refl _⟩
    · obtain ⟨after,superseded,ran⟩ := bind_ok.mp ran
      obtain ⟨stored,member,id,binding,revision⟩ := known assignment rfl
      cases binding
      rw [← id,← revision] at superseded
      rw [← revision] at ran
      obtain ⟨reassigning,last,kept⟩ := supersede_reassigning valid member superseded
      obtain ⟨done,later⟩ := assign_valid reassigning (fun _ => congrArg (· + 1) last) ran
      exact ⟨done,kept.trans later⟩

theorem AssignmentsValid.same (valid : AssignmentsValid s) (same : next.assignments = s.assignments) :
    AssignmentsValid next ∧ Persist s next := by
  refine ⟨⟨same ▸ valid.ids,fun bindingId => ?_⟩,fun row member => ⟨row,same ▸ member,rfl,rfl,rfl⟩⟩
  unfold FormalStore.assignmentsOf
  rw [same]
  exact valid.gapless bindingId

theorem commitCreate_valid (valid : AssignmentsValid s)
    (known : Known ((found.map (·.id)).getD commit.bindingId) current s)
    (ran : commitCreate digest commit found current s = .ok (next,facts)) : AssignmentsValid next ∧ Persist s next := by
  obtain ⟨bound,binding,noted,_,assigned,_,ensured,_,_,observing,_,assigning,last⟩ := commitCreate_ok ran
  obtain ⟨id,_,kept⟩ := ensureBinding_keeps ensured
  obtain ⟨_,untouched,_⟩ := observed_ok observing
  obtain ⟨before,unchanged⟩ := valid.same (untouched.trans kept)
  obtain ⟨after,grown⟩ := ensureAssignment_valid before (id ▸ known.persists unchanged) assigning
  obtain ⟨final,same⟩ := after.same last
  exact ⟨final,(unchanged.trans grown).trans same⟩

theorem commitMerge_valid (valid : AssignmentsValid s)
    (ran : commitMerge digest commit s = .ok (next,facts)) : AssignmentsValid next ∧ Persist s next := by
  obtain ⟨_,noted,_,observing,_,_,last⟩ := commitMerge_ok ran
  obtain ⟨_,untouched,_⟩ := observed_ok observing
  exact valid.same (last.trans untouched)

def formalRules : Rules FormalStore Uuid FormalCommit FormalFacts where
  valid := AssignmentsValid
  rely _ := Persist
  commits _ _ _ _ := True
  refl _ := .refl
  trans _ _ _ _ := .trans

-- A create commit under what it read, when it comes to commit.
theorem commitCreate_sound {read : FormalStore} {holds : Uuid → Prop}
    (known : Known ((found.map (·.id)).getD commit.bindingId) current read) :
    formalRules.Sound (.create commit) holds read (.finish (commitCreate digest commit found current)) := by
  intro now next result valid relied ran
  obtain ⟨done,persist⟩ := commitCreate_valid valid (known.persists relied) ran
  exact ⟨done,trivial,fun _ _ => persist⟩

theorem createTransaction_sound (digest : Digest) (commit : CommitCreate) (s : FormalStore) :
    formalRules.Sound (.create commit) (fun _ => False) s (createTransaction digest commit) := by
  refine Rules.sound_see formalRules fun looked _ _ => ?_
  intro reading _ _
  cases read : reading.currentFormalReviewAssignment
      (((looked.formalBindingByWorkItem commit.admission.workItemId).map (·.id)).getD commit.bindingId) with
  | none =>
    dsimp only [bind,Transaction.andThen]
    rw [read]
    refine commitCreate_sound ?_
    intro row absent
    cases absent
  | some row =>
    dsimp only [bind,Transaction.andThen]
    rw [read]
    intro _ _ _ locked _ _
    exact commitCreate_sound (known_found fun row chosen => (of_decide_eq_true chosen).2.1)

theorem formalRules_follows (digest : Digest) : formalRules.Follows (formalProgram digest) := by
  refine ⟨fun request s _ => ?_,?_⟩
  · cases request with
    | create commit => exact createTransaction_sound digest commit s
    | merge commit =>
      intro now next result valid _ ran
      obtain ⟨done,persist⟩ := commitMerge_valid valid ran
      exact ⟨done,trivial,fun _ _ => persist⟩
  · intro s event next valid moved
    cases moved
    have kept : AssignmentsValid {s with inbox := event.inbox, effects := event.effects} ∧ Persist s _ := valid.same rfl
    exact ⟨kept.1,fun _ _ => kept.2⟩

theorem initial_assignments : AssignmentsValid .initial := ⟨List.nodup_nil,fun _ => .empty⟩

abbrev FormalSystem := System FormalStore Uuid FormalCommit FormalFacts FormalError

theorem formal_valid {s : FormalSystem} (path : Runs (Enabled (formalProgram digest).step) (.initial .initial) labels s) :
    AssignmentsValid s.store :=
  (formalRules.runs_valid (formalRules_follows digest) path (formalRules.initial_valid initial_assignments)).store

theorem Gapless.current_unique (gapless : Gapless rows) (first : one ∈ rows)
    (second : two ∈ rows) (current : one.supersededAt = none) (current' : two.supersededAt = none) : one = two := by
  have last : one.revision = two.revision :=
    ((gapless.current one first).mp current).trans ((gapless.current two second).mp current').symm
  have distinct : (rows.map FormalReviewAssignment.revision).Nodup := gapless.revisions ▸ List.nodup_range'
  exact List.inj_on_of_nodup_map distinct first second last

theorem Gapless.successor (gapless : Gapless rows) (member : row ∈ rows)
    (superseded : row.supersededAt ≠ none) : ∃ later ∈ rows, later.revision = row.revision + 1 := by
  obtain ⟨_,within⟩ := gapless.member.mp ⟨row,member,rfl⟩
  have earlier : row.revision ≠ rows.length := fun last => superseded ((gapless.current row member).mpr last)
  exact gapless.member.mpr ⟨by omega,by omega⟩

-- Whatever the interleaving, the assignments of a binding are revisions 1 to n, of which
-- only the last is current; and only a commit that succeeds changes a fact.
theorem formal_review_assignments {s : FormalSystem}
    (path : Runs (Enabled (formalProgram digest).step) (.initial .initial) labels s) :
    (∀ bindingId, let rows := s.store.assignmentsOf bindingId
      (∀ one ∈ rows, ∀ two ∈ rows, one.supersededAt = none → two.supersededAt = none → one = two) ∧
      rows.map FormalReviewAssignment.revision = List.range' 1 rows.length ∧
      ∀ row ∈ rows, row.supersededAt ≠ none → ∃ later ∈ rows, later.revision = row.revision + 1) ∧
    (∀ slot request body error, s.flights slot = some ⟨request,.finish body⟩ → body s.store = .error error →
      (formalProgram digest).step s (.advance slot) = some (s.leave slot) ∧ (s.leave slot).store = s.store) ∧
    ∀ label next, (formalProgram digest).step s label = some next →
      (∃ request facts, s.commits label = some (request,next.store,facts)) ∨
      next.store.bindings = s.store.bindings ∧ next.store.observations = s.store.observations ∧
        next.store.assignments = s.store.assignments := by
  refine ⟨fun bindingId => ?_,?_,?_⟩
  · have gapless := (formal_valid path).gapless bindingId
    exact ⟨fun one first two second => gapless.current_unique first second,gapless.revisions,
      fun row member => gapless.successor member⟩
  · exact fun slot request body error found raised => ⟨advance_raises found raised,rfl⟩
  · intro label next taken
    rcases step_commits taken with same | ⟨request,facts,committed⟩ | ⟨event,_,moved⟩
    · rw [same]
      exact .inr ⟨rfl,rfl,rfl⟩
    · exact .inl ⟨request,facts,committed⟩
    · rw [← Option.some.inj moved]
      exact .inr ⟨rfl,rfl,rfl⟩

def sampleDigest : Digest := ObservationPayload.headSha

def sampleEffect (id : Uuid) : FormalEffect :=
  {id, operation := .createFormalMr, attempts := 1, state := .inFlight, callbackState := .pending, updatedAt := 0}

def sampleEffects : Table Uuid FormalEffect := fun id => if id < 10 then some (sampleEffect id) else none

def sampleSnapshot (head : String) : Integration.GitLabMergeRequestSnapshot :=
  ⟨"project",5,"task","main",head,.opened,"mergeable",false,true,some "success",none,none,none⟩

-- The commit of one acceptance cycle of a work item, at one head.
def sampleCreate (cycle : Nat) (head : String) (bindingId : Option Uuid) : CommitCreate where
  lease := ⟨cycle,1,.inFlight,none,cycle⟩
  admission := ⟨1,2,3,"repository","task",head,40 + cycle,bindingId⟩
  snapshot := sampleSnapshot head
  routing := ⟨"reviewer","policy",1,"hash",""⟩
  branchBindingId := 7
  creationOrigin := .platformCreated
  bindingId := 50 + cycle
  observationId := 60 + cycle
  assignmentId := 70 + cycle

-- A commit with every step its transaction takes.
def sampleCommit (commit : CommitCreate) (steps : Nat) : List (Label FormalCommit Elsewhere) :=
  .begin 0 (.create commit) :: List.replicate steps (.advance 0)

def sampleCycles : List (Label FormalCommit Elsewhere) :=
  .elsewhere ⟨.empty,sampleEffects⟩ :: sampleCommit (sampleCreate 1 "a" none) 3 ++ sampleCommit (sampleCreate 2 "b" (some 51)) 5

theorem formal_review_assignments_sample :
    let rows := ((execute (formalProgram sampleDigest).step (.initial .initial) sampleCycles).get (by decide)).store.assignmentsOf 51
    rows.length = 2 ∧ rows.map FormalReviewAssignment.revision = [1,2] := by
  have path : Runs (Enabled (formalProgram sampleDigest).step) (.initial .initial) sampleCycles _ := execute_get (by decide)
  obtain ⟨_,revisions,_⟩ := (formal_review_assignments path).1 51
  exact ⟨by decide,revisions⟩

end EngineeringPlatform.FormalDelivery
