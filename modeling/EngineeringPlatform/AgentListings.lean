import EngineeringPlatform.AgentCursors
import EngineeringPlatform.AgentQueries
import EngineeringPlatform.KeysetPaging
import Mathlib.Data.Prod.Lex
namespace EngineeringPlatform.Agent
open Checked Idempotency KeysetPaging PythonText TransitionRuns
variable {κ : Type} {crypto : AgentCryptography κ}

structure AgentRunListItem where
  run : AgentRun
  latestAttempt : AgentAttempt
  binding : ExecutionBinding
  deriving DecidableEq

structure AgentRunPage where
  items : List AgentRunListItem
  nextCursor : Option Text

structure CanonicalEventPage where
  items : List CanonicalEventInput
  nextCursor : Option Text

def associationsUnavailable : AgentQueryError := .agentQueryUnavailable "Agent Run associations unavailable"

-- LEFT JOIN checkpoint ON its id and its attempt.
def joinedCheckpoint (s : AgentStore κ) (attempt : AgentAttempt) : Except AgentQueryError (Option CheckpointInput) :=
  match attempt.checkpoint with
  | none => pure none
  | some checkpoint => do
    let row ← orRaise ((s.checkpoints checkpoint.id).filter fun row => row.1 = attempt.id) associationsUnavailable
    pure (some row.2)

def listItem (s : AgentStore κ) (run : AgentRun) : Except AgentQueryError AgentRunListItem := do
  let attempt ← orRaise ((s.attempts run.latestAttemptId).filter fun attempt => attempt.runId = run.id)
    associationsUnavailable
  let binding ← orRaise ((s.bindings attempt.id).filter fun binding => binding.id = attempt.bindingId)
    associationsUnavailable
  let checkpoint ← joinedCheckpoint s attempt
  require (attempt.id = run.latestAttemptId ∧ attempt.runId = run.id ∧ attempt.bindingId = binding.id ∧
    attempt.bindingDigest = binding.digest) associationsUnavailable
  pure ⟨run,{attempt with checkpoint := checkpoint},binding⟩

-- ORDER BY created_at DESC, id DESC
def runPlace (createdAt : Time) (id : Uuid) : (Nat ×ₗ Nat)ᵒᵈ := OrderDual.toDual (toLex (createdAt,id))

def runPosition (run : AgentRun) : (Nat ×ₗ Nat)ᵒᵈ := runPlace run.createdAt run.id

def runMatches (workspaceId : Uuid) (state : Option RunState) (run : AgentRun) : Bool :=
  run.workspaceId = workspaceId ∧ state.all (run.state = ·) = true

def runsPage (s : AgentStore κ) (scan : Scan s.runs) (workspaceId : Uuid) (state : Option RunState)
    (before : Option (Time × Uuid)) (count : Nat) : Except AgentQueryError (List AgentRunListItem) :=
  (fetch runPosition (scan.rows.filter (runMatches workspaceId state)) (before.map fun row => runPlace row.1 row.2)
    count).mapM (listItem s)

def runAnchor (wire : CursorWire) (workspaceId : Uuid) (state : Option RunState) :
    Option Text → Except AgentQueryError (Option (Time × Uuid))
  | none => pure none
  | some cursor => do
    let before ← orRaise (readRunCursor wire workspaceId state cursor) .invalidRunCursor
    pure (some before)

def listRuns (wire : CursorWire) (s : AgentStore κ) (scan : Scan s.runs) (workspaceId : Uuid)
    (state : Option RunState) (cursor : Option Text) (limit : Int) : Except AgentQueryError AgentRunPage := do
  require (1 ≤ limit ∧ limit ≤ 100) .invalidRunPageLimit
  let before ← runAnchor wire workspaceId state cursor
  let rows ← runsPage s scan workspaceId state before (limit.toNat + 1)
  let page := page (fun item : AgentRunListItem => runCursor wire workspaceId state item.run.createdAt item.run.id)
    limit.toNat rows
  pure ⟨page.1,page.2⟩

-- JOIN agent_attempt ON its id, for the attempts of one run.
def runEvents (s : AgentStore κ) (rows : List CanonicalEventInput) (runId : Uuid) : List (Nat × CanonicalEventInput) :=
  rows.filterMap fun event =>
    ((s.attempts event.attemptId).filter fun attempt => attempt.runId = runId).map fun attempt => (attempt.number,event)

-- ORDER BY attempt.number, generation, sequence, event_id
def eventPosition (row : Nat × CanonicalEventInput) : Nat ×ₗ Nat ×ₗ Nat ×ₗ Nat :=
  toLex (row.1,toLex (row.2.generation,toLex (row.2.sequence,row.2.id)))

def eventAnchor (s : AgentStore κ) (rows : List CanonicalEventInput) (runId : Uuid) :
    Option Uuid → Except AgentQueryError (Option (Nat ×ₗ Nat ×ₗ Nat ×ₗ Nat))
  | none => pure none
  | some eventId => do
    let row ← orRaise ((runEvents s rows runId).find? fun row => row.2.id = eventId)
      (.invalidEventCursor "event cursor does not belong to Agent Run")
    pure (some (eventPosition row))

def eventsPageByRunId (s : AgentStore κ) (rows : List CanonicalEventInput) (runId : Uuid) (after : Option Uuid)
    (count : Nat) : Except AgentQueryError (List CanonicalEventInput) := do
  let anchor ← eventAnchor s rows runId after
  pure ((fetch eventPosition (runEvents s rows runId) anchor count).map Prod.snd)

def eventCursor (wire : CursorWire) (runId eventId : Uuid) : Text :=
  encodeEventCursor wire (wire.uuidText runId) (wire.uuidText eventId)

def readEventCursor (wire : CursorWire) (runId : Uuid) (cursor : Text) : Option Uuid :=
  (decodeEventCursor wire (wire.uuidText runId) cursor).bind wire.parseUuid

def readEventAnchor (wire : CursorWire) (runId : Uuid) : Option Text → Except AgentQueryError (Option Uuid)
  | none => pure none
  | some cursor => do
    let eventId ← orRaise (readEventCursor wire runId cursor) (.invalidEventCursor "invalid canonical event cursor")
    pure (some eventId)

def listEvents (wire : CursorWire) (s : AgentStore κ) (rows : List CanonicalEventInput) (runId : Uuid)
    (cursor : Option Text) (limit : Int) : Except AgentQueryError CanonicalEventPage := do
  require (1 ≤ limit ∧ limit ≤ 100) .invalidEventPageLimit
  let _ ← orRaise (s.runs runId) (.agentRunNotFound runId)
  let after ← readEventAnchor wire runId cursor
  let events ← eventsPageByRunId s rows runId after (limit.toNat + 1)
  let page := page (fun event : CanonicalEventInput => eventCursor wire runId event.id) limit.toNat events
  pure ⟨page.1,page.2⟩

variable {rows : List CanonicalEventInput} {wire : CursorWire} {limit : Int}

section Runs
variable {s : AgentStore κ}

-- At a readable store each run is shown with its only attempt and the binding of it.
theorem listItem_shown (valid : StoreValid s) (agreed : Agreed s) (readable : Readable s)
    (held : s.runs runId = some run) :
    ∃ attempt binding, s.attempts run.latestAttemptId = some attempt ∧ s.bindings run.latestAttemptId = some binding ∧
      listItem s run = .ok ⟨run,attempt,binding⟩ := by
  obtain ⟨attempt,found,belongs⟩ := agreed.paired _ _ held
  have named : run.id = runId := agreed.keyed _ _ held
  have key : attempt.id = run.latestAttemptId := valid.keyed _ _ found
  obtain ⟨⟨binding,bound,same,digest⟩,checkpointed,_⟩ := readable _ _ found
  have joined : joinedCheckpoint s attempt = .ok attempt.checkpoint := by
    cases held : attempt.checkpoint with
    | none => simp [joinedCheckpoint,held,pure,Except.pure]
    | some checkpoint =>
      simp [joinedCheckpoint,held,checkpointed checkpoint held,key,Option.filter_some,orRaise,bind,Except.bind,pure,Except.pure]
  refine ⟨attempt,binding,found,bound,?_⟩
  simp [listItem,found,belongs,named,Option.filter_some,orRaise,bind,Except.bind,key,bound,same,joined,require,digest,
    pure,Except.pure]
  rw [←key,←belongs]

theorem listItem_run (shows : listItem s run = .ok item) : item.run = run := by
  simp only [listItem,orRaise_bind_ok] at shows
  obtain ⟨_,_,_,_,shows⟩ := shows
  obtain ⟨_,_,shows⟩ := bind_ok.mp shows
  obtain ⟨_,shows⟩ := require_bind_ok.mp shows
  cases pure_ok.mp shows
  rfl

theorem mapM_forall₂ {ρ τ ε : Type} {read : ρ → Except ε τ} {keys : List ρ} {found : List τ} :
    keys.mapM read = .ok found ↔ List.Forall₂ (fun key item => read key = .ok item) keys found := by
  induction keys generalizing found with
  | nil => simp [pure,Except.pure,eq_comm]
  | cons key rest ih =>
    rw [List.mapM_cons,bind_ok]
    constructor
    · rintro ⟨item,head,ran⟩
      obtain ⟨others,tail,ran⟩ := bind_ok.mp ran
      cases pure_ok.mp ran
      exact .cons head (ih.mp tail)
    · rintro (_ | ⟨head,tail⟩)
      exact ⟨_,head,bind_ok.mpr ⟨_,ih.mpr tail,rfl⟩⟩

-- Cutting a page off the fetched rows and off what they show is the same.
theorem page_shows {ρ τ γ : Type} {shows : ρ → τ → Prop} (mark : ρ → γ) (mark' : τ → γ)
    (same : ∀ row item, shows row item → mark row = mark' item) {rows : List ρ} {items : List τ}
    (each : List.Forall₂ shows rows items) (limit : Nat) :
    Answers shows (page mark limit rows) (page mark' limit items).1 (page mark' limit items).2 := by
  have taken : List.Forall₂ shows (rows.take limit) (items.take limit) := List.forall₂_take limit each
  refine ⟨taken,?_⟩
  have lasts : ((items.take limit).getLast?).map mark' = ((rows.take limit).getLast?).map mark := by
    generalize rows.take limit = one at taken
    generalize items.take limit = two at taken
    induction taken with
    | nil => rfl
    | cons head tail ih =>
      cases tail with
      | nil => simp [same _ _ head]
      | cons _ _ => simpa [List.getLast?_cons_cons] using ih
  simp [page,each.length_eq,lasts]

def RunTurn (wire : CursorWire) (s : AgentStore κ) (scan : Scan s.runs) (workspaceId : Uuid) (state : Option RunState)
    (limit : Int) (cursor : Option Text) (items : List AgentRunListItem) (next : Option Text) : Prop :=
  listRuns wire s scan workspaceId state cursor limit = .ok ⟨items,next⟩

-- Once the cursor is read, the answer is the page of what is fetched behind it.
theorem runTurn_answers {scan : Scan s.runs} (bounds : 1 ≤ limit ∧ limit ≤ 100)
    {cursor : Option Text} (before : Option (Time × Uuid))
    (read : runAnchor wire workspaceId state cursor = .ok before)
    (shown : ∀ run ∈ scan.rows, ∃ item, listItem s run = .ok item)
    (items : List AgentRunListItem) (next : Option Text) :
    RunTurn wire s scan workspaceId state limit cursor items next ↔
      Answers (fun run item => listItem s run = .ok item)
        (page (fun run : AgentRun => runCursor wire workspaceId state run.createdAt run.id) limit.toNat
          (fetch runPosition (scan.rows.filter (runMatches workspaceId state))
            (before.map fun row => runPlace row.1 row.2) (limit.toNat + 1))) items next := by
  have kept : ∀ run ∈ fetch runPosition (scan.rows.filter (runMatches workspaceId state))
      (before.map fun row => runPlace row.1 row.2) (limit.toNat + 1), ∃ item, listItem s run = .ok item := by
    intro run member
    have filtered := (ordered_perm _ _).mem_iff.mp (List.mem_of_mem_take member)
    exact shown run (List.mem_filter.mp (List.mem_filter.mp filtered).1).1
  obtain ⟨rows,each⟩ := shown_all kept
  have cut := page_shows (fun run : AgentRun => runCursor wire workspaceId state run.createdAt run.id)
    (fun item : AgentRunListItem => runCursor wire workspaceId state item.run.createdAt item.run.id)
    (fun run item shows => by rw [listItem_run shows]) each limit.toNat
  have answer : listRuns wire s scan workspaceId state cursor limit =
      .ok ⟨(page (fun item : AgentRunListItem => runCursor wire workspaceId state item.run.createdAt item.run.id)
        limit.toNat rows).1,(page (fun item : AgentRunListItem =>
          runCursor wire workspaceId state item.run.createdAt item.run.id) limit.toNat rows).2⟩ := by
    unfold listRuns
    rw [read]
    simp [require,bounds,bind,Except.bind,runsPage,mapM_forall₂.mpr each,pure,Except.pure]
  unfold RunTurn
  rw [answer]
  constructor
  · intro same
    cases Except.ok.inj same
    exact cut
  · rintro ⟨others,named⟩
    have unique : items = _ := Answers.unique (fun run one two first second => by
      rw [first] at second
      exact Except.ok.inj second) ⟨others,named⟩ cut
    rw [unique,named,cut.2]

theorem runPlace_lt {one two : Time} {first second : Uuid} : runPlace one first < runPlace two second ↔
    two < one ∨ two = one ∧ second < first := by
  rw [runPlace,runPlace,OrderDual.toDual_lt_toDual,Prod.Lex.toLex_lt_toLex]

theorem runRows_distinct (scan : Scan s.runs) (keyed : Table.Every (fun runId run => run.id = runId) s.runs)
    (wanted : AgentRun → Bool) : ((scan.rows.filter wanted).map runPosition).Nodup := by
  refine List.Nodup.map_on ?_ (scan.once.filter wanted)
  intro one first two second same
  obtain ⟨_,atOne⟩ := (scan.stored one).mp (List.mem_filter.mp first).1
  obtain ⟨_,atTwo⟩ := (scan.stored two).mp (List.mem_filter.mp second).1
  have named : one.id = two.id := congrArg (fun place => (ofLex (OrderDual.ofDual place)).2) same
  rw [keyed _ _ atOne,keyed _ _ atTwo] at named
  exact Option.some.inj (atOne.symm.trans (named ▸ atTwo))

theorem list_runs_paged (lawful : wire.Lawful) (valid : StoreValid s) (agreed : Agreed s)
    (readable : Readable s) (scan : Scan s.runs) (bounds : 1 ≤ limit ∧ limit ≤ 100)
    (workspaceId : Uuid) (state : Option RunState) :
    Paged runPosition (fun run : AgentRun => runCursor wire workspaceId state run.createdAt run.id)
      (fun run item => listItem s run = .ok item) (scan.rows.filter (runMatches workspaceId state)) limit.toNat
      (RunTurn wire s scan workspaceId state limit) := by
  have shown : ∀ run ∈ scan.rows, ∃ item, listItem s run = .ok item := by
    intro run member
    obtain ⟨_,held⟩ := (scan.stored run).mp member
    obtain ⟨_,_,_,_,shows⟩ := listItem_shown valid agreed readable held
    exact ⟨_,shows⟩
  refine ⟨by omega,runRows_distinct scan agreed.keyed _,fun run member => shown run (List.mem_filter.mp member).1,?_,?_⟩
  · exact runTurn_answers bounds none rfl shown
  · intro run member
    refine runTurn_answers bounds (some (run.createdAt,run.id)) ?_ shown
    simp [runAnchor,readRunCursor_runCursor lawful,orRaise,bind,Except.bind,pure,Except.pure]

-- Following list_runs by its cursors ends, and shows every run of the Workspace and state
-- exactly once, newest first, each with its latest attempt and binding; a cursor that was
-- issued for another Workspace or state is refused.
theorem list_runs_pages {wire : CursorWire} (lawful : wire.Lawful)
    (reached : Runs (Enabled (commit crypto)) (.initial definitions) transactions s) (scan : Scan s.runs)
    {limit : Int} (bounds : 1 ≤ limit ∧ limit ≤ 100) (workspaceId : Uuid) (state : Option RunState) :
    (∃ pages, Follows (RunTurn wire s scan workspaceId state limit) none pages) ∧
    (∀ pages, Follows (RunTurn wire s scan workspaceId state limit) none pages →
      (∀ items ∈ pages.dropLast, items.length = limit.toNat) ∧
      (pages.flatten.map (·.run)).Pairwise (fun one two =>
        two.createdAt < one.createdAt ∨ two.createdAt = one.createdAt ∧ two.id < one.id) ∧
      (∀ run, run ∈ pages.flatten.map (·.run) ↔ s.runs run.id = some run ∧ run.workspaceId = workspaceId ∧
        ∀ wanted, state = some wanted → run.state = wanted) ∧
      ∀ item ∈ pages.flatten, s.attempts item.run.latestAttemptId = some item.latestAttempt ∧
        s.bindings item.run.latestAttemptId = some item.binding) ∧
    ∀ other filter createdAt id, other ≠ workspaceId ∨ filter ≠ state →
      listRuns wire s scan workspaceId state (some (runCursor wire other filter createdAt id)) limit =
        .error .invalidRunCursor := by
  have valid := reached_valid reached
  have agreed := (reached_agreed reached).2
  have readable := reached_readable reached
  obtain ⟨ends,visits⟩ := (list_runs_paged lawful valid agreed readable scan bounds workspaceId state).follows
  refine ⟨ends,fun pages follows => ?_,?_⟩
  · obtain ⟨each,sizes⟩ := visits pages follows
    have order := shown_map AgentRunListItem.run (fun _ _ => listItem_run) each
    refine ⟨sizes,?_,?_,?_⟩
    · rw [order]
      exact (ordered_distinct (runRows_distinct scan agreed.keyed _)).imp fun before => runPlace_lt.mp before
    · intro run
      rw [order,(ordered_perm _ _).mem_iff,List.mem_filter,scan.stored]
      simp only [runMatches,decide_eq_true_eq]
      constructor
      · rintro ⟨⟨key,held⟩,workspace,wanted⟩
        refine ⟨(agreed.keyed _ _ held).symm ▸ held,workspace,?_⟩
        rintro state rfl
        simpa using wanted
      · rintro ⟨held,workspace,wanted⟩
        refine ⟨⟨_,held⟩,workspace,?_⟩
        cases state with
        | none => rfl
        | some state => simpa using wanted state rfl
    · intro item member
      obtain ⟨run,inside,shows⟩ := shown_mem each item member
      obtain ⟨_,held⟩ := (scan.stored run).mp (List.mem_filter.mp ((ordered_perm _ _).mem_iff.mp inside)).1
      obtain ⟨attempt,binding,found,bound,shown⟩ := listItem_shown valid agreed readable held
      cases shows.symm.trans shown
      exact ⟨found,bound⟩
  · intro other filter createdAt id differs
    have unread : readRunCursor wire workspaceId state (runCursor wire other filter createdAt id) = none := by
      rw [readRunCursor_runCursor lawful,if_neg]
      rintro ⟨rfl,rfl⟩
      simp at differs
    simp [listRuns,require,bounds,runAnchor,unread,orRaise,bind,Except.bind]

theorem list_runs_pages_ended : ∃ (scan : Scan endedStore.runs) (pages : List (List AgentRunListItem)),
    Follows (RunTurn sampleWire endedStore scan 1 none 1) none pages ∧
    (∃ run, endedStore.runs 5 = some run ∧ run ∈ pages.flatten.map (·.run)) ∧
    listRuns sampleWire endedStore scan 1 none (some (runCursor sampleWire 2 none 1 5)) 1 = .error .invalidRunCursor := by
  obtain ⟨scan⟩ := (reached_scans endedStore_reached).1
  obtain ⟨⟨pages,follows⟩,visits,refused⟩ :=
    list_runs_pages sampleWire_lawful endedStore_reached scan ⟨Int.le_refl 1,by decide⟩ 1 none
  have held : (endedStore.runs 5).isSome := by decide
  have workspace : (endedStore.runs 5).map (fun run => (run.id,run.workspaceId)) = some (5,1) := by decide
  obtain ⟨run,found⟩ := Option.isSome_iff_exists.mp held
  rw [found] at workspace
  simp only [Option.map_some,Option.some.injEq,Prod.mk.injEq] at workspace
  refine ⟨scan,pages,follows,⟨run,found,?_⟩,refused 2 none 1 5 (.inl (by decide))⟩
  exact ((visits pages follows).2.2.1 run).mpr ⟨workspace.1.symm ▸ found,workspace.2,nofun⟩

end Runs

section Events
variable {s : AgentStore κ}

-- One event for each position, and one row for each event.
theorem events_nodup (log : FencedLog.Valid eventCoordinates (eventLog s)) : s.events.Nodup := by
  refine List.nodup_iff_count_le_one.mpr fun event => ?_
  obtain ⟨n,numbered⟩ := log.gapless event.attemptId event.generation
  have apart : (FencedLog.stream eventCoordinates s.events event.attemptId event.generation).Nodup :=
    numbered ▸ List.nodup_range'
  have inside : (FencedLog.entries eventCoordinates s.events event.attemptId event.generation).count event =
      s.events.count event :=
    List.count_filter (by simp [eventCoordinates])
  rw [←inside]
  exact List.nodup_iff_count_le_one.mp apart.of_map event

theorem mem_runEvents : row ∈ runEvents s rows runId ↔
    row.2 ∈ rows ∧ ∃ attempt, s.attempts row.2.attemptId = some attempt ∧ attempt.runId = runId ∧
      row.1 = attempt.number := by
  obtain ⟨number,event⟩ := row
  simp only [runEvents,List.mem_filterMap,Option.map_eq_some_iff,Option.filter_eq_some_iff,decide_eq_true_eq,
    Prod.mk.injEq]
  constructor
  · rintro ⟨_,member,attempt,⟨found,belongs⟩,rfl,rfl⟩
    exact ⟨member,attempt,found,belongs,rfl⟩
  · rintro ⟨member,attempt,found,belongs,rfl⟩
    exact ⟨event,member,attempt,⟨found,belongs⟩,rfl,rfl⟩

theorem event_named (named : ∀ event ∈ s.events, eventById s event.id = some event) {one two : CanonicalEventInput}
    (first : one ∈ s.events) (second : two ∈ s.events) (same : one.id = two.id) : one = two :=
  Option.some.inj ((named one first).symm.trans (same ▸ named two second))

theorem runEvents_same (first : one ∈ runEvents s rows runId)
    (second : two ∈ runEvents s rows runId) (same : one.2 = two.2) : one = two := by
  obtain ⟨_,attempt,found,_,number⟩ := mem_runEvents.mp first
  obtain ⟨_,attempt',found',_,number'⟩ := mem_runEvents.mp second
  rw [same] at found
  cases found.symm.trans found'
  exact Prod.ext (number.trans number'.symm) same

theorem runEvents_distinct (scanned : rows.Perm s.events)
    (log : FencedLog.Valid eventCoordinates (eventLog s))
    (named : ∀ event ∈ s.events, eventById s event.id = some event) :
    ((runEvents s rows runId).map eventPosition).Nodup := by
  have distinct : (runEvents s rows runId).Nodup := by
    refine (scanned.nodup_iff.mpr (events_nodup log)).filterMap fun one two row first second => ?_
    simp only [Option.mem_def,Option.map_eq_some_iff] at first second
    obtain ⟨_,_,rfl⟩ := first
    obtain ⟨_,_,same⟩ := second
    exact (congrArg Prod.snd same).symm
  refine List.Nodup.map_on ?_ distinct
  intro one first two second same
  have id : one.2.id = two.2.id := congrArg (fun place => (ofLex (ofLex (ofLex place).2).2).2) same
  exact runEvents_same first second (event_named named (scanned.mem_iff.mp (mem_runEvents.mp first).1)
    (scanned.mem_iff.mp (mem_runEvents.mp second).1) id)

def EventTurn (wire : CursorWire) (s : AgentStore κ) (rows : List CanonicalEventInput) (runId : Uuid)
    (limit : Int) (cursor : Option Text) (items : List CanonicalEventInput) (next : Option Text) : Prop :=
  listEvents wire s rows runId cursor limit = .ok ⟨items,next⟩

theorem eventTurn_answers (bounds : 1 ≤ limit ∧ limit ≤ 100) (held : s.runs runId = some run) (after : Option Uuid)
    (anchor : Option (Nat ×ₗ Nat ×ₗ Nat ×ₗ Nat)) (read : readEventAnchor wire runId cursor = .ok after) (anchored : eventAnchor s rows runId after = .ok anchor)
    (items : List CanonicalEventInput) (next : Option Text) :
    EventTurn wire s rows runId limit cursor items next ↔
      Answers (fun row event => row.2 = event)
        (page (fun row : Nat × CanonicalEventInput => eventCursor wire runId row.2.id) limit.toNat
          (fetch eventPosition (runEvents s rows runId) anchor (limit.toNat + 1))) items next := by
  generalize fetchedIs : fetch eventPosition (runEvents s rows runId) anchor (limit.toNat + 1) = fetched
  have each : List.Forall₂ (fun (row : Nat × CanonicalEventInput) event => row.2 = event) fetched (fetched.map Prod.snd) := by
    rw [List.forall₂_map_right_iff]
    exact List.forall₂_same.mpr fun _ _ => rfl
  have cut := page_shows (fun row : Nat × CanonicalEventInput => eventCursor wire runId row.2.id)
    (fun event : CanonicalEventInput => eventCursor wire runId event.id)
    (fun row event same => by rw [same]) each limit.toNat
  have answer : listEvents wire s rows runId cursor limit =
      .ok ⟨(page (fun event : CanonicalEventInput => eventCursor wire runId event.id) limit.toNat (fetched.map Prod.snd)).1,
        (page (fun event : CanonicalEventInput => eventCursor wire runId event.id) limit.toNat (fetched.map Prod.snd)).2⟩ := by
    simp [listEvents,require,bounds,held,read,eventsPageByRunId,anchored,fetchedIs,orRaise,bind,Except.bind,pure,Except.pure]
  unfold EventTurn
  rw [answer]
  constructor
  · intro same
    cases Except.ok.inj same
    exact cut
  · rintro ⟨others,marked⟩
    have unique : items = _ := Answers.unique (fun row one two first second => first.symm.trans second) ⟨others,marked⟩ cut
    rw [unique,marked,cut.2]

theorem readEventCursor_eventCursor (lawful : wire.Lawful) (runId other eventId : Uuid) :
    readEventCursor wire other (eventCursor wire runId eventId) = if runId = other then some eventId else none := by
  have same : wire.uuidText runId = wire.uuidText other ↔ runId = other :=
    ⟨uuidText_injective lawful,congrArg _⟩
  rw [readEventCursor,eventCursor,decodeEventCursor_encode lawful (lawful.uuidPrintable _) (lawful.uuidPrintable _)]
  simp only [same]
  split
  · exact lawful.uuid eventId
  · rfl

theorem list_events_paged (lawful : wire.Lawful)
    (scanned : rows.Perm s.events) (log : FencedLog.Valid eventCoordinates (eventLog s))
    (named : ∀ event ∈ s.events, eventById s event.id = some event) (bounds : 1 ≤ limit ∧ limit ≤ 100)
    (held : s.runs runId = some run) :
    Paged eventPosition (fun row : Nat × CanonicalEventInput => eventCursor wire runId row.2.id)
      (fun row event => row.2 = event) (runEvents s rows runId) limit.toNat (EventTurn wire s rows runId limit) := by
  refine ⟨by omega,runEvents_distinct scanned log named,fun row _ => ⟨row.2,rfl⟩,?_,?_⟩
  · exact eventTurn_answers bounds held none none rfl rfl
  · intro row member
    refine eventTurn_answers bounds held (some row.2.id) (some (eventPosition row)) ?_ ?_
    · simp [readEventAnchor,readEventCursor_eventCursor lawful,orRaise,bind,Except.bind,pure,Except.pure]
    · have found : (runEvents s rows runId).find? (fun other => other.2.id = row.2.id) = some row := by
        cases at' : (runEvents s rows runId).find? (fun other => other.2.id = row.2.id) with
        | none =>
          have absent := List.find?_eq_none.mp at' row member
          simp at absent
        | some other =>
          have inside := List.mem_of_find?_eq_some at'
          have id : other.2.id = row.2.id := by simpa using List.find?_some at'
          rw [runEvents_same inside member (event_named named (scanned.mem_iff.mp (mem_runEvents.mp inside).1)
            (scanned.mem_iff.mp (mem_runEvents.mp member).1) id)]
      simp [eventAnchor,found,orRaise,bind,Except.bind,pure,Except.pure]

-- Following list_events by its cursors ends, and shows every event of the run exactly once
-- in the order of generation and sequence; a cursor of another run, and one whose event the
-- run does not have, are refused.
theorem list_events_pages {wire : CursorWire} (lawful : wire.Lawful)
    (reached : Runs (Enabled (commit crypto)) (.initial definitions) transactions s)
    {rows : List CanonicalEventInput} (scanned : rows.Perm s.events) (held : s.runs runId = some run)
    {limit : Int} (bounds : 1 ≤ limit ∧ limit ≤ 100) :
    (∃ pages, Follows (EventTurn wire s rows runId limit) none pages) ∧
    (∀ pages, Follows (EventTurn wire s rows runId limit) none pages →
      (∀ items ∈ pages.dropLast, items.length = limit.toNat) ∧
      pages.flatten.Pairwise (fun one two =>
        one.generation < two.generation ∨ one.generation = two.generation ∧ one.sequence < two.sequence) ∧
      ∀ event, event ∈ pages.flatten ↔ event ∈ s.events ∧ event.attemptId = run.latestAttemptId) ∧
    (∀ other eventId, other ≠ runId → listEvents wire s rows runId (some (eventCursor wire other eventId)) limit =
      .error (.invalidEventCursor "invalid canonical event cursor")) ∧
    ∀ eventId, (∀ event ∈ s.events, event.id = eventId → event.attemptId ≠ run.latestAttemptId) →
      listEvents wire s rows runId (some (eventCursor wire runId eventId)) limit =
        .error (.invalidEventCursor "event cursor does not belong to Agent Run") := by
  have agreed := (reached_agreed reached).2
  have log := reached_log reached
  have named := (reached.invariant commit_named ⟨initial_valid definitions,fun _ member => absurd member List.not_mem_nil⟩).2
  have belongs : ∀ event : CanonicalEventInput, (∃ attempt, s.attempts event.attemptId = some attempt ∧ attempt.runId = runId) ↔
      event.attemptId = run.latestAttemptId := by
    intro event
    constructor
    · rintro ⟨attempt,found,owner⟩
      obtain ⟨mate,mateAt,points,_⟩ := agreed.owned _ _ found
      rw [owner,held] at mateAt
      cases mateAt
      exact points.symm
    · intro latest
      obtain ⟨attempt,found,owner⟩ := agreed.paired _ _ held
      exact ⟨attempt,latest ▸ found,owner⟩
  have mem_rows : ∀ row ∈ runEvents s rows runId, ∃ attempt, s.attempts run.latestAttemptId = some attempt ∧
      row.2 ∈ s.events ∧ row.2.attemptId = run.latestAttemptId ∧ row.1 = attempt.number := by
    intro row member
    obtain ⟨inside,attempt,found,owner,number⟩ := mem_runEvents.mp member
    have latest := (belongs row.2).mp ⟨attempt,found,owner⟩
    exact ⟨attempt,latest ▸ found,scanned.mem_iff.mp inside,latest,number⟩
  obtain ⟨ends,visits⟩ := (list_events_paged lawful scanned log named bounds held).follows
  refine ⟨ends,fun pages follows => ?_,?_,?_⟩
  · obtain ⟨each,sizes⟩ := visits pages follows
    have whole : pages.flatten = (ordered eventPosition (runEvents s rows runId)).map Prod.snd := by
      rw [←List.forall₂_eq_eq_eq,List.forall₂_map_right_iff]
      exact each.flip.imp fun _ _ same => same.symm
    refine ⟨sizes,?_,?_⟩
    · rw [whole,List.pairwise_map]
      refine (ordered_distinct (runEvents_distinct scanned log named)).imp_of_mem ?_
      intro one two first second before
      obtain ⟨attempt,found,inside,latest,number⟩ := mem_rows one ((ordered_perm _ _).mem_iff.mp first)
      obtain ⟨attempt',found',inside',latest',number'⟩ := mem_rows two ((ordered_perm _ _).mem_iff.mp second)
      cases found.symm.trans found'
      simp only [eventPosition,Prod.Lex.toLex_lt_toLex,number,number',lt_irrefl,true_and,false_or] at before
      rcases before with earlier | ⟨generation,sequence | ⟨sequence,id⟩⟩
      · exact .inl earlier
      · exact .inr ⟨generation,sequence⟩
      · -- Two events at one position are one event.
        have at' := eventByPosition_found log inside
        rw [latest,generation,sequence,←latest',eventByPosition_found log inside'] at at'
        rw [Option.some.inj at'] at id
        exact absurd id (Nat.lt_irrefl _)
    · intro event
      rw [whole,List.mem_map]
      constructor
      · rintro ⟨row,member,rfl⟩
        obtain ⟨_,_,inside,latest,_⟩ := mem_rows row ((ordered_perm _ _).mem_iff.mp member)
        exact ⟨inside,latest⟩
      · rintro ⟨inside,latest⟩
        obtain ⟨attempt,found,owner⟩ := (belongs event).mpr latest
        exact ⟨(attempt.number,event),(ordered_perm _ _).mem_iff.mpr
          (mem_runEvents.mpr ⟨scanned.mem_iff.mpr inside,attempt,found,owner,rfl⟩),rfl⟩
  · intro other eventId differs
    have unread : readEventCursor wire runId (eventCursor wire other eventId) = none := by
      rw [readEventCursor_eventCursor lawful,if_neg differs]
    simp [listEvents,require,bounds,held,readEventAnchor,unread,orRaise,bind,Except.bind]
  · intro eventId foreign
    have missing : (runEvents s rows runId).find? (fun row => row.2.id = eventId) = none := by
      refine List.find?_eq_none.mpr fun row member => ?_
      obtain ⟨_,_,inside,latest,_⟩ := mem_rows row member
      intro same
      exact foreign row.2 inside (of_decide_eq_true same) latest
    simp [listEvents,require,bounds,held,readEventAnchor,readEventCursor_eventCursor lawful,eventsPageByRunId,
      eventAnchor,missing,orRaise,bind,Except.bind,pure,Except.pure]

theorem list_events_pages_resumed : ∃ pages, Follows (EventTurn sampleWire sampleStore sampleStore.events 5 2) none pages ∧
    (∀ items ∈ pages.dropLast, items.length = 2) ∧
    (∀ event, event ∈ pages.flatten ↔ event ∈ sampleStore.events ∧ event.attemptId = 10) ∧
    listEvents sampleWire sampleStore sampleStore.events 5 (some (eventCursor sampleWire 6 31)) 2 =
      .error (.invalidEventCursor "invalid canonical event cursor") := by
  have reached : Runs (Enabled (commit sampleCryptography)) (.initial sampleDefinitions) sampleTransactions sampleStore :=
    execute_get (by decide)
  have held : (sampleStore.runs 5).isSome := by decide
  have latest : ((sampleStore.runs 5).get held).latestAttemptId = 10 := rfl
  obtain ⟨⟨pages,follows⟩,visits,refused,_⟩ := list_events_pages sampleWire_lawful reached (List.Perm.refl _)
    (Option.some_get held).symm (show (1 : Int) ≤ 2 ∧ (2 : Int) ≤ 100 from ⟨by decide,by decide⟩)
  obtain ⟨sizes,_,members⟩ := visits pages follows
  rw [latest] at members
  exact ⟨pages,follows,sizes,members,refused 6 31 (by decide)⟩

end Events

end EngineeringPlatform.Agent
