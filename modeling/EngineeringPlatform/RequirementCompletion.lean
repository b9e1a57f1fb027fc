import EngineeringPlatform.RequirementEvolution
-- Completion, deferred invalidation and the callbacks of formal requests, over
-- every run of a requirement.
namespace EngineeringPlatform.Requirement
open Checked
open Aggregate (invalidationBlock FormalDeliveryContext)

theorem reached_evolves (reached : Reached texts a) (step : Step texts a command a') : Evolution command a a' :=
  step_evolves (reached_consistent reached) step

theorem SameFormal.trans (one : SameFormal old middle) (two : SameFormal middle new) : SameFormal old new :=
  ⟨two.state.trans one.state,two.binding.trans one.binding,two.reason.trans one.reason,
    two.updated.trans one.updated⟩

-- What one step leaves of one row.
theorem step_row (reached : Reached texts a) (step : Step texts a command a') (present : row ∈ a.workItems) :
    ∃ new, a'.workItemById row.id = some new ∧ RowStep command a' row new := by
  obtain ⟨new,there,keyed,steps⟩ := (reached_evolves reached step).rows row present
  refine ⟨new,?_,steps⟩
  rw [←keyed]
  exact KeyedRows.find_of_mem (reached_consistent (reached.step step)).rows.unique there

theorem step_merged (reached : Reached texts a) (step : Step texts a command a') (present : row ∈ a.workItems)
    (merged : row.formalDeliveryState = .merged) : ∃ new, a'.workItemById row.id = some new ∧ SameFormal row new := by
  obtain ⟨new,found,steps⟩ := step_row reached step present
  refine ⟨new,found,?_⟩
  cases steps with
  | same => exact ⟨rfl,rfl,rfl,rfl⟩
  | delivery formal => exact formal
  | requested _ unmerged => exact absurd merged unmerged
  | answered waits =>
    rw [merged] at waits
    cases waits
  | reworked unmerged => exact absurd merged unmerged

theorem runs_merged (reached : Reached texts a) (runs : Runs texts a a') (present : row ∈ a.workItems)
    (merged : row.formalDeliveryState = .merged) : ∃ new, a'.workItemById row.id = some new ∧ SameFormal row new := by
  induction runs with
  | here =>
    exact ⟨row,KeyedRows.find_of_mem (reached_consistent reached).rows.unique present,rfl,rfl,rfl,rfl⟩
  | step before step ih =>
    obtain ⟨middle,found,same⟩ := ih
    obtain ⟨there,keyed⟩ := KeyedRows.find_some found
    obtain ⟨new,after,onward⟩ := step_merged (reached.runs before) step there (same.state.trans merged)
    exact ⟨new,keyed ▸ after,same.trans onward⟩

theorem singleton_of_nodup {rows : List α} (nodup : rows.Nodup) (member : row ∈ rows)
    (one : ∀ other ∈ rows, other = row) : rows = [row] := by
  cases rows with
  | nil => cases member
  | cons first rest =>
    cases one first (List.mem_cons_self ..)
    cases rest with
    | nil => rfl
    | cons second rest =>
      have same := one second (List.mem_cons_of_mem _ (List.mem_cons_self ..))
      have distinct := (List.nodup_cons.mp nodup).1
      rw [same] at distinct
      exact absurd (List.mem_cons_self ..) distinct

-- An accepted requirement has one selection in force, the one it was accepted for.
theorem Consistent.selection (consistent : Consistent a) (accepted : a.requirement.state.accepted = true) :
    ∃ selection gate decision,
      a.selections.filter (fun selection => selection.invalidatedAt = none) = [selection] ∧
        AcceptedBy a selection gate decision := by
  obtain ⟨selection,member,live,gate,decision,by_⟩ := consistent.evident.accepted accepted
  refine ⟨selection,gate,decision,?_,by_⟩
  have nodup : a.selections.Nodup := List.Nodup.of_map _ consistent.evident.unique
  refine singleton_of_nodup (nodup.filter _) (List.mem_filter.mpr ⟨member,by simpa using live⟩) ?_
  intro other there
  obtain ⟨present,alive⟩ := List.mem_filter.mp there
  obtain ⟨_,named⟩ := consistent.evident.live other present (by simpa using alive)
  have same : selection.id = other.id := Option.some.inj (by_.selected.symm.trans named)
  have one := KeyedRows.find_of_mem consistent.evident.unique member
  have two := KeyedRows.find_of_mem consistent.evident.unique present
  rw [same] at one
  exact Option.some.inj (two.symm.trans one)

theorem completion_sound (reached : Reached texts a) :
    (a.requirement.state = .completed →
      ∀ row ∈ a.workItems, row.state = .completed ∧ row.formalDeliveryState = .merged) ∧
    (∀ row ∈ a.workItems, row.formalDeliveryState = .merged → ∀ a', Runs texts a a' →
      ∃ new, a'.workItemById row.id = some new ∧ SameFormal row new) ∧
    (∀ row ∈ a.workItems, row.integrationDeliveryState = .integrated → ∀ command a', Step texts a command a' →
      ∃ new, a'.workItemById row.id = some new ∧
        (new.integrationDeliveryState = .integrated ∨ command.Reworks ∧ Withdrawn a')) ∧
    (a.requirement.state = .awaitingMerge ∨ a.requirement.state = .completed →
      ∃ selection gate decision,
        a.selections.filter (fun selection => selection.invalidatedAt = none) = [selection] ∧
          AcceptedBy a selection gate decision) := by
  have consistent := reached_consistent reached
  refine ⟨?_,?_,?_,?_⟩
  · intro completed row present
    have merged := consistent.phased.completed completed row present
    exact ⟨(consistent.rows.checked row present).formalCompletion merged,merged⟩
  · intro row present merged a' runs
    exact runs_merged reached runs present merged
  · intro row present integrated command a' step
    obtain ⟨new,found,steps⟩ := step_row reached step present
    refine ⟨new,found,?_⟩
    cases steps with
    | same => exact .inl integrated
    | delivery _ _ keeps => exact .inl (keeps integrated)
    | requested _ _ integration => exact .inl (integration.trans integrated)
    | answered _ _ integration => exact .inl (integration.trans integrated)
    | reworked _ _ reworks withdrawn => exact .inr ⟨reworks,withdrawn⟩
  · intro accepted
    refine consistent.selection ?_
    rcases accepted with state | state <;> rw [state] <;> rfl

theorem completion_sound_merged : ∃ a, Reached Rehearsal.texts a ∧ a.requirement.state = .completed ∧
    (∀ row ∈ a.workItems, row.state = .completed ∧ row.formalDeliveryState = .merged) ∧
    ∃ selection gate decision,
      a.selections.filter (fun selection => selection.invalidatedAt = none) = [selection] ∧
        AcceptedBy a selection gate decision := by
  obtain ⟨a,reached,completed⟩ := Rehearsal.rehearsed
    Rehearsal.merged (fun a => a.requirement.state = .completed) (by decide +kernel)
  have completed : a.requirement.state = .completed := by simpa using completed
  obtain ⟨merged,_,_,selected⟩ := completion_sound reached
  exact ⟨a,reached,completed,merged completed,selected (.inr completed)⟩

-- The step that answers the last pending request.
structure Settles (command : Command) (a a' : Aggregate) : Prop where
  last : ∀ row ∈ a.workItems, row.formalDeliveryState.pending = true → command.Answers row
  calm : ∀ row ∈ a'.workItems, row.formalDeliveryState.pending = false

theorem settles_of_calm (reached : Reached texts a) (step : Step texts a command a')
    (calm : ∀ row ∈ a'.workItems, row.formalDeliveryState.pending = false) : Settles command a a' := by
  refine ⟨?_,calm⟩
  intro row present waits
  obtain ⟨new,found,steps⟩ := step_row reached step present
  have there := (KeyedRows.find_some found).1
  cases steps with
  | same => cases (calm row there).symm.trans waits
  | delivery _ settled => cases settled.1.symm.trans waits
  | requested settled => cases settled.1.symm.trans waits
  | answered _ answers => exact answers
  | reworked _ answers => exact answers waits

-- A block stays as it is until the step that applies it.
theorem step_blocked (reached : Reached texts a) (step : Step texts a command a') (present : row ∈ a.workItems)
    (blocked : invalidationBlock row = true) : row ∈ a'.workItems ∨ command.Reworks ∧ Withdrawn a' := by
  obtain ⟨new,found,steps⟩ := step_row reached step present
  have there := (KeyedRows.find_some found).1
  cases steps with
  | same => exact .inl there
  | delivery _ settled => cases settled.2.symm.trans blocked
  | requested settled => cases settled.2.symm.trans blocked
  | answered waits =>
    have state : row.formalDeliveryState = .blocked := by
      unfold invalidationBlock at blocked
      simp only [Bool.decide_and,Bool.and_eq_true,decide_eq_true_eq] at blocked
      exact blocked.1
    rw [state] at waits
    cases waits
  | reworked _ _ reworks withdrawn => exact .inr ⟨reworks,withdrawn⟩

theorem unblocked_of_calm (reached : Reached texts a)
    (calm : ∀ row ∈ a.workItems, row.formalDeliveryState.pending = false) :
    ∀ row ∈ a.workItems, invalidationBlock row = false :=
  fun _ present => ((reached_consistent reached).phased.calm calm present).2

-- The one step of a run that applies the invalidations recorded before it.
structure Applied (texts : Texts) (a : Aggregate) (row : WorkItem) (a' : Aggregate) (b : Aggregate)
    (command : Command) (b' : Aggregate) : Prop where
  before : Runs texts a b
  step : Step texts b command b'
  after : Runs texts b' a'
  kept : row ∈ b.workItems
  settles : Settles command b b'
  reworks : command.Reworks
  withdrawn : Withdrawn b'
  unblocked : ∀ other ∈ b'.workItems, invalidationBlock other = false

theorem runs_blocked (reached : Reached texts a) (present : row ∈ a.workItems)
    (blocked : invalidationBlock row = true) (runs : Runs texts a a') :
    row ∈ a'.workItems ∨ ∃ b command b', Applied texts a row a' b command b' := by
  induction runs with
  | here => exact .inl present
  | step before step ih =>
    rcases ih with kept | ⟨b,command,b',applied⟩
    · have arrived := reached.runs before
      rcases step_blocked arrived step kept blocked with stays | ⟨reworks,withdrawn⟩
      · exact .inl stays
      · exact .inr ⟨_,_,_,before,step,.here,kept,settles_of_calm arrived step withdrawn.calm,reworks,withdrawn,
          unblocked_of_calm (arrived.step step) withdrawn.calm⟩
    · exact .inr ⟨b,command,b',{applied with after := .step applied.after step}⟩

-- A block is recorded where something else still waits, or applied at once.
theorem blocked_recorded (step : Step texts a (.recordFormalDeliveryBlocked workItemId bindingId reasonCode
    expectedRevision) a') (invalidates : reasonCode.invalidates = true) :
    (∃ row ∈ a'.workItems, row.id = workItemId ∧ invalidationBlock row = true) ∨ Withdrawn a' := by
  obtain ⟨d,ran⟩ := step
  obtain ⟨row,new,written,settled,answer,state,reason⟩ := recordFormalDeliveryBlocked_ok ran
  obtain ⟨present,here⟩ := KeyedRows.find_some answer.found
  cases ready : written.readyFormalInvalidationReason with
  | some reason => exact .inr (settle_withdrawn ready settled)
  | none =>
    unfold Aggregate.settle at settled
    rw [ready] at settled
    obtain ⟨_,rfl⟩ := Aggregate.updateRequirementState_ok.mp settled
    refine .inl ⟨new,?_,answer.keyed.trans here,?_⟩
    · show new ∈ written.workItems
      rw [answer.items]
      exact List.mem_map.mpr ⟨row,present,if_pos here⟩
    · unfold invalidationBlock
      rw [state,reason]
      simpa using invalidates

theorem invalidation_deferred (reached : Reached texts a) :
    (∀ command a', Step texts a command a' → EvidenceStands a a' ∨ Settles command a a') ∧
    (∀ row ∈ a.workItems, invalidationBlock row = true →
      (∃ other ∈ a.workItems, other.formalDeliveryState.pending = true) ∧
      ∀ a', Runs texts a a' → row ∈ a'.workItems ∨ ∃ b command b', Applied texts a row a' b command b') ∧
    (∀ workItemId bindingId reasonCode expectedRevision a', reasonCode.invalidates = true →
      Step texts a (.recordFormalDeliveryBlocked workItemId bindingId reasonCode expectedRevision) a' →
      (∃ row ∈ a'.workItems, row.id = workItemId ∧ invalidationBlock row = true) ∨ Withdrawn a') ∧
    ¬ (a.requirement.state = .awaitingMerge ∧ (∃ row ∈ a.workItems, invalidationBlock row = true) ∧
      ∀ row ∈ a.workItems, row.formalDeliveryState.pending = false) := by
  refine ⟨?_,?_,?_,?_⟩
  · intro command a' step
    rcases (reached_evolves reached step).evidence with stands | calm
    · exact .inl stands
    · exact .inr (settles_of_calm reached step calm)
  · intro row present blocked
    exact ⟨(reached_consistent reached).phased.blocks row present blocked,fun a' runs =>
      runs_blocked reached present blocked runs⟩
  · intro workItemId bindingId reasonCode expectedRevision a' invalidates step
    exact blocked_recorded step invalidates
  · rintro ⟨_,⟨row,present,blocked⟩,calm⟩
    cases (unblocked_of_calm reached calm row present).symm.trans blocked

theorem invalidation_deferred_drifted : ∃ a, Reached Rehearsal.texts a ∧ ∃ row ∈ a.workItems,
    invalidationBlock row = true ∧ (∃ other ∈ a.workItems, other.formalDeliveryState.pending = true) ∧
    ∀ a', Runs Rehearsal.texts a a' →
      row ∈ a'.workItems ∨ ∃ b command b', Applied Rehearsal.texts a row a' b command b' := by
  obtain ⟨a,reached,drifted⟩ := Rehearsal.rehearsed
    Rehearsal.drifted (fun a => a.workItems.any invalidationBlock) (by decide +kernel)
  obtain ⟨row,present,blocked⟩ := List.any_eq_true.mp drifted
  exact ⟨a,reached,row,present,blocked,(invalidation_deferred reached).2.1 row present blocked⟩

-- A pending row and its request stay as they are but for the answer.
theorem step_pending (reached : Reached texts a) (step : Step texts a command a') (present : row ∈ a.workItems)
    (waits : row.formalDeliveryState.pending = true) (elsewhere : ¬ command.Answers row) :
    row ∈ a'.workItems ∧ latestFormalRequest a'.outbox row.id = latestFormalRequest a.outbox row.id := by
  refine ⟨?_,(reached_evolves reached step).requests row present waits⟩
  obtain ⟨new,found,steps⟩ := step_row reached step present
  cases steps with
  | same => exact (KeyedRows.find_some found).1
  | delivery _ settled => cases settled.1.symm.trans waits
  | requested settled => cases settled.1.symm.trans waits
  | answered _ answers => exact absurd answers elsewhere
  | reworked _ answers => exact absurd (answers waits) elsewhere

-- What Source Control answers a request with: its revision, and the binding it
-- named or, for one it created, a new one.
structure Deliverable (a : Aggregate) (row : WorkItem) (request : FormalDeliveryPayload) : Prop where
  subject : formalCallbackSubject a row.id request.workItemRevision = .ok row
  blocked : formalBlockedAccepted request.formalMergeRequestBindingId row
  ready : request.kind = .createMr → ∀ bindingId headSha, commitSha headSha = true →
    request.formalMergeRequestBindingId = none ∨ request.formalMergeRequestBindingId = some bindingId →
    formalReadyAccepted bindingId headSha headSha row
  merged : request.kind = .mergeMr → ∃ bindingId, request.formalMergeRequestBindingId = some bindingId ∧
    ∀ headSha (context : FormalDeliveryContext), context.reviewApproved headSha = true →
      formalMergedAccepted bindingId headSha headSha context row

theorem Awaits.deliverable (awaits : Awaits row request) (present : a.workItemById row.id = some row)
    (waits : row.formalDeliveryState.pending = true) : Deliverable a row request := by
  have states : row.formalDeliveryState = .mrPending ∨ row.formalDeliveryState = .mergePending ∨
      row.formalDeliveryState = .reconciliationPending := by
    cases state : row.formalDeliveryState <;> simp [state,FormalDeliveryState.pending] at waits ⊢
  refine ⟨formalCallbackSubject_ok.mpr ⟨present,awaits.revision⟩,⟨?_,?_,?_⟩,?_,?_⟩
  · rcases states with state | state | state <;> simp [state]
  · exact fun _ => awaits.binding.symm
  · intro merging
    have bound := awaits.bound (awaits.merge merging)
    exact ⟨fun unbound => bound (awaits.binding.symm.trans unbound),bound⟩
  · intro create bindingId headSha sha fits
    refine ⟨?_,?_,rfl,sha⟩
    · rcases states with state | state | state
      · simp [state]
      · cases create.symm.trans (awaits.merge state)
      · simp [state]
    · rw [awaits.binding]
      exact fits
  · intro merge
    obtain ⟨bindingId,named⟩ := Option.ne_none_iff_exists'.mp (awaits.bound merge)
    refine ⟨bindingId,named,fun headSha context approved => ⟨?_,awaits.binding.trans named,rfl,approved⟩⟩
    rcases states with state | state | state
    · cases merge.symm.trans (awaits.create state)
    · simp [state]
    · simp [state]

theorem formal_callback_deliverable (reached : Reached texts a) (present : row ∈ a.workItems)
    (waits : row.formalDeliveryState.pending = true) :
    ∃ request, latestFormalRequest a.outbox row.id = some request ∧
      row.revision = request.workItemRevision +
        (if row.formalDeliveryState = .reconciliationPending then 1 else 0) ∧
      (∀ command a', Step texts a command a' → ¬ command.Answers row →
        row ∈ a'.workItems ∧ latestFormalRequest a'.outbox row.id = some request) ∧
      Deliverable a row request := by
  have consistent := reached_consistent reached
  obtain ⟨request,latest,awaits⟩ := consistent.requested row present waits
  refine ⟨request,latest,awaits.revision,?_,
    awaits.deliverable (KeyedRows.find_of_mem consistent.rows.unique present) waits⟩
  intro command a' step elsewhere
  obtain ⟨stays,same⟩ := step_pending reached step present waits elsewhere
  exact ⟨stays,same.trans latest⟩

theorem formal_callback_deliverable_requested : ∃ a, Reached Rehearsal.texts a ∧ ∃ row ∈ a.workItems,
    row.formalDeliveryState = .mrPending ∧
      ∃ request, latestFormalRequest a.outbox row.id = some request ∧ Deliverable a row request := by
  obtain ⟨a,reached,asked⟩ := Rehearsal.rehearsed
    Rehearsal.requested (fun a => a.workItems.any fun row => row.formalDeliveryState = .mrPending)
    (by decide +kernel)
  obtain ⟨row,present,state⟩ := List.any_eq_true.mp asked
  have state : row.formalDeliveryState = .mrPending := by simpa using state
  obtain ⟨request,latest,_,_,deliverable⟩ := formal_callback_deliverable reached present (by rw [state]; rfl)
  exact ⟨a,reached,row,present,state,request,latest,deliverable⟩

end EngineeringPlatform.Requirement
