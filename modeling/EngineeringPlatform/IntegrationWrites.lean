import EngineeringPlatform.IntegrationLedger
namespace EngineeringPlatform.Integration
open Checked ClaimedRows SharedWorkers EngineeringPlatform.SourceControl
variable {policy : IntegrationPolicy} {s next : IntegrationStore} {holder : Option (Uuid × Nat)}

structure Aside (s next : IntegrationStore) : Prop where
  outbox : next.outbox = s.outbox
  revisions : next.revisions = s.revisions
  inbox : next.inbox = s.inbox
  effects : next.effects = s.effects
  effectIds : next.effectIds = s.effectIds
  bindings : next.bindings = s.bindings
  observations : ∀ fact ∈ s.observations, fact ∈ next.observations
  proofs : ∀ proof ∈ s.proofs, proof ∈ next.proofs
  callbacks : next.callbacks = s.callbacks

-- A proven merge request recorded: its effect is settled, and its binding replaces the
-- current one of the work item …
structure Replaced (s next : IntegrationStore) (now : Time) (binding : MergeRequestBinding)
    (old new : IntegrationEffect) : Prop where
  outbox : next.outbox = s.outbox
  revisions : next.revisions = s.revisions
  inbox : next.inbox = s.inbox
  effectIds : next.effectIds = s.effectIds
  observations : ∀ fact ∈ s.observations, fact ∈ next.observations
  proofs : ∀ proof ∈ s.proofs, proof ∈ next.proofs
  callbacks : next.callbacks = s.callbacks
  found : s.effects binding.createEffectId = some old
  moves : EffectMoves old new
  effects : next.effects = s.effects.put binding.createEffectId new
  bindings : next.bindings = (supersedeCurrentIntegrationBinding binding.workItemId now s).bindings ++ [binding]
  current : binding.supersededAt = none
  fresh : ∀ other ∈ s.bindings, other.id ≠ binding.id ∧ other.createEffectId ≠ binding.createEffectId

-- … as the proof has it.
structure Bound (policy : IntegrationPolicy) (s next : IntegrationStore) (now : Time) (binding : MergeRequestBinding)
    (old new : IntegrationEffect) (proof : ProviderProof) : Prop where
  replaced : Replaced s next now binding old new
  made : Made next binding new proof
  valid : RowValid policy next binding.createEffectId new

-- What any step does to the store, one write after the other. `holder` is the claim of
-- the request that the step is taken under.
inductive Write (policy : IntegrationPolicy) (holder : Option (Uuid × Nat)) (s : IntegrationStore) :
    IntegrationStore → Prop where
  | requested (sent : requestDelivery messageId payload s = some after) : Write policy holder s after
  | accepted (received : acceptDeliveryRequest policy messageId now s = some after) : Write policy holder s after
  | inbox (found : s.inbox messageId = some old) (moves : RequestMoves old new)
      (claimed : new.attempts = old.attempts →
        new.lastErrorCode = old.lastErrorCode ∨ holder = some (messageId,old.attempts))
      (answered : new.state = .processed → Refused s new ∨ Served s new) :
      Write policy holder s {s with inbox := s.inbox.put messageId new}
  | effects (moves : Table.Advances EffectMoves s.effects rows) (known : ∀ id row, rows id = some row →
      s.effects id ≠ none) (valid : Table.Every (RowValid policy s) rows) : Write policy holder s (s.putEffects rows)
  | planned (fresh : s.effects effect.id = none) (absent : ∀ id row, s.effects id = some row →
      row.operation = effect.operation → row.subject ≠ effect.subject) (valid : RowValid policy s effect.id effect) :
      Write policy holder s {s with
        effects := s.effects.put effect.id effect, effectIds := s.effectIds ++ [effect.id]}
  | bound (bound : Bound policy s after now binding old new proof) : Write policy holder s after
  | called (told : Told s callback) : Write policy holder s (s.called callback)
  | aside (aside : Aside s after) : Write policy holder s after

def Writes (policy : IntegrationPolicy) (holder : Option (Uuid × Nat)) : IntegrationStore → IntegrationStore → Prop :=
  Relation.ReflTransGen (Write policy holder)

theorem supersede_moves (workItemId : Uuid) (now : Time) (member : binding ∈ s.bindings) :
    ∃ kept ∈ (supersedeCurrentIntegrationBinding workItemId now s).bindings, BindingMoves binding kept := by
  refine ⟨_,List.mem_map_of_mem member,?_⟩
  split
  · rename_i chosen
    exact ⟨rfl,fun superseded => absurd chosen.2 superseded⟩
  · exact .refl binding

theorem supersede_mem {kept : MergeRequestBinding}
    (member : kept ∈ (supersedeCurrentIntegrationBinding workItemId now s).bindings) :
    ∃ binding ∈ s.bindings, BindingMoves binding kept ∧
      (kept.workItemId = workItemId → kept.supersededAt ≠ none) ∧
      (kept.supersededAt = none → kept = binding) := by
  obtain ⟨binding,there,same⟩ := List.mem_map.mp member
  refine ⟨binding,there,?_⟩
  split at same
  · rename_i chosen
    subst same
    exact ⟨⟨rfl,fun superseded => absurd chosen.2 superseded⟩,(fun _ absurd => by cases absurd),
      fun absurd => by cases absurd⟩
  · rename_i passed
    subst same
    exact ⟨.refl binding,fun item current => passed ⟨item,current⟩,fun _ => rfl⟩

theorem supersede_keys {key : MergeRequestBinding → Nat}
    (same : ∀ row : MergeRequestBinding, ∀ now, key {row with supersededAt := some now} = key row) :
    (supersedeCurrentIntegrationBinding workItemId now s).bindings.map key = s.bindings.map key := by
  unfold supersedeCurrentIntegrationBinding
  dsimp only
  rw [List.map_map]
  refine List.map_congr_left fun row _ => ?_
  dsimp only [Function.comp]
  split
  · exact same row now
  · rfl

theorem Replaced.grows (replaced : Replaced s next now binding old new) : Grows s next := by
  refine ⟨replaced.inbox ▸ .refl RequestMoves.refl _,?_,?_,replaced.observations,replaced.proofs,
    fun _ member => replaced.callbacks ▸ member⟩
  · rw [replaced.effects]
    refine .put EffectMoves.refl fun before stored => ?_
    cases replaced.found.symm.trans stored
    exact replaced.moves
  · intro other member
    obtain ⟨kept,there,moved⟩ := supersede_moves _ _ member
    exact ⟨kept,replaced.bindings ▸ List.mem_append_left _ there,moved⟩

theorem acceptDeliveryRequest_some (received : acceptDeliveryRequest policy messageId now s = some next) :
    ∃ payload, s.inbox messageId = none ∧ s.outbox messageId = some payload ∧
      next = s.putInbox (payload.request policy messageId now) := by
  unfold acceptDeliveryRequest at received
  split at received
  · rename_i payload absent sent
    exact ⟨payload,absent,sent,(Option.some.inj received).symm⟩
  · cases received

theorem Write.grows (write : Write policy holder s next) : Grows s next := by
  cases write with
  | requested sent =>
    obtain ⟨_,same⟩ := Option.ite_none_right_eq_some.mp sent
    cases same
    exact { Grows.refl s with }
  | accepted received =>
    obtain ⟨_,absent,_,rfl⟩ := acceptDeliveryRequest_some received
    refine { Grows.refl s with inbox := .put RequestMoves.refl fun old stored => ?_ }
    cases absent.symm.trans stored
  | inbox found moves _ _ =>
    refine { Grows.refl s with inbox := .put RequestMoves.refl fun old stored => ?_ }
    cases found.symm.trans stored
    exact moves
  | effects moves _ _ => exact { Grows.refl s with effects := moves }
  | planned fresh _ _ =>
    refine { Grows.refl s with effects := .put EffectMoves.refl fun old stored => ?_ }
    rw [fresh] at stored
    cases stored
  | bound bound => exact bound.replaced.grows
  | called told =>
    exact { Grows.refl s with callbacks := fun _ member => List.mem_append_left _ member }
  | aside aside =>
    exact ⟨aside.inbox ▸ .refl RequestMoves.refl _,aside.effects ▸ .refl EffectMoves.refl _,
      (fun binding member => ⟨binding,aside.bindings ▸ member,.refl _⟩),aside.observations,aside.proofs,
      fun _ member => aside.callbacks ▸ member⟩

theorem Writes.grows (writes : Writes policy holder s next) : Grows s next := by
  induction writes with
  | refl => exact .refl s
  | tail _ write ih => exact ih.trans write.grows

theorem requestDelivery_valid (valid : RequestsValid policy s) (sent : requestDelivery messageId payload s = some next) :
    RequestsValid policy next := by
  obtain ⟨⟨absent,raised⟩,same⟩ := Option.ite_none_right_eq_some.mp sent
  cases same
  have behind (other : Uuid) (row : DeliveryPayload) (found : s.outbox other = some row)
      (same : row = payload) : False := by
    have bound := valid.revised other row found
    subst same
    omega
  refine ⟨fun other row found => ?_,fun one two row first second => ?_,fun other row found => ?_⟩
  · rcases Table.put_some found with ⟨rfl,rfl⟩ | ⟨_,stored⟩
    · simp
    · have bound := valid.revised other row stored
      dsimp only
      by_cases here : row.requirementId = payload.requirementId
      · rw [here] at bound ⊢
        rw [Function.update_self]
        omega
      · rw [Function.update_of_ne here]
        exact bound
  · rcases Table.put_some first with ⟨rfl,rfl⟩ | ⟨_,stored⟩
    · rcases Table.put_some second with ⟨rfl,_⟩ | ⟨_,stored⟩
      · rfl
      · exact (behind two row stored rfl).elim
    · rcases Table.put_some second with ⟨rfl,rfl⟩ | ⟨_,stored'⟩
      · exact (behind one row stored rfl).elim
      · exact valid.separate one two row stored stored'
  · obtain ⟨named,there,hashed⟩ := valid.accepted other row found
    refine ⟨named,?_,hashed⟩
    have differs : other ≠ messageId := by
      rintro rfl
      rw [absent] at there
      cases there
    change s.outbox.put messageId payload other = _
    rw [Table.put_other _ _ differs]
    exact there

theorem acceptDeliveryRequest_valid (valid : RequestsValid policy s)
    (received : acceptDeliveryRequest policy messageId now s = some next) : RequestsValid policy next := by
  obtain ⟨payload,_,sent,rfl⟩ := acceptDeliveryRequest_some received
  refine ⟨valid.revised,valid.separate,fun other row found => ?_⟩
  rcases Table.put_some found with ⟨rfl,rfl⟩ | ⟨_,stored⟩
  · exact ⟨rfl,sent,rfl⟩
  · exact valid.accepted other row stored

theorem moved_valid (valid : RequestsValid policy s) (found : s.inbox messageId = some old) (moves : RequestMoves old new) :
    RequestsValid policy {s with inbox := s.inbox.put messageId new} := by
  refine ⟨valid.revised,valid.separate,fun other row stored => ?_⟩
  rcases Table.put_some stored with ⟨rfl,rfl⟩ | ⟨_,stored⟩
  · obtain ⟨named,sent,hashed⟩ := valid.accepted _ old found
    refine ⟨moves.same.messageId.trans named,?_,?_⟩
    · rw [moves.same.payload]
      exact sent
    · rw [moves.same.payload,moves.same.payloadHash]
      exact hashed
  · exact valid.accepted other row stored

theorem Write.requests (valid : RequestsValid policy s) (write : Write policy holder s next) :
    RequestsValid policy next := by
  cases write with
  | requested sent => exact requestDelivery_valid valid sent
  | accepted received => exact acceptDeliveryRequest_valid valid received
  | inbox found moves _ _ => exact moved_valid valid found moves
  | effects _ _ _ => exact ⟨valid.revised,valid.separate,valid.accepted⟩
  | planned _ _ _ => exact ⟨valid.revised,valid.separate,valid.accepted⟩
  | called _ => exact ⟨valid.revised,valid.separate,valid.accepted⟩
  | bound bound =>
    exact ⟨bound.replaced.outbox ▸ bound.replaced.revisions ▸ valid.revised,bound.replaced.outbox ▸ valid.separate,
      bound.replaced.outbox ▸ bound.replaced.inbox ▸ valid.accepted⟩
  | aside aside =>
    exact ⟨aside.outbox ▸ aside.revisions ▸ valid.revised,aside.outbox ▸ valid.separate,
      aside.outbox ▸ aside.inbox ▸ valid.accepted⟩

-- A binding that was made stays so: its effect is settled, and what it proved was said.
theorem Made.kept {kept : MergeRequestBinding} (made : Made s binding row proof) (moved : BindingMoves binding kept)
    (grows : Grows s next) : ∃ row', Made next kept row' proof := by
  obtain ⟨row',stored,ages⟩ := grows.effects _ row made.stored
  obtain ⟨state,reason,_⟩ := ages.settled (settledCreate_terminal made.settled)
  have same := moved.same
  refine ⟨row',?_,ages.plan.operation.trans made.operation,ages.plan.workItemId.trans (made.workItem.trans ?_),
    ages.plan.requirementId.trans (made.requirement.trans ?_),
    ages.plan.repositoryId.trans (made.repository.trans ?_),grows.proofs _ made.said,?_,?_⟩
  · rw [moved.createEffectId]
    exact stored
  · rw [same]
  · rw [same]
  · rw [same]
  · rw [same]
    exact made.proven
  · rw [state,reason]
    exact made.settled

theorem BindingsValid.same (valid : BindingsValid s) (bindings : next.bindings = s.bindings) (grows : Grows s next) :
    BindingsValid next := by
  refine ⟨bindings ▸ valid.keyed,bindings ▸ valid.once,bindings ▸ valid.current,bindings ▸ valid.headed,
    fun binding member => ?_⟩
  obtain ⟨row,proof,made⟩ := valid.made binding (bindings ▸ member)
  obtain ⟨row',kept⟩ := made.kept (.refl binding) grows
  exact ⟨row',proof,kept⟩

theorem appended_unique {key : MergeRequestBinding → Nat} {rows : List MergeRequestBinding}
    (unique : KeyedRows.Unique key s.bindings) (fresh : ∀ other ∈ s.bindings, key other ≠ key binding)
    (same : rows.map key = s.bindings.map key) : KeyedRows.Unique key (rows ++ [binding]) := by
  unfold KeyedRows.Unique at unique ⊢
  rw [List.map_append,same,List.nodup_append]
  refine ⟨unique,by simp,?_⟩
  intro one member two single meet
  obtain ⟨other,there,rfl⟩ := List.mem_map.mp member
  exact fresh other there (meet.trans (by simpa using single))

theorem Bound.valid_bindings (valid : BindingsValid s) (bound : Bound policy s next now binding old new proof)
    (grows : Grows s next) : BindingsValid next := by
  refine ⟨?_,?_,?_,?_,?_⟩
  · rw [bound.replaced.bindings]
    exact appended_unique valid.keyed (fun other member => (bound.replaced.fresh other member).1)
      (supersede_keys fun _ _ => rfl)
  · rw [bound.replaced.bindings]
    exact appended_unique valid.once (fun other member => (bound.replaced.fresh other member).2)
      (supersede_keys fun _ _ => rfl)
  · rw [bound.replaced.bindings]
    intro one first two second item current current'
    rcases List.mem_append.mp first with first | first
    · obtain ⟨old,there,_,beyond,same⟩ := supersede_mem first
      rcases List.mem_append.mp second with second | second
      · obtain ⟨old',there',_,_,same'⟩ := supersede_mem second
        cases same current
        cases same' current'
        exact valid.current _ there _ there' item current current'
      · cases List.mem_singleton.mp second
        exact absurd current (beyond item)
    · cases List.mem_singleton.mp first
      rcases List.mem_append.mp second with second | second
      · obtain ⟨_,_,_,beyond,_⟩ := supersede_mem second
        exact absurd current' (beyond item.symm)
      · exact (List.mem_singleton.mp second).symm
  · rw [bound.replaced.bindings]
    intro other member
    by_cases item : other.workItemId = binding.workItemId
    · exact ⟨binding,List.mem_append_right _ (List.mem_singleton_self _),item.symm,bound.replaced.current⟩
    · rcases List.mem_append.mp member with member | member
      · obtain ⟨before,there,moved,_⟩ := supersede_mem member
        obtain ⟨one,present,same,current⟩ := valid.headed before there
        have elsewhere : one.workItemId ≠ binding.workItemId :=
          fun meet => item (moved.workItemId.trans (same.symm.trans meet))
        refine ⟨one,List.mem_append_left _ ?_,same.trans moved.workItemId.symm,current⟩
        exact List.mem_map.mpr ⟨one,present,if_neg fun both => elsewhere both.1⟩
      · exact absurd (congrArg MergeRequestBinding.workItemId (List.mem_singleton.mp member)) item
  · rw [bound.replaced.bindings]
    intro other member
    rcases List.mem_append.mp member with member | member
    · obtain ⟨before,there,moved,_⟩ := supersede_mem member
      obtain ⟨row,proof,made⟩ := valid.made before there
      obtain ⟨row',kept⟩ := made.kept moved grows
      exact ⟨row',proof,kept⟩
    · cases List.mem_singleton.mp member
      exact ⟨new,proof,bound.made⟩

theorem Write.bindings (valid : BindingsValid s) (write : Write policy holder s next) : BindingsValid next := by
  have grows := write.grows
  cases write with
  | requested sent =>
    obtain ⟨_,same⟩ := Option.ite_none_right_eq_some.mp sent
    cases same
    exact valid.same rfl grows
  | accepted received =>
    obtain ⟨_,_,_,rfl⟩ := acceptDeliveryRequest_some received
    exact valid.same rfl grows
  | inbox _ _ _ _ => exact valid.same rfl grows
  | effects _ _ _ => exact valid.same rfl grows
  | planned _ _ _ => exact valid.same rfl grows
  | called _ => exact valid.same rfl grows
  | bound bound => exact bound.valid_bindings valid grows
  | aside aside => exact valid.same aside.bindings grows

structure EffectsValid (policy : IntegrationPolicy) (s : IntegrationStore) : Prop where
  rows : Table.Every (RowValid policy s) s.effects
  listed : ∀ id row, s.effects id = some row → id ∈ s.effectIds
  distinct : ∀ one two row row', s.effects one = some row → s.effects two = some row' →
    row.operation = row'.operation → row.subject = row'.subject → one = two

theorem EffectsValid.same (valid : EffectsValid policy s) (effects : next.effects = s.effects)
    (effectIds : next.effectIds = s.effectIds) (grows : Grows s next) : EffectsValid policy next := by
  refine ⟨?_,effects ▸ effectIds ▸ valid.listed,effects ▸ valid.distinct⟩
  rw [effects]
  exact fun id row found => (valid.rows id row found).kept grows

-- Rows that only aged keep their keys.
theorem EffectsValid.aged (valid : EffectsValid policy s) (moves : Table.Advances EffectMoves s.effects next.effects)
    (known : ∀ id row, next.effects id = some row → s.effects id ≠ none) (effectIds : next.effectIds = s.effectIds)
    (rows : Table.Every (RowValid policy next) next.effects) : EffectsValid policy next := by
  have old (id : Uuid) (row : IntegrationEffect) (found : next.effects id = some row) :
      ∃ before, s.effects id = some before ∧ EffectMoves before row := by
    obtain ⟨before,stored⟩ := Option.ne_none_iff_exists'.mp (known id row found)
    obtain ⟨after,here,ages⟩ := moves id before stored
    cases here.symm.trans found
    exact ⟨before,stored,ages⟩
  refine ⟨rows,fun id row found => ?_,fun one two row row' first second operation subject => ?_⟩
  · obtain ⟨before,stored,_⟩ := old id row found
    exact effectIds ▸ valid.listed id before stored
  · obtain ⟨before,stored,ages⟩ := old one row first
    obtain ⟨before',stored',ages'⟩ := old two row' second
    refine valid.distinct one two before before' stored stored' ?_ ?_
    · exact ages.plan.operation.symm.trans (operation.trans ages'.plan.operation)
    · exact ages.plan.subject.symm.trans (subject.trans ages'.plan.subject)

theorem Write.effects_valid (valid : EffectsValid policy s) (write : Write policy holder s next) : EffectsValid policy next := by
  have grows := write.grows
  cases write with
  | requested sent =>
    obtain ⟨_,same⟩ := Option.ite_none_right_eq_some.mp sent
    cases same
    exact valid.same rfl rfl grows
  | accepted received =>
    obtain ⟨_,_,_,rfl⟩ := acceptDeliveryRequest_some received
    exact valid.same rfl rfl grows
  | inbox _ _ _ _ => exact valid.same rfl rfl grows
  | called _ => exact valid.same rfl rfl grows
  | effects moves known rows => exact valid.aged moves known rfl fun id row found => (rows id row found).kept grows
  | planned fresh absent row =>
    refine ⟨?_,fun id other found => ?_,fun one two other other' first second operation subject => ?_⟩
    · exact Table.Every.put (fun id other found => (valid.rows id other found).kept grows) (row.kept grows)
    · rcases Table.put_some found with ⟨rfl,_⟩ | ⟨_,stored⟩
      · exact List.mem_append_right _ (List.mem_singleton_self _)
      · exact List.mem_append_left _ (valid.listed id other stored)
    · rcases Table.put_some first with ⟨rfl,rfl⟩ | ⟨_,stored⟩
      · rcases Table.put_some second with ⟨rfl,_⟩ | ⟨_,stored'⟩
        · rfl
        · exact absurd subject.symm (absent two other' stored' operation.symm)
      · rcases Table.put_some second with ⟨rfl,rfl⟩ | ⟨_,stored'⟩
        · exact absurd subject (absent one other stored operation)
        · exact valid.distinct one two other other' stored stored' operation subject
  | bound bound =>
    refine valid.aged grows.effects ?_ bound.replaced.effectIds ?_
    · rw [bound.replaced.effects]
      intro id row found
      rcases Table.put_some found with ⟨rfl,_⟩ | ⟨_,stored⟩
      · rw [bound.replaced.found]
        exact Option.some_ne_none _
      · rw [stored]
        exact Option.some_ne_none _
    · rw [bound.replaced.effects]
      exact Table.Every.put (fun id row found => (valid.rows id row found).kept grows) bound.valid
  | aside aside => exact valid.same aside.effects aside.effectIds grows

-- A row whose state a write leaves alone was answered before.
theorem Write.answered (valid : StoreValid policy s) (write : Write policy holder s next)
    (found : next.inbox messageId = some row) (processed : row.state = .processed) :
    Refused next row ∨ Served next row := by
  have grows := write.grows
  have before (stored : s.inbox messageId = some row) : Refused next row ∨ Served next row :=
    (valid.answered messageId row stored processed).imp (·.kept grows) (·.kept grows)
  cases write with
  | requested sent =>
    obtain ⟨_,same⟩ := Option.ite_none_right_eq_some.mp sent
    cases same
    exact before found
  | accepted received =>
    obtain ⟨_,_,_,rfl⟩ := acceptDeliveryRequest_some received
    rcases Table.put_some found with ⟨rfl,rfl⟩ | ⟨_,stored⟩
    · cases processed
    · exact before stored
  | inbox _ _ _ answered =>
    rcases Table.put_some found with ⟨rfl,rfl⟩ | ⟨_,stored⟩
    · exact (answered processed).imp (·.kept grows) (·.kept grows)
    · exact before stored
  | effects _ _ _ => exact before found
  | planned _ _ _ => exact before found
  | called _ => exact before found
  | bound bound => exact before (bound.replaced.inbox ▸ found)
  | aside aside => exact before (aside.inbox ▸ found)

theorem Write.told (valid : StoreValid policy s) (write : Write policy holder s next)
    (member : callback ∈ next.callbacks) : Told next callback := by
  have grows := write.grows
  have before (there : callback ∈ s.callbacks) : Told next callback := (valid.told callback there).kept grows
  cases write with
  | requested sent =>
    obtain ⟨_,same⟩ := Option.ite_none_right_eq_some.mp sent
    cases same
    exact before member
  | accepted received =>
    obtain ⟨_,_,_,rfl⟩ := acceptDeliveryRequest_some received
    exact before member
  | inbox _ _ _ _ => exact before member
  | effects _ _ _ => exact before member
  | planned _ _ _ => exact before member
  | called told =>
    rcases List.mem_append.mp member with there | here
    · exact before there
    · cases List.mem_singleton.mp here
      exact told.kept grows
  | bound bound => exact before (bound.replaced.callbacks ▸ member)
  | aside aside => exact before (aside.callbacks ▸ member)

theorem Write.valid (valid : StoreValid policy s) (write : Write policy holder s next) : StoreValid policy next := by
  have effects := write.effects_valid ⟨valid.rows,valid.listed,valid.distinct⟩
  exact ⟨write.requests valid.requests,effects.rows,effects.listed,effects.distinct,write.bindings valid.bindings,
    fun _ _ found processed => write.answered valid found processed,fun _ member => write.told valid member⟩

theorem Writes.valid (valid : StoreValid policy s) (writes : Writes policy holder s next) : StoreValid policy next := by
  induction writes with
  | refl => exact valid
  | tail _ write ih => exact write.valid ih

end EngineeringPlatform.Integration
