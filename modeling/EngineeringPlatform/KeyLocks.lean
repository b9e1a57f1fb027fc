import Mathlib.Data.List.Nodup
-- Transactions that wait for one another at keys: of a row they lock, or of a unique
-- index they have inserted under. A key is free for the transaction that holds it;
-- the end of a transaction, by itself or by the server, gives up all its keys.
namespace KeyLocks
universe u v w
variable {κ : Type u}

structure Locks (κ : Type u) where
  held : List (κ × Nat)
  live : List Nat
  begun : Nat

namespace Locks
variable (locks : Locks κ) (transaction : Nat)

def none : Locks κ := ⟨[],[],0⟩

def start : Locks κ := {locks with live := locks.begun :: locks.live, begun := locks.begun + 1}

def Free (key : κ) : Prop := ∀ entry ∈ locks.held, entry.1 = key → entry.2 = transaction

instance [DecidableEq κ] (key : κ) : Decidable (locks.Free transaction key) := by
  unfold Free
  infer_instance

def take (keys : List κ) : Locks κ := {locks with held := keys.map (·,transaction) ++ locks.held}

def finish : Locks κ :=
  {locks with
    held := locks.held.filter fun entry => entry.2 ≠ transaction
    live := locks.live.filter (· ≠ transaction)}

-- ROLLBACK TO SAVEPOINT: of the keys of the transaction only those taken before.
def keep [DecidableEq κ] (keys : List κ) : Locks κ :=
  {locks with held := locks.held.filter fun entry => entry.2 ≠ transaction ∨ entry.1 ∈ keys}

def Holds (key : κ) : Prop := (key,transaction) ∈ locks.held

-- No key has two holders, and every holder is a transaction in progress.
structure Exclusive : Prop where
  one : ∀ key first second, locks.Holds first key → locks.Holds second key → first = second
  live : ∀ transaction key, locks.Holds transaction key → transaction ∈ locks.live
  begun : ∀ transaction ∈ locks.live, transaction < locks.begun

end Locks

variable {locks : Locks κ} {transaction other : Nat}

theorem none_exclusive : (Locks.none : Locks κ).Exclusive := by
  refine ⟨fun _ _ _ held => ?_,fun _ _ held => ?_,fun _ live => ?_⟩
  · cases held
  · cases held
  · cases live

theorem Locks.Exclusive.start (exclusive : locks.Exclusive) : locks.start.Exclusive := by
  refine ⟨exclusive.one,fun transaction key held => ?_,fun transaction live => ?_⟩
  · exact List.mem_cons_of_mem _ (exclusive.live transaction key held)
  · rcases List.mem_cons.mp live with rfl | earlier
    · exact Nat.lt_succ_self _
    · exact Nat.lt_succ_of_lt (exclusive.begun transaction earlier)

variable {keys : List κ} {key : κ}

theorem take_holds :
    (locks.take transaction keys).Holds other key ↔ other = transaction ∧ key ∈ keys ∨ locks.Holds other key := by
  unfold Locks.Holds Locks.take
  simp only [List.mem_append,List.mem_map,Prod.mk.injEq]
  constructor
  · rintro (⟨taken,member,rfl,rfl⟩ | held)
    · exact .inl ⟨rfl,member⟩
    · exact .inr held
  · rintro (⟨rfl,member⟩ | held)
    · exact .inl ⟨key,member,rfl,rfl⟩
    · exact .inr held

theorem Locks.Exclusive.take (exclusive : locks.Exclusive) (live : transaction ∈ locks.live)
    (free : ∀ key ∈ keys, locks.Free transaction key) : (locks.take transaction keys).Exclusive := by
  refine ⟨fun key first second one two => ?_,fun other key held => ?_,exclusive.begun⟩
  · rcases take_holds.mp one with ⟨rfl,member⟩ | before
    · rcases take_holds.mp two with ⟨rfl,_⟩ | before'
      · rfl
      · exact (free key member (key,second) before' rfl).symm
    · rcases take_holds.mp two with ⟨rfl,member⟩ | before'
      · exact free key member (key,first) before rfl
      · exact exclusive.one key first second before before'
  · rcases take_holds.mp held with ⟨rfl,_⟩ | held
    · exact live
    · exact exclusive.live other key held

theorem finish_holds :
    (locks.finish transaction).Holds other key ↔ other ≠ transaction ∧ locks.Holds other key := by
  unfold Locks.Holds Locks.finish
  simp only [List.mem_filter,decide_eq_true_eq,ne_eq]
  exact and_comm

theorem finish_live : other ∈ (locks.finish transaction).live ↔ other ≠ transaction ∧ other ∈ locks.live := by
  unfold Locks.finish
  simp only [List.mem_filter,decide_eq_true_eq,ne_eq]
  exact and_comm

theorem Locks.Exclusive.finish (exclusive : locks.Exclusive) : (locks.finish transaction).Exclusive := by
  refine ⟨fun key first second one two => ?_,fun other key held => ?_,fun other live => ?_⟩
  · exact exclusive.one key first second (finish_holds.mp one).2 (finish_holds.mp two).2
  · obtain ⟨differs,held⟩ := finish_holds.mp held
    exact finish_live.mpr ⟨differs,exclusive.live other key held⟩
  · exact exclusive.begun other (finish_live.mp live).2

theorem keep_holds [DecidableEq κ] :
    (locks.keep transaction keys).Holds other key ↔ locks.Holds other key ∧ (other ≠ transaction ∨ key ∈ keys) := by
  unfold Locks.Holds Locks.keep
  simp only [List.mem_filter,decide_eq_true_eq,ne_eq]

theorem Locks.Exclusive.keep [DecidableEq κ] (exclusive : locks.Exclusive) :
    (locks.keep transaction keys).Exclusive :=
  ⟨fun key first second one two => exclusive.one key first second (keep_holds.mp one).1 (keep_holds.mp two).1,
    fun other key held => exclusive.live other key (keep_holds.mp held).1,exclusive.begun⟩

section
variable {τ : Type v} {ω : Type w}

-- Tables whose rows are inserted under unique keys. A write needs the keys it
-- inserts, and those of the rows it changes.
structure Schema (τ : Type v) (ω : Type w) (κ : Type u) where
  apply : τ → ω → τ
  keys : τ → List κ
  inserts : ω → List κ
  needs : ω → List κ
  covered : ∀ write, inserts write ⊆ needs write
  applied : ∀ tables write, (keys (apply tables write)).Perm (keys tables ++ inserts write)

namespace Schema
variable (schema : Schema τ ω κ)

def applyAll (tables : τ) (writes : List ω) : τ := writes.foldl schema.apply tables

theorem applyAll_keys (tables : τ) (writes : List ω) :
    (schema.keys (schema.applyAll tables writes)).Perm (schema.keys tables ++ writes.flatMap schema.inserts) := by
  induction writes generalizing tables with
  | nil => simp [applyAll]
  | cons write rest ih =>
    rw [List.flatMap_cons,←List.append_assoc]
    exact (ih (schema.apply tables write)).trans ((schema.applied tables write).append_right _)

theorem mem_applyAll {tables : τ} {writes : List ω} :
    key ∈ schema.keys (schema.applyAll tables writes) ↔
      key ∈ schema.keys tables ∨ ∃ write ∈ writes, key ∈ schema.inserts write := by
  rw [(schema.applyAll_keys tables writes).mem_iff,List.mem_append,List.mem_flatMap]

-- What a transaction has written and not committed: the keys are unique in what it
-- sees, and it holds those it needs.
structure Pending (locks : Locks κ) (tables : τ) (transaction : Nat) (writes : List ω) : Prop where
  unique : (schema.keys (schema.applyAll tables writes)).Nodup
  reserved : ∀ write ∈ writes, ∀ key ∈ schema.needs write, locks.Holds transaction key

variable {schema} {tables : τ} {writes theirs : List ω}

theorem Pending.none (unique : (schema.keys tables).Nodup) : schema.Pending locks tables transaction [] :=
  ⟨unique,fun _ member => by cases member⟩

theorem Pending.later (pending : schema.Pending locks tables transaction writes) {locks' : Locks κ}
    (kept : ∀ key, locks.Holds transaction key → locks'.Holds transaction key) :
    schema.Pending locks' tables transaction writes :=
  ⟨pending.unique,fun write member key needed => kept key (pending.reserved write member key needed)⟩

theorem Pending.write (pending : schema.Pending locks tables transaction writes) {more : List ω}
    (needed : ∀ write ∈ more, ∀ key ∈ schema.needs write, key ∈ keys ∨ locks.Holds transaction key)
    (distinct : (more.flatMap schema.inserts).Nodup)
    (fresh : ∀ key ∈ more.flatMap schema.inserts, key ∉ schema.keys (schema.applyAll tables writes)) :
    schema.Pending (locks.take transaction keys) tables transaction (writes ++ more) := by
  refine ⟨?_,fun write member key needs => ?_⟩
  · have split : schema.applyAll tables (writes ++ more) = schema.applyAll (schema.applyAll tables writes) more :=
      List.foldl_append
    rw [split,(schema.applyAll_keys _ more).nodup_iff]
    exact List.nodup_append.mpr ⟨pending.unique,distinct,fun one seen two inserted same => fresh two inserted (same ▸ seen)⟩
  · rcases List.mem_append.mp member with earlier | now
    · exact take_holds.mpr (.inr (pending.reserved write earlier key needs))
    · rcases needed write now key needs with taken | held
      · exact take_holds.mpr (.inl ⟨rfl,taken⟩)
      · exact take_holds.mpr (.inr held)

-- Another transaction commits: it held the keys of what it inserted, so that none of
-- them is one of mine.
theorem Pending.committed (pending : schema.Pending locks tables transaction writes)
    (exclusive : locks.Exclusive) (other : schema.Pending locks tables transaction' theirs)
    (differs : transaction ≠ transaction') :
    schema.Pending (locks.finish transaction') (schema.applyAll tables theirs) transaction writes := by
  refine ⟨?_,fun write member key needs => finish_holds.mpr ⟨differs,pending.reserved write member key needs⟩⟩
  rw [(schema.applyAll_keys _ writes).nodup_iff]
  have mine := (schema.applyAll_keys tables writes).nodup_iff.mp pending.unique
  refine List.nodup_append.mpr ⟨other.unique,(List.nodup_append.mp mine).2.1,?_⟩
  rintro key there key' inserted rfl
  rcases schema.mem_applyAll.mp there with stored | ⟨write',member',inserted'⟩
  · exact (List.nodup_append.mp mine).2.2 key stored key inserted rfl
  · obtain ⟨write,member,here⟩ := List.mem_flatMap.mp inserted
    exact differs (exclusive.one key _ _ (pending.reserved write member key (schema.covered write here))
      (other.reserved write' member' key (schema.covered write' inserted')))

-- What a transaction has inserted under a key nobody has committed.
theorem Pending.absent (pending : schema.Pending locks tables transaction writes) {written : ω}
    (member : written ∈ writes) (inserted : key ∈ schema.inserts written) : key ∉ schema.keys tables := by
  intro stored
  have mine := (schema.applyAll_keys tables writes).nodup_iff.mp pending.unique
  exact (List.nodup_append.mp mine).2.2 key stored key (List.mem_flatMap.mpr ⟨written,member,inserted⟩) rfl

end Schema
end

end KeyLocks
