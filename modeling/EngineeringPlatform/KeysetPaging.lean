import Mathlib.Data.List.Forall2
import Mathlib.Data.List.Sort
import Mathlib.Order.Basic
-- Keyset paging. Rows are ordered by a position and fetched one more than a page holds;
-- the cursor of a page names its last row, and the next page starts behind that row.
namespace KeysetPaging
universe u v w x
variable {ρ : Type u} {π : Type v} {γ : Type w} {τ : Type x} [LinearOrder π]

-- ORDER BY position
def ordered (position : ρ → π) (rows : List ρ) : List ρ :=
  rows.insertionSort fun one two => position one ≤ position two

def behind (position : ρ → π) (after : Option π) (row : ρ) : Bool :=
  after.all fun anchor => anchor < position row

-- WHERE position > anchor ORDER BY position LIMIT count
def fetch (position : ρ → π) (rows : List ρ) (after : Option π) (count : Nat) : List ρ :=
  (ordered position (rows.filter (behind position after))).take count

-- A page of what was fetched, with a cursor when there was more than the page holds.
def page (mark : ρ → γ) (limit : Nat) (fetched : List ρ) : List ρ × Option γ :=
  (fetched.take limit,if limit < fetched.length then (fetched.take limit).getLast?.map mark else none)

-- A reader who follows the cursors from one page to the next until none is returned.
inductive Follows (turn : Option γ → List τ → Option γ → Prop) : Option γ → List (List τ) → Prop where
  | last (turned : turn after items none) : Follows turn after [items]
  | next (turned : turn after items (some cursor)) (rest : Follows turn (some cursor) pages) :
      Follows turn after (items :: pages)

variable {position : ρ → π} {mark : ρ → γ} {rows : List ρ} {limit : Nat}

theorem ordered_sorted (rows : List ρ) :
    (ordered position rows).Pairwise fun one two => position one ≤ position two :=
  have : Std.Total fun one two : ρ => position one ≤ position two := ⟨fun _ _ => le_total _ _⟩
  have : IsTrans ρ fun one two => position one ≤ position two := ⟨fun _ _ _ => le_trans⟩
  List.pairwise_insertionSort _ rows

theorem ordered_perm (position : ρ → π) (rows : List ρ) : (ordered position rows).Perm rows :=
  List.perm_insertionSort _ rows

theorem ordered_distinct (distinct : (rows.map position).Nodup) :
    (ordered position rows).Pairwise fun one two => position one < position two := by
  have apart : ((ordered position rows).map position).Nodup :=
    ((ordered_perm position rows).map position).nodup_iff.mpr distinct
  refine ((ordered_sorted rows).and (List.pairwise_map.mp apart)).imp ?_
  intro one two both
  exact lt_of_le_of_ne both.1 both.2

-- Rows with distinct positions have one order only.
theorem ordered_unique {sorted : List ρ} (increasing : sorted.Pairwise fun one two => position one < position two)
    (same : rows.Perm sorted) : ordered position rows = sorted := by
  have distinct : (sorted.map position).Nodup := List.pairwise_map.mpr (increasing.imp ne_of_lt)
  have left := ordered_distinct (((same.map position).nodup_iff).mpr distinct)
  refine List.Perm.eq_of_pairwise ?_ left increasing ((ordered_perm position rows).trans same)
  intro one two _ _ before after
  exact absurd after (lt_asymm before)

-- What is behind an anchor inside an ordered list is what follows it there.
theorem behind_anchor {before later : List ρ} {row : ρ}
    (increasing : (before ++ row :: later).Pairwise fun one two => position one < position two) :
    (before ++ row :: later).filter (behind position (some (position row))) = later := by
  obtain ⟨_,tail,across⟩ := List.pairwise_append.mp increasing
  obtain ⟨first,_⟩ := List.pairwise_cons.mp tail
  have none_before : before.filter (behind position (some (position row))) = [] := by
    refine List.filter_eq_nil_iff.mpr fun other member => ?_
    simpa [behind] using le_of_lt (across other member row List.mem_cons_self)
  have all_later : later.filter (behind position (some (position row))) = later := by
    refine List.filter_eq_self.mpr fun other member => ?_
    simpa [behind] using first other member
  simp [List.filter_append,none_before,all_later,behind]

-- The rows behind the last row of a page are those that the page leaves.
theorem behind_page {after : Option π} (distinct : (rows.map position).Nodup) {row : ρ} {before later : List ρ}
    (split : ordered position (rows.filter (behind position after)) = before ++ row :: later) :
    ordered position (rows.filter (behind position (some (position row)))) = later := by
  have apart : ((rows.filter (behind position after)).map position).Nodup :=
    distinct.sublist (List.filter_sublist.map position)
  have increasing := ordered_distinct apart
  rw [split] at increasing
  have reached : behind position after row = true := by
    have member : row ∈ rows.filter (behind position after) := by
      rw [←(ordered_perm position _).mem_iff,split]
      simp
    exact (List.mem_filter.mp member).2
  -- Whatever is behind `row` is behind the older anchor too.
  have nested : rows.filter (behind position (some (position row))) =
      (rows.filter (behind position after)).filter (behind position (some (position row))) := by
    rw [List.filter_filter]
    refine List.filter_congr fun other _ => ?_
    cases after with
    | none => simp [behind]
    | some anchor =>
      have step : anchor < position row := by simpa [behind] using reached
      by_cases past : position row < position other
      · simp [behind,past,lt_trans step past]
      · simp [behind,past]
  refine ordered_unique (List.pairwise_cons.mp (List.pairwise_append.mp increasing).2.1).2 ?_
  rw [nested,←behind_anchor increasing,←split]
  exact ((ordered_perm position _).symm.filter _)

-- What a query answers for a page: each row as it is shown, and the cursor.
def Answers (shows : ρ → τ → Prop) (page : List ρ × Option γ) (items : List τ) (next : Option γ) : Prop :=
  List.Forall₂ shows page.1 items ∧ next = page.2

variable {shows : ρ → τ → Prop} {items : List τ}

theorem Answers.unique (functional : ∀ row one two, shows row one → shows row two → one = two)
    {page : List ρ × Option γ} {others : List τ} {next last : Option γ} (one : Answers shows page items next)
    (two : Answers shows page others last) : items = others :=
  List.right_unique_forall₂' (fun row _ _ first second => functional row _ _ first second) one.1 two.1

-- A query that starts at the first row, or behind the row that a cursor names.
structure Paged (position : ρ → π) (mark : ρ → γ) (shows : ρ → τ → Prop) (rows : List ρ) (limit : Nat)
    (turn : Option γ → List τ → Option γ → Prop) : Prop where
  positive : 0 < limit
  distinct : (rows.map position).Nodup
  shown : ∀ row ∈ rows, ∃ item, shows row item
  first : ∀ items next, turn none items next ↔
    Answers shows (page mark limit (fetch position rows none (limit + 1))) items next
  later : ∀ row ∈ rows, ∀ items next, turn (some (mark row)) items next ↔
    Answers shows (page mark limit (fetch position rows (some (position row)) (limit + 1))) items next

-- Either the page holds all that is left, or it is full and its cursor names its last row.
theorem page_cases (mark : ρ → γ) (positive : 0 < limit) (left : List ρ) :
    (left.length ≤ limit ∧ page mark limit (left.take (limit + 1)) = (left,none)) ∨
    ∃ before row later, before.length + 1 = limit ∧ left = before ++ row :: later ∧
      page mark limit (left.take (limit + 1)) = (before ++ [row],some (mark row)) := by
  by_cases fits : left.length ≤ limit
  · refine .inl ⟨fits,?_⟩
    simp [page,List.take_take,List.length_take,Nat.min_eq_right (Nat.le_succ_of_le fits),Nat.not_lt.mpr fits,
      List.take_of_length_le fits]
  · have reach : limit - 1 < left.length := by omega
    have cut : left.take limit = left.take (limit - 1) ++ [left.get ⟨limit - 1,reach⟩] := by
      conv_lhs => rw [show limit = limit - 1 + 1 by omega]
      rw [List.take_add_one,List.getElem?_eq_getElem reach]
      rfl
    refine .inr ⟨left.take (limit - 1),left.get ⟨limit - 1,reach⟩,left.drop limit,?_,?_,?_⟩
    · rw [List.length_take]
      omega
    · have whole := List.take_append_drop limit left
      rw [cut,List.append_assoc] at whole
      exact whole.symm
    · have more : limit < (left.take (limit + 1)).length := by
        rw [List.length_take]
        omega
      have same : (left.take (limit + 1)).take limit = left.take limit := by
        rw [List.take_take,Nat.min_eq_left (Nat.le_succ limit)]
      unfold page
      rw [if_pos more,same,cut,List.getLast?_append]
      rfl

theorem shown_all (shown : ∀ row ∈ rows, ∃ item, shows row item) :
    ∃ items, List.Forall₂ shows rows items := by
  induction rows with
  | nil => exact ⟨[],.nil⟩
  | cons row rest ih =>
    obtain ⟨first,others⟩ := List.forall_mem_cons.mp shown
    obtain ⟨item,here⟩ := first
    obtain ⟨items,there⟩ := ih others
    exact ⟨item :: items,.cons here there⟩

theorem shown_mem (each : List.Forall₂ shows rows items) :
    ∀ item ∈ items, ∃ row ∈ rows, shows row item := by
  induction each with
  | nil => exact nofun
  | cons here _ ih =>
    refine List.forall_mem_cons.mpr ⟨⟨_,List.mem_cons_self,here⟩,fun item member => ?_⟩
    obtain ⟨row,inside,shows'⟩ := ih item member
    exact ⟨row,List.mem_cons_of_mem _ inside,shows'⟩

theorem shown_map (source : τ → ρ) (named : ∀ row item, shows row item → source item = row)
    (each : List.Forall₂ shows rows items) : items.map source = rows := by
  induction each with
  | nil => rfl
  | cons here _ ih => rw [List.map_cons,named _ _ here,ih]

section Reading
variable {shows : ρ → τ → Prop} {turn : Option γ → List τ → Option γ → Prop}

-- Reading on from a cursor gives what is behind it: each row once, in order, on full
-- pages but for the last.
theorem follows_rest (paged : Paged position mark shows rows limit turn) (size : Nat) :
    ∀ (cursor : Option γ) (after : Option π) (left : List ρ), left.length ≤ size →
      ordered position (rows.filter (behind position after)) = left →
      (∀ items next, turn cursor items next ↔
        Answers shows (page mark limit (fetch position rows after (limit + 1))) items next) →
      (∃ pages, Follows turn cursor pages) ∧
      ∀ pages, Follows turn cursor pages →
        List.Forall₂ shows left pages.flatten ∧ ∀ items ∈ pages.dropLast, items.length = limit := by
  induction size with
  | zero =>
    intro cursor after left small rest answers
    obtain rfl := List.length_eq_zero_iff.mp (Nat.le_zero.mp small)
    have only : ∀ items next, turn cursor items next ↔ Answers shows ([],none) items next := by
      intro items next
      rw [answers,fetch,rest]
      simp [page]
    refine ⟨⟨[[]],.last ((only _ _).mpr ⟨.nil,rfl⟩)⟩,fun pages follows => ?_⟩
    cases follows with
    | last turned =>
      obtain ⟨each,_⟩ := (only _ _).mp turned
      exact ⟨by simpa using each,by simp⟩
    | next turned _ => cases ((only _ _).mp turned).2
  | succ size ih =>
    intro cursor after left small rest answers
    have known : ∀ row ∈ left, row ∈ rows := by
      intro row member
      rw [←rest] at member
      exact (List.mem_filter.mp ((ordered_perm position _).mem_iff.mp member)).1
    rcases page_cases mark paged.positive left with ⟨fits,whole⟩ | ⟨before,row,later,full,split,cut⟩
    · have only : ∀ items next, turn cursor items next ↔ Answers shows (left,none) items next := by
        intro items next
        rw [answers,fetch,rest,whole]
      obtain ⟨items,each⟩ := shown_all fun row member => paged.shown row (known row member)
      refine ⟨⟨[items],.last ((only _ _).mpr ⟨each,rfl⟩)⟩,fun pages follows => ?_⟩
      cases follows with
      | last turned =>
        obtain ⟨each,_⟩ := (only _ _).mp turned
        exact ⟨by simpa using each,by simp⟩
      | next turned _ => cases ((only _ _).mp turned).2
    · have only : ∀ items next, turn cursor items next ↔ Answers shows (before ++ [row],some (mark row)) items next := by
        intro items next
        rw [answers,fetch,rest,cut]
      subst split
      have shorter : later.length ≤ size := by
        simp only [List.length_append,List.length_cons] at small
        omega
      obtain ⟨⟨pages,goes⟩,exact'⟩ := ih (some (mark row)) (some (position row)) later shorter
        (behind_page paged.distinct rest) (paged.later row (known row (by simp)))
      obtain ⟨items,each⟩ := shown_all fun other (member : other ∈ before ++ [row]) =>
        paged.shown other (known other (by
          rcases List.mem_append.mp member with early | here
          · exact List.mem_append_left _ early
          · exact List.mem_append_right _ (List.mem_cons.mpr (.inl (List.mem_singleton.mp here)))))
      refine ⟨⟨_,.next ((only _ _).mpr ⟨each,rfl⟩) goes⟩,fun pages follows => ?_⟩
      cases follows with
      | last turned => cases ((only _ _).mp turned).2
      | next turned others =>
        obtain ⟨each,named⟩ := (only _ _).mp turned
        cases named
        obtain ⟨flat,sizes⟩ := exact' _ others
        have full' := each.length_eq
        rw [List.length_append,List.length_singleton,full] at full'
        have joined := List.rel_append each flat
        refine ⟨by simpa using joined,?_⟩
        cases others with
        | last _ => simpa using full'.symm
        | next _ _ =>
          rw [List.dropLast_cons_cons,List.forall_mem_cons]
          exact ⟨full'.symm,sizes⟩

-- Following the cursors ends, and shows every row exactly once in the order of the
-- positions; only the last page may be short.
theorem Paged.follows (paged : Paged position mark shows rows limit turn) :
    (∃ pages, Follows turn none pages) ∧
    ∀ pages, Follows turn none pages →
      List.Forall₂ shows (ordered position rows) pages.flatten ∧ ∀ items ∈ pages.dropLast, items.length = limit := by
  refine follows_rest paged (ordered position rows).length none none _ (Nat.le_refl _) ?_ paged.first
  congr 1
  exact List.filter_eq_self.mpr fun _ _ => rfl

end Reading

end KeysetPaging
