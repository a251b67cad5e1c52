/-
**Complete reads of the tables.**

A continuation point of the tables holds the key of the last row of its page; the next page takes
the rows after that key.

* `reads_of_pages` — following the continuation points reads all rows, if each of them is used
  before it is too old.
-/

import AsyncOpcua.Foundation.Paging
import AsyncOpcua.History.Tables

namespace AsyncOpcua.History

open Foundation Option
open Types

/-! ### Sorted rows -/

open List

section OrderBy

variable {Row κ : Type} [LinearOrder κ] {key : Row → κ} {rows : List Row}

theorem mem_orderBy {row : Row} : row ∈ orderBy key rows ↔ row ∈ rows := mem_mergeSort

theorem orderBy_ascending (distinct : rows.Pairwise fun a b => key a ≠ key b) :
    Ascending key (orderBy key rows) := by
  have sorted : (orderBy key rows).Pairwise fun a b => decide (key a ≤ key b) = true := by
    refine pairwise_mergeSort (fun a b c => ?_) (fun a b => ?_) rows
    · simp only [decide_eq_true_eq]
      exact le_trans
    · rw [Bool.or_eq_true, decide_eq_true_eq, decide_eq_true_eq]
      exact le_total _ _
  have apart : (orderBy key rows).Pairwise fun a b => key a ≠ key b :=
    ((mergeSort_perm rows _).pairwise_iff fun differ => differ.symm).mpr distinct
  exact (sorted.and apart).imp fun both => lt_of_le_of_ne (of_decide_eq_true both.1) both.2

/-- **Sorting and filtering commute.** -/
theorem orderBy_filter (distinct : rows.Pairwise fun a b => key a ≠ key b) (p : Row → Bool) :
    orderBy key (rows.filter p) = (orderBy key rows).filter p := by
  refine Ascending.ext (orderBy_ascending (distinct.filter p))
    ((orderBy_ascending distinct).filter p) fun row => ?_
  rw [mem_orderBy, mem_filter, mem_filter, mem_orderBy]

end OrderBy

variable {α β : Type}

variable {f : α → Option β}

theorem mapM_eq_filterMap {l : List α} (readable : ∀ a ∈ l, (f a).isSome) :
    l.mapM f = some (l.filterMap f) := by
  induction l with
  | nil => rfl
  | cons a rest ih =>
    obtain ⟨b, read⟩ := isSome_iff_exists.mp (readable a mem_cons_self)
    rw [mapM_cons, read, ih fun other member => readable other (mem_cons_of_mem _ member),
      filterMap_cons_some read]
    rfl

theorem length_filterMap {l : List α} (readable : ∀ a ∈ l, (f a).isSome) :
    (l.filterMap f).length = l.length := by
  induction l with
  | nil => rfl
  | cons a rest ih =>
    obtain ⟨b, read⟩ := isSome_iff_exists.mp (readable a mem_cons_self)
    rw [filterMap_cons_some read, length_cons, length_cons,
      ih fun other member => readable other (mem_cons_of_mem _ member)]

theorem filterMap_page {taken later : List α} {row : α}
    (readable : ∀ a ∈ taken ++ row :: later, (f a).isSome) :
    (((taken ++ row :: later).take (taken.length + 1 + 1)).filterMap f).take (taken.length + 1) =
      (taken ++ [row]).filterMap f := by
  have split : taken ++ row :: later = (taken ++ [row]) ++ later := by
    rw [append_assoc]
    rfl
  have front : (taken ++ [row]).length = taken.length + 1 := length_append
  have full : ((taken ++ [row]).filterMap f).length = taken.length + 1 := by
    rw [length_filterMap fun a member => readable a ?_, front]
    rw [split]
    exact mem_append_left _ member
  rw [split, ← front, take_length_add_append, filterMap_append, front,
    take_left' full]

namespace SqliteHistoryBackend

variable {NodeId Value : Type} {codec : Codec Value} {text : NodeId → String}

/-! ### Following the continuation points -/

/-- A page with a token, or a failed read. -/
def answered (answer : Except StatusCode (HistoryRawModifiedResult Value ℕ) ×
    SqliteHistoryBackend NodeId) :
    Option ((List (DataValue Value) × Option ℕ) × SqliteHistoryBackend NodeId) :=
  match answer with
  | (.ok result, s) => some ((result.values, result.nextToken), s)
  | (.error _, _) => none

/-- **Reading one page after the other,** each with its size and the instant it is read at. -/
def pages (codec : Codec Value) (text : NodeId → String) (node : NodeId) (startTime endTime : ℤ)
    (isReadModified : Bool) :
    PagedReader (SqliteHistoryBackend NodeId) (ℕ × ℕ) ℕ (DataValue Value) where
  page s continuationPoint request :=
    answered (s.readRawModified codec text node startTime endTime request.1 false isReadModified
      continuationPoint request.2)

def firstCursor (node : NodeId) (startTime endTime : ℤ) (isReadModified : Bool) :
    HistoryReadCursor NodeId :=
  { nodeId := node, startTime := startTime, endTime := endTime, readModified := isReadModified
    chronological := decide (ticks startTime < ticks endTime), returnBounds := false
    lastSourceTimestamp := ticks startTime, lastModificationTime := 0, lastModifiedRowid := 0 }

def Leaves {Row : Type} (rows : List Row) (first : HistoryReadCursor NodeId)
    (cursorAt : Row → HistoryReadCursor NodeId) (cursor : HistoryReadCursor NodeId)
    (resumeAfter : Option ℤ) (rest : List Row) : Prop :=
  cursor = first ∧ resumeAfter = none ∧ rest = rows ∨
    ∃ front row, rows = front ++ row :: rest ∧ cursor = cursorAt row ∧
      resumeAfter = some cursor.lastSourceTimestamp

/-- The same tables; only the continuation points may differ. -/
def SameTables (s t : SqliteHistoryBackend NodeId) : Prop :=
  t.historicalData = s.historicalData ∧ t.modifiedHistoricalData = s.modifiedHistoricalData

structure PagesOf {Row : Type} (codec : Codec Value) (text : NodeId → String)
    (s : SqliteHistoryBackend NodeId) (rows : List Row) (value : Row → Option (DataValue Value))
    (first : HistoryReadCursor NodeId) (cursorAt : Row → HistoryReadCursor NodeId) : Prop where
  readable : ∀ row ∈ rows, (value row).isSome
  last : ∀ t cursor resumeAfter rest pageSize instant, SameTables s t →
    Leaves rows first cursorAt cursor resumeAfter rest → rest.length ≤ pageSize →
      answered (t.readPage codec text cursor resumeAfter pageSize instant) =
        some ((rest.filterMap value, none), t)
  more : ∀ t cursor resumeAfter taken row later pageSize instant, SameTables s t →
    Leaves rows first cursorAt cursor resumeAfter (taken ++ row :: later) →
      taken.length + 1 = pageSize → later ≠ [] →
        answered (t.readPage codec text cursor resumeAfter pageSize instant) =
          some (((taken ++ [row]).filterMap value, some t.nextToken),
            (t.insertContinuationPoint (cursorAt row) instant).2)

namespace PagesOf

variable {Row : Type} {s t : SqliteHistoryBackend NodeId} {rows rest : List Row}
  {value : Row → Option (DataValue Value)} {node : NodeId} {startTime endTime : ℤ}
  {isReadModified : Bool} {first cursor : HistoryReadCursor NodeId}
  {cursorAt : Row → HistoryReadCursor NodeId} {resumeAfter : Option ℤ} {pageSize : ℕ}

theorem answer (pages : PagesOf codec text s rows value first cursorAt) (same : SameTables s t)
    (leaves : Leaves rows first cursorAt cursor resumeAfter rest) (positive : 0 < pageSize)
    (instant : ℕ) :
    answered (t.readPage codec text cursor resumeAfter pageSize instant) =
        some ((rest.filterMap value, none), t) ∨
      ∃ taken row later, rest = taken ++ row :: later ∧
        answered (t.readPage codec text cursor resumeAfter pageSize instant) =
          some (((taken ++ [row]).filterMap value, some t.nextToken),
            (t.insertContinuationPoint (cursorAt row) instant).2) := by
  rcases Nat.lt_or_ge pageSize rest.length with more | fits
  · have inside : pageSize - 1 < rest.length := by omega
    have split : rest = rest.take (pageSize - 1) ++ rest[pageSize - 1] ::
        rest.drop (pageSize - 1 + 1) := by
      rw [← drop_eq_getElem_cons inside, take_append_drop]
    have length : (rest.take (pageSize - 1)).length + 1 = pageSize := by
      rw [length_take]
      omega
    have later : rest.drop (pageSize - 1 + 1) ≠ [] := by
      rw [ne_eq, drop_eq_nil_iff]
      omega
    generalize rest.take (pageSize - 1) = taken at split length
    generalize rest[pageSize - 1] = row at split
    generalize rest.drop (pageSize - 1 + 1) = tail at split later
    subst split
    exact .inr ⟨taken, row, tail, rfl,
      pages.more t cursor resumeAfter taken row tail pageSize instant same leaves length later⟩
  · exact .inl (pages.last t cursor resumeAfter rest pageSize instant same leaves fits)

def Remaining (s : SqliteHistoryBackend NodeId) (rows : List Row)
    (value : Row → Option (DataValue Value)) (cursorAt : Row → HistoryReadCursor NodeId)
    (t : SqliteHistoryBackend NodeId) (continuationPoint : Option ℕ)
    (values : List (DataValue Value)) : Prop :=
  SameTables s t ∧ ∃ rest, values = rest.filterMap value ∧
    match continuationPoint with
    | none => rest = rows
    | some token => ∃ cp front row, t.continuationPoints token = some cp ∧
        rows = front ++ row :: rest ∧ cp.cursor = cursorAt row

theorem pageSize_pos (numValuesPerNode : ℕ) :
    0 < SqliteHistoryBackend.pageSize numValuesPerNode := by
  unfold SqliteHistoryBackend.pageSize READ_RAW_MODIFIED_UNBOUNDED_HARD_LIMIT
  split_ifs <;> omega

theorem page_eq {continuationPoint : Option ℕ} {values : List (DataValue Value)}
    (remains : Remaining s rows value cursorAt t continuationPoint values) (request : ℕ × ℕ)
    (first : HistoryReadCursor NodeId)
    (isFirst : first = firstCursor node startTime endTime isReadModified) :
    (pages codec text node startTime endTime isReadModified).page t continuationPoint request =
        none ∧
      (∃ token cp, continuationPoint = some token ∧ t.continuationPoints token = some cp ∧
        CONTINUATION_POINT_MAX_AGE ≤ request.2 - cp.createdAt) ∨
      ∃ u cursor resumeAfter rest, SameTables s u ∧
        Leaves rows first cursorAt cursor resumeAfter rest ∧ values = rest.filterMap value ∧
        (pages codec text node startTime endTime isReadModified).page t continuationPoint request =
          answered (u.readPage codec text cursor resumeAfter
            (SqliteHistoryBackend.pageSize request.1) request.2) := by
  obtain ⟨same, rest, rfl, place⟩ := remains
  cases continuationPoint with
  | none =>
    refine .inr ⟨t.pruneContinuationPoints request.2, first, none, rest, same,
      .inl ⟨rfl, rfl, place⟩, rfl, ?_⟩
    rw [isFirst]
    rfl
  | some token =>
    obtain ⟨cp, front, row, stored, split, atRow⟩ := place
    by_cases young : request.2 - cp.createdAt < CONTINUATION_POINT_MAX_AGE
    · have kept : (t.pruneContinuationPoints request.2).continuationPoints token = some cp := by
        show (t.continuationPoints token).filter _ = some cp
        rw [stored, filter_some, decide_eq_true young, if_pos rfl]
      refine .inr ⟨(t.pruneContinuationPoints request.2).removeContinuationPoint token, cp.cursor,
        some cp.cursor.lastSourceTimestamp, rest, same, .inr ⟨front, row, split, atRow, rfl⟩,
        rfl, ?_⟩
      show answered (readRawModified codec text t _ _ _ _ _ _ _ _) = _
      unfold readRawModified
      simp [kept]
    · have gone : (t.pruneContinuationPoints request.2).continuationPoints token = none := by
        show (t.continuationPoints token).filter _ = none
        rw [stored, filter_some, decide_eq_false young, if_neg Bool.false_ne_true]
      refine .inl ⟨?_, token, cp, rfl, stored, not_lt.mp young⟩
      show answered (readRawModified codec text t _ _ _ _ _ _ _ _) = _
      unfold readRawModified
      simp only [gone]
      rfl

theorem leaves_split {taken later : List Row} {row : Row}
    (leaves : Leaves rows first cursorAt cursor resumeAfter (taken ++ row :: later)) :
    ∃ front, rows = front ++ row :: later := by
  rcases leaves with ⟨-, -, whole⟩ | ⟨front, before, split, -⟩
  · exact ⟨taken, whole.symm⟩
  · refine ⟨front ++ before :: taken, ?_⟩
    rw [split, append_assoc, cons_append]

section

variable
  (pagesOf : PagesOf codec text s rows value (firstCursor node startTime endTime isReadModified)
    cursorAt)
include pagesOf

theorem exact :
    (pages codec text node startTime endTime isReadModified).Exact
      (Remaining s rows value cursorAt) := by
  intro t continuationPoint values remains request page next t' paged
  rcases page_eq remains request _ rfl with
    ⟨failed, -⟩ | ⟨u, cursor, resumeAfter, rest, same, leaves, rfl, answers⟩
  · exact absurd (failed.symm.trans paged) (some_ne_none _).symm
  rw [answers] at paged
  rcases pagesOf.answer same leaves (pageSize_pos request.1) request.2 with
    whole | ⟨taken, row, later, rfl, part⟩
  · cases whole.symm.trans paged
    rfl
  · cases part.symm.trans paged
    obtain ⟨front, split⟩ := leaves_split leaves
    have member : row ∈ rows := by
      rw [split]
      exact mem_append_right _ mem_cons_self
    obtain ⟨read, isRead⟩ := isSome_iff_exists.mp (pagesOf.readable row member)
    refine ⟨?_, later.filterMap value, ?_, same, later, rfl, ⟨cursorAt row, request.2⟩, front, row,
      Function.update_self _ _ _, split, rfl⟩
    · rw [filterMap_append, filterMap_cons_some isRead]
      exact append_ne_nil_of_right_ne_nil _ (cons_ne_nil _ _)
    · rw [← filterMap_append, append_assoc]
      rfl

/-- **Complete reads return the rows,** and there is one if every continuation point is used before
it is too old. -/
theorem reads (requests : ℕ → ℕ × ℕ) :
    (∀ values, (pages codec text node startTime endTime isReadModified).Reads requests s values →
        values = rows.filterMap value) ∧
      ((∀ i, (requests (i + 1)).2 - (requests i).2 < CONTINUATION_POINT_MAX_AGE) →
        (pages codec text node startTime endTime isReadModified).Reads requests s
          (rows.filterMap value)) := by
  have start : Remaining s rows value cursorAt s none (rows.filterMap value) :=
    ⟨⟨rfl, rfl⟩, rows, rfl, rfl⟩
  refine ⟨fun values => PagedReader.Reads.eq pagesOf.exact start, fun young => ?_⟩
  refine (PagedReader.reads_iff pagesOf.exact
    (fun i t continuationPoint => ∀ token, continuationPoint = some token →
      ∃ cp, t.continuationPoints token = some cp ∧
        (requests i).2 - cp.createdAt < CONTINUATION_POINT_MAX_AGE) ?_ start
    fun token absurdly => absurd absurdly (some_ne_none _).symm).mpr rfl
  intro i t continuationPoint values remains alive
  rcases page_eq remains (requests i) _ rfl with
    ⟨-, token, cp, isToken, stored, old⟩ | ⟨u, cursor, resumeAfter, rest, same, leaves, rfl,
      answers⟩
  · obtain ⟨cp', stored', notOld⟩ := alive token isToken
    cases stored.symm.trans stored'
    exact absurd notOld (not_lt.mpr old)
  rw [answers]
  rcases pagesOf.answer same leaves (pageSize_pos (requests i).1) (requests i).2 with
    whole | ⟨taken, row, later, rfl, part⟩
  · exact ⟨_, _, _, whole, fun token absurdly => absurd absurdly (some_ne_none _).symm⟩
  · refine ⟨_, _, _, part, fun token isNext token' same => ?_⟩
    cases isNext
    cases same
    exact ⟨⟨cursorAt row, (requests i).2⟩, Function.update_self _ _ _, young i⟩

end
end PagesOf

end SqliteHistoryBackend

end AsyncOpcua.History
