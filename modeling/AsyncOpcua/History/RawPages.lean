/-
**The raw pages of the tables.**
-/

import AsyncOpcua.History.TableReads

namespace AsyncOpcua.History

open Foundation HistoricalRow
open Types

structure Readable {Value : Type} (codec : Codec Value) (row : HistoricalRow) : Prop where
  read : (rowToDataValue codec row).isSome
  time : ticks (fromTicks row.sourceTimestamp) = row.sourceTimestamp

open List

namespace SqliteHistoryBackend

variable {NodeId Value : Type} {codec : Codec Value} {text : NodeId → String}

theorem rowToDataValue_time {row : HistoricalRow} {value : DataValue Value}
    (read : rowToDataValue codec row = some value) :
    value.sourceTimestamp = some (fromTicks row.sourceTimestamp) := by
  obtain ⟨decoded, -, rfl⟩ := Option.map_eq_some_iff.mp read
  rfl

variable {rows : List HistoricalRow}

theorem ascending_values (ascending : Ascending sourceTimestamp rows)
    (readable : ∀ row ∈ rows, Readable codec row) :
    (rows.filterMap (rowToDataValue codec)).Pairwise fun a b =>
      ∃ first second, a.sourceTimestamp = some first ∧ b.sourceTimestamp = some second ∧
        first < second := by
  rw [pairwise_filterMap]
  refine List.Pairwise.imp_of_mem (fun {a b} left right before v isV w isW => ?_) ascending
  refine ⟨_, _, rowToDataValue_time isV, rowToDataValue_time isW, ?_⟩
  have earlier := (readable a left).time.trans_lt (before.trans_eq (readable b right).time.symm)
  unfold ticks at earlier
  omega

variable {startTime endTime : ℤ}

theorem sortDedupAndTrimPage_eq (forward : startTime < endTime)
    (pageSize : ℕ) {values : List (DataValue Value)}
    (ascending : values.Pairwise fun a b => ∃ first second, a.sourceTimestamp = some first ∧
      b.sourceTimestamp = some second ∧ first < second) :
    sortDedupAndTrimPage startTime endTime pageSize values =
      (values.take pageSize, decide (pageSize < values.length)) := by
  have sorted : sortHistoricalValues startTime endTime values = values := by
    rw [sortHistoricalValues, if_pos forward]
    refine mergeSort_of_pairwise (ascending.imp ?_)
    rintro a b ⟨first, second, isFirst, isSecond, before⟩
    rw [isFirst, isSecond]
    exact decide_eq_true (le_of_lt before)
  have distinct : values.destutter (fun a b => a.sourceTimestamp ≠ b.sourceTimestamp) = values := by
    refine destutter_of_isChain _ _ (ascending.imp ?_).isChain
    rintro a b ⟨first, second, isFirst, isSecond, before⟩ same
    rw [isFirst, isSecond, Option.some.injEq] at same
    exact absurd same (ne_of_lt before)
  unfold sortDedupAndTrimPage
  rw [sorted]
  dsimp only
  rw [distinct]
  split_ifs with more
  · rw [decide_eq_true more]
  · rw [decide_eq_false more, take_of_length_le (not_lt.mp more)]

/-! ### The rows of an interval -/

def rawRows (table : List HistoricalRow) (nodeId : String) (lo hi : ℤ) : List HistoricalRow :=
  orderBy (·.sourceTimestamp) (table.filter (isIn nodeId lo hi))

variable {table : List HistoricalRow} {nodeId : String} {lo hi : ℤ}

theorem Unique.distinct (unique : Unique table) :
    (table.filter (isIn nodeId lo hi)).Pairwise
      fun a b => a.sourceTimestamp ≠ b.sourceTimestamp := by
  refine List.Pairwise.imp_of_mem (fun {a b} left right apart same => apart ⟨?_, same⟩)
    (List.Pairwise.filter _ unique)
  have first := of_decide_eq_true (mem_filter.mp left).2
  have second := of_decide_eq_true (mem_filter.mp right).2
  rw [first.1, second.1]

theorem rawRows_ascending (unique : Unique table) :
    Ascending sourceTimestamp (rawRows table nodeId lo hi) :=
  orderBy_ascending unique.distinct

def rawCursorAt (first : HistoryReadCursor NodeId) (row : HistoricalRow) :
    HistoryReadCursor NodeId :=
  { first with lastSourceTimestamp := row.sourceTimestamp }

variable {first cursor : HistoryReadCursor NodeId} {resumeAfter : Option ℤ}
  {rest : List HistoricalRow}

theorem cursor_of_leaves (leaves : Leaves rows first (rawCursorAt first) cursor resumeAfter rest) :
    ∃ last, cursor = { first with lastSourceTimestamp := last } := by
  rcases leaves with ⟨rfl, -⟩ | ⟨-, row, -, rfl, -⟩
  · exact ⟨_, rfl⟩
  · exact ⟨_, rfl⟩

section

variable (unique : Unique table)
  (leaves : Leaves (rawRows table nodeId lo hi) first (rawCursorAt first) cursor resumeAfter rest)
include unique leaves

theorem filter_leaves :
    ((rawRows table nodeId lo hi).filter fun row =>
      resumeAfter.all fun last => decide (last < row.sourceTimestamp)) = rest := by
  rcases leaves with ⟨-, rfl, rfl⟩ | ⟨front, row, split, rfl, rfl⟩
  · exact filter_eq_self.mpr fun _ _ => rfl
  · exact (rawRows_ascending unique).filter_after split

theorem mem_of_leaves {row : HistoricalRow} (member : row ∈ rest) :
    row ∈ rawRows table nodeId lo hi := by
  rw [← filter_leaves unique leaves] at member
  exact (mem_filter.mp member).1

end

theorem fetchInterval_eq (unique : Unique table)
    (readable : ∀ row ∈ rawRows table nodeId lo hi, (rowToDataValue codec row).isSome)
    (leaves : Leaves (rawRows table nodeId lo hi) first (rawCursorAt first) cursor resumeAfter
      rest) (rowLimit : ℕ) :
    fetchInterval codec table nodeId lo hi true resumeAfter rowLimit =
      some ((rest.take rowLimit).filterMap (rowToDataValue codec)) := by
  have rows : orderBy (·.sourceTimestamp) (table.filter fun row =>
      decide (row.nodeId = nodeId ∧ lo ≤ row.sourceTimestamp ∧ row.sourceTimestamp < hi) &&
        resumeAfter.all fun last => decide (last < row.sourceTimestamp)) = rest := by
    rw [← filter_leaves unique leaves, rawRows, ← orderBy_filter unique.distinct,
      filter_filter]
    congr 2
    funext row
    exact Bool.and_comm _ _
  unfold fetchInterval
  rw [if_pos rfl, rows, mapM_eq_filterMap]
  exact fun row member => readable row (mem_of_leaves unique leaves (mem_of_mem_take member))

theorem rawRows_self (tick : ℤ) : rawRows table nodeId tick tick = [] := by
  refine eq_nil_iff_forall_not_mem.mpr fun row member => ?_
  obtain ⟨-, after, before⟩ :=
    of_decide_eq_true (mem_filter.mp (mem_orderBy.mp member)).2
  omega

theorem fetchInterval_self (tick : ℤ) (resumeAfter : Option ℤ) (rowLimit : ℕ) :
    fetchInterval codec table nodeId tick tick false resumeAfter rowLimit = some [] := by
  have none : (table.filter fun row =>
      decide (row.nodeId = nodeId ∧ row.sourceTimestamp ≤ tick ∧ tick < row.sourceTimestamp) &&
        resumeAfter.all fun last => decide (row.sourceTimestamp < last)) = [] := by
    refine filter_eq_nil_iff.mpr fun row _ chosen => ?_
    obtain ⟨-, notAfter, after⟩ := of_decide_eq_true (Bool.and_eq_true_iff.mp chosen).1
    omega
  unfold fetchInterval
  rw [if_neg Bool.false_ne_true, none]
  simp only [orderBy, mergeSort_nil, reverse_nil, take_nil, mapM_nil]
  rfl

theorem fetchRawModifiedPage_eq (unique : Unique table) {node : NodeId}
    (forward : startTime < endTime)
    (readable : ∀ row ∈ rawRows table (text node) (ticks startTime) (ticks endTime),
      Readable codec row)
    (isFirst : first = firstCursor node startTime endTime false)
    (leaves : Leaves (rawRows table (text node) (ticks startTime) (ticks endTime)) first
      (rawCursorAt first) cursor resumeAfter rest) (pageSize : ℕ) :
    fetchRawModifiedPage codec text table cursor pageSize resumeAfter =
      some (((rest.take (pageSize + 1)).filterMap (rowToDataValue codec)).take pageSize,
        decide (pageSize < rest.length)) := by
  have part : ∀ row ∈ rest.take (pageSize + 1), Readable codec row := fun row member =>
    readable row (mem_of_leaves unique leaves (mem_of_mem_take member))
  have ascending : Ascending sourceTimestamp (rest.take (pageSize + 1)) := by
    rw [← filter_leaves unique leaves]
    exact ((rawRows_ascending unique).filter _).sublist (take_sublist _ _)
  have interval := fetchInterval_eq unique (fun row member => (readable row member).read) leaves
    (pageSize + 1)
  have length : ((rest.take (pageSize + 1)).filterMap (rowToDataValue codec)).length =
      min (pageSize + 1) rest.length := by
    rw [length_filterMap fun row member => (part row member).read, length_take]
  have page := sortDedupAndTrimPage_eq forward pageSize (ascending_values ascending part)
  have inOrder : ticks startTime ≤ ticks endTime := by
    unfold ticks
    omega
  obtain ⟨last, rfl⟩ := cursor_of_leaves leaves
  subst isFirst
  unfold fetchRawModifiedPage fetchRawModifiedValues
  rcases eq_or_lt_of_le inOrder with same | forward
  · have nothing : rest = [] := by
      refine eq_nil_iff_forall_not_mem.mpr fun row member => ?_
      have inside := mem_of_leaves unique leaves member
      rw [same, rawRows_self] at inside
      exact not_mem_nil inside
    subst nothing
    simp only [firstCursor, Bool.false_and, Bool.false_eq_true, if_false, Option.bind_some,
      same, lt_self_iff_false, decide_false, fetchInterval_self, Option.map_some,
      Option.toList_none, append_nil]
    simp only [take_nil, filterMap_nil] at page ⊢
    simp only [page, Bool.or_self]
    rfl
  simp only [firstCursor, Bool.false_and, Bool.false_eq_true, if_false, Option.bind_some,
    decide_eq_true forward, interval, Option.map_some, Option.toList_none, nil_append,
    append_nil, page, length]
  rw [Bool.or_self]
  congr 2
  rw [decide_eq_decide]
  omega

theorem pagesOf_raw {s : SqliteHistoryBackend NodeId} (unique : Unique s.historicalData)
    {node : NodeId} (forward : startTime < endTime)
    (readable : ∀ row ∈ rawRows s.historicalData (text node) (ticks startTime) (ticks endTime),
      Readable codec row) :
    PagesOf codec text s
      (rawRows s.historicalData (text node) (ticks startTime) (ticks endTime))
      (rowToDataValue codec) (firstCursor node startTime endTime false)
      (rawCursorAt (firstCursor node startTime endTime false)) := by
  refine ⟨fun row member => (readable row member).read, ?_, ?_⟩
  · intro t cursor resumeAfter rest pageSize instant same leaves fits
    have page := fetchRawModifiedPage_eq unique forward readable rfl leaves pageSize
    rw [← same.1, decide_eq_false (not_lt.mpr fits),
      take_of_length_le (Nat.le_succ_of_le fits), take_of_length_le] at page
    · obtain ⟨last, rfl⟩ := cursor_of_leaves leaves
      unfold readPage
      rw [page]
      rfl
    · exact le_trans (length_filterMap_le _ _) fits
  · rintro t cursor resumeAfter taken row later _ instant same leaves rfl more
    have page := fetchRawModifiedPage_eq unique forward readable rfl leaves (taken.length + 1)
    have isReadable := readable row (mem_of_leaves unique leaves
      (mem_append_right _ mem_cons_self))
    obtain ⟨value, read⟩ := Option.isSome_iff_exists.mp isReadable.read
    have cut := filterMap_page (fun other member =>
      (readable other (mem_of_leaves unique leaves member)).read) (f := rowToDataValue codec)
    have longer : taken.length + 1 < (taken ++ row :: later).length := by
      rw [length_append, length_cons]
      have := length_pos_iff.mpr more
      omega
    have lastTime : ((taken ++ [row]).filterMap (rowToDataValue codec)).getLast?.bind
        (·.sourceTimestamp) = some (fromTicks row.sourceTimestamp) := by
      rw [filterMap_append, filterMap_cons_some read, filterMap_nil,
        List.getLast?_concat]
      exact rowToDataValue_time read
    rw [← same.1, cut, decide_eq_true longer] at page
    obtain ⟨last, rfl⟩ := cursor_of_leaves leaves
    unfold readPage
    rw [page]
    simp only [firstCursor, rawCursorAt, Bool.false_eq_true, if_false, lastTime, isReadable.time]
    rfl

end SqliteHistoryBackend

end AsyncOpcua.History
