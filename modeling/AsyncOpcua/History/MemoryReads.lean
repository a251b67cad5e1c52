/-
**Complete reads of the history in memory.**

A continuation point of the memory names the entry with which the next page starts.
-/

import AsyncOpcua.Foundation.Paging
import AsyncOpcua.History.Tables

namespace AsyncOpcua.History

open Foundation
open Types

open OrderedMap

open List

namespace InMemoryDataHistory

variable {NodeId Value : Type}

/-! ### One page -/

variable {α : Type}

theorem collect_spec {β : Type} {take : α → β} {token : α → ContinuationPoint} {limit : Option ℕ}
    {taken values : List β} {next : Option ContinuationPoint} {inRange : List α}
    (collected : collect take token limit taken inRange = (values, next)) :
    ∃ front back, inRange = front ++ back ∧ values = taken ++ front.map take ∧
      next = back.head?.map token ∧
      (back ≠ [] → full limit (taken.length + front.length) = true) := by
  induction inRange generalizing taken with
  | nil =>
    cases collected
    exact ⟨[], [], rfl, (append_nil _).symm, rfl, fun absurdly => absurd rfl absurdly⟩
  | cons first rest ih =>
    rw [collect] at collected
    split_ifs at collected with isFull
    · cases collected
      exact ⟨[], first :: rest, rfl, (append_nil _).symm, rfl, fun _ => isFull⟩
    · obtain ⟨front, back, rfl, rfl, rfl, isFull⟩ := ih collected
      refine ⟨first :: front, back, rfl, ?_, rfl, fun more => ?_⟩
      · rw [append_assoc]
        rfl
      · rw [← isFull more]
        simp only [length_append, length_cons, length_nil]
        congr 1
        omega

theorem full_zero (numValuesPerNode : ℕ) : full (limitOf numValuesPerNode) 0 = false := by
  unfold full limitOf
  split_ifs with positive
  · exact decide_eq_false (not_le.mpr positive)
  · rfl

/-! ### The listing -/

variable (history : InMemoryDataHistory NodeId Value) (node : NodeId)

def rawListing (lo hi : ℤ) : List (ℤ × DataValue Value) :=
  ((history.rawValues node).getD .empty).range lo hi

def modifiedListing (lo hi : ℤ) : List (ℤ × ℕ × ModifiedEntry Value) :=
  entriesFrom lo 0 (((history.modifiedValues node).getD .empty).range lo hi)

/-- **What a complete read is to return.** -/
def listing (isReadModified : Bool) (lo hi : ℤ) : List (DataValue Value) :=
  if isReadModified then (history.modifiedListing node lo hi).map fun (_, _, entry) => entry.1
  else (history.rawListing node lo hi).map Prod.snd

def place (entry : ℤ × ℕ × ModifiedEntry Value) : ℤ ×ₗ ℕ := toLex (entry.1, entry.2.1)

variable {skip : ℕ}

theorem mem_drop_zipIdx {l : List α} {index : ℕ} {a : α} :
    (a, index) ∈ l.zipIdx.drop skip ↔ skip ≤ index ∧ l[index]? = some a := by
  rw [mem_iff_getElem?]
  simp only [List.getElem?_drop, List.getElem?_zipIdx, Nat.zero_add, Option.map_eq_some_iff,
    Prod.mk.injEq]
  constructor
  · rintro ⟨i, b, found, rfl, rfl⟩
    exact ⟨Nat.le_add_right _ _, found⟩
  · rintro ⟨later, found⟩
    exact ⟨index - skip, a, by rwa [Nat.add_sub_cancel' later], rfl, Nat.add_sub_cancel' later⟩

variable {start : ℤ} {inRange : List (ℤ × List (ModifiedEntry Value))}

theorem mem_entriesFrom {tick : ℤ} {index : ℕ} {entry : ModifiedEntry Value} :
    (tick, index, entry) ∈ entriesFrom start skip inRange ↔
      ∃ entries, (tick, entries) ∈ inRange ∧ entries[index]? = some entry ∧
        (tick = start → skip ≤ index) := by
  unfold entriesFrom
  rw [mem_flatMap]
  constructor
  · rintro ⟨⟨at_, entries⟩, inside, member⟩
    obtain ⟨⟨found, place⟩, kept, same⟩ := mem_map.mp member
    cases same
    obtain ⟨after, isThere⟩ := mem_drop_zipIdx.mp kept
    refine ⟨entries, inside, isThere, fun first => ?_⟩
    rwa [if_pos first] at after
  · rintro ⟨entries, inside, isThere, after⟩
    refine ⟨(tick, entries), inside, mem_map.mpr ⟨(entry, index), ?_, rfl⟩⟩
    refine mem_drop_zipIdx.mpr ⟨?_, isThere⟩
    split_ifs with first
    · exact after first
    · exact Nat.zero_le _

theorem entriesFrom_ascending (ascending : Ascending Prod.fst inRange) :
    Ascending place (entriesFrom start skip inRange) := by
  refine pairwise_flatMap.mpr
    ⟨fun at_ _ => ?_, ascending.imp fun {a b} before x here y there => ?_⟩
  · have places : at_.2.zipIdx.Pairwise fun a b => a.2 < b.2 := by
      rw [← pairwise_map (f := Prod.snd), zipIdx_map_snd]
      exact pairwise_lt_range'
    refine pairwise_map.mpr ((places.sublist (drop_sublist _ _)).imp fun earlier => ?_)
    exact Prod.Lex.toLex_lt_toLex.mpr (.inr ⟨rfl, earlier⟩)
  · obtain ⟨_, -, rfl⟩ := mem_map.mp here
    obtain ⟨_, -, rfl⟩ := mem_map.mp there
    exact Prod.Lex.toLex_lt_toLex.mpr (.inl before)

theorem entriesFrom_eq_filter {lo hi : ℤ} (skip : ℕ) (after : lo ≤ start)
    (values : OrderedMap ℤ (List (ModifiedEntry Value))) :
    entriesFrom start skip (values.range start hi) =
      (entriesFrom lo 0 (values.range lo hi)).filter
        fun entry => toLex (start, skip) ≤ place entry := by
  refine Ascending.ext (entriesFrom_ascending (values.range_ascending start hi))
    ((entriesFrom_ascending (values.range_ascending lo hi)).filter _) fun ⟨tick, index, entry⟩ => ?_
  rw [mem_filter, mem_entriesFrom, mem_entriesFrom, decide_eq_true_eq, place,
    Prod.Lex.toLex_le_toLex]
  constructor
  · rintro ⟨entries, inside, isThere, place⟩
    obtain ⟨found, notBefore, before⟩ := (mem_range _).mp inside
    refine ⟨⟨entries, (mem_range _).mpr ⟨found, le_trans after notBefore, before⟩,
      isThere, fun _ => Nat.zero_le _⟩, ?_⟩
    rcases lt_or_eq_of_le notBefore with later | same
    · exact .inl later
    · exact .inr ⟨same, place same.symm⟩
  · rintro ⟨⟨entries, inside, isThere, -⟩, place⟩
    obtain ⟨found, -, before⟩ := (mem_range _).mp inside
    have notBefore : start ≤ tick := by
      rcases place with later | ⟨same, -⟩
      · exact le_of_lt later
      · exact le_of_eq same
    refine ⟨entries, (mem_range _).mpr ⟨found, notBefore, before⟩, isThere,
      fun first => ?_⟩
    rcases place with later | ⟨-, index⟩
    · exact absurd (first ▸ later) (lt_irrefl _)
    · exact index

/-! ### Following the continuation points -/

def pages (node : NodeId) (startTime endTime : ℤ) (isReadModified : Bool) :
    PagedReader (InMemoryDataHistory NodeId Value) ℕ ContinuationPoint (DataValue Value) where
  page history continuationPoint numValuesPerNode :=
    match history.readRawModified node startTime endTime numValuesPerNode isReadModified
      continuationPoint with
    | some (.ok result) => some ((result.values, result.nextToken), history)
    | _ => none

def StartsAt {α : Type} (listing : List α) (token : α → ContinuationPoint)
    (continuationPoint : Option ContinuationPoint) (rest : List α) : Prop :=
  continuationPoint = none ∧ rest = listing ∨
    ∃ front first back, listing = front ++ first :: back ∧ rest = first :: back ∧
      continuationPoint = some (token first)

theorem StartsAt.rest_eq_nil {token : α → ContinuationPoint}
    {continuationPoint : Option ContinuationPoint} {rest : List α}
    (starts : StartsAt [] token continuationPoint rest) : rest = [] := by
  rcases starts with ⟨-, whole⟩ | ⟨front, first, back, split, -⟩
  · exact whole
  · exact absurd split.symm (append_ne_nil_of_right_ne_nil _ (cons_ne_nil _ _))

variable {history node} {startTime endTime : ℤ} {isReadModified : Bool}
  {values : List (DataValue Value)}

theorem reads_of_page {α β : Type} {listing : List α} {take : α → β} {value : β → DataValue Value}
    {token : α → ContinuationPoint}
    (page : ∀ continuationPoint rest numValuesPerNode,
      StartsAt listing token continuationPoint rest →
        (pages node startTime endTime isReadModified).page history continuationPoint
            numValuesPerNode =
          some (((collect take token (limitOf numValuesPerNode) [] rest).1.map value,
            (collect take token (limitOf numValuesPerNode) [] rest).2), history))
    (numValuesPerNode : ℕ → ℕ) :
    (pages node startTime endTime isReadModified).Reads numValuesPerNode history values ↔
      values = listing.map (value ∘ take) := by
  have exact : (pages node startTime endTime isReadModified).Exact
      fun s continuationPoint values => s = history ∧
        ∃ rest, StartsAt listing token continuationPoint rest ∧
          values = rest.map (value ∘ take) := by
    rintro s continuationPoint _ ⟨rfl, rest, starts, rfl⟩ numValuesPerNode values next t paged
    rw [page continuationPoint rest numValuesPerNode starts] at paged
    generalize collected : collect take token (limitOf numValuesPerNode) [] rest = page at paged
    cases paged
    obtain ⟨front, back, rfl, taken, more, isFull⟩ := collect_spec collected
    rw [taken, nil_append, map_map]
    cases back with
    | nil =>
      rw [more, append_nil]
      rfl
    | cons first back =>
      rw [more]
      refine ⟨fun nothing => ?_, (first :: back).map (value ∘ take), map_append, rfl,
        first :: back, ?_, rfl⟩
      · have full := isFull (cons_ne_nil _ _)
        rw [map_eq_nil_iff.mp nothing] at full
        exact Bool.false_ne_true ((full_zero numValuesPerNode).symm.trans full)
      · rcases starts with ⟨-, whole⟩ | ⟨before, head, tail, whole, rest, -⟩
        · exact .inr ⟨front, first, back, whole.symm, rfl, rfl⟩
        · refine .inr ⟨before ++ front, first, back, ?_, rfl, rfl⟩
          rw [whole, ← rest, append_assoc]
  refine PagedReader.reads_iff exact (fun _ _ _ => True) ?_
    ⟨rfl, listing, .inl ⟨rfl, rfl⟩, rfl⟩ trivial
  rintro i s continuationPoint _ ⟨rfl, rest, starts, rfl⟩ -
  exact ⟨_, _, _, page continuationPoint rest (numValuesPerNode i) starts, fun _ _ => trivial⟩

theorem page_raw (forward : ticks startTime ≤ ticks endTime)
    (continuationPoint : Option ContinuationPoint) (rest : List (ℤ × DataValue Value))
    (numValuesPerNode : ℕ)
    (starts : StartsAt (history.rawListing node (ticks startTime) (ticks endTime))
      (fun (tick, _) => .tick tick) continuationPoint rest) :
    (pages node startTime endTime false).page history continuationPoint numValuesPerNode =
      some (((collectRaw (limitOf numValuesPerNode) rest).1.map id,
        (collectRaw (limitOf numValuesPerNode) rest).2), history) := by
  unfold pages readRawModified
  simp only [if_neg (not_lt.mpr forward), Bool.false_eq_true, if_false, map_id]
  unfold rawListing at starts
  cases stored : history.rawValues node with
  | none =>
    rw [stored] at starts
    rw [starts.rest_eq_nil]
    rfl
  | some nodeValues =>
    rw [stored, Option.getD_some] at starts
    rcases starts with ⟨rfl, rfl⟩ | ⟨front, first, back, split, rfl, rfl⟩
    · dsimp only [decodeContinuationTick]
      rw [rangeOf, if_pos forward]
      rfl
    · have inside : first ∈ nodeValues.range (ticks startTime) (ticks endTime) := by
        rw [split]
        exact mem_append_right _ mem_cons_self
      obtain ⟨-, after, before⟩ := (mem_range _).mp inside
      have left := (nodeValues.range_ascending _ _).filter_from split
      rw [filter_range_from _ after] at left
      dsimp only [decodeContinuationTick]
      rw [max_eq_left after, rangeOf, if_pos (le_of_lt before), left]
      rfl

theorem decode_encode (tick : ℤ) (entryIndex : ℕ) :
    decodeModifiedContinuationPosition
        (some (encodeModifiedContinuationPosition tick entryIndex)) = some (tick, entryIndex) := by
  unfold encodeModifiedContinuationPosition
  split_ifs with positive
  · rfl
  · rw [Nat.eq_zero_of_not_pos positive]
    rfl

theorem page_modified (forward : ticks startTime ≤ ticks endTime)
    (continuationPoint : Option ContinuationPoint) (rest : List (ℤ × ℕ × ModifiedEntry Value))
    (numValuesPerNode : ℕ)
    (starts : StartsAt (history.modifiedListing node (ticks startTime) (ticks endTime))
      (fun (tick, entryIndex, _) => encodeModifiedContinuationPosition tick entryIndex)
      continuationPoint rest) :
    (pages node startTime endTime true).page history continuationPoint numValuesPerNode =
      some (((collectModified (limitOf numValuesPerNode) rest).1.map Prod.fst,
        (collectModified (limitOf numValuesPerNode) rest).2), history) := by
  unfold pages readRawModified
  simp only [if_neg (not_lt.mpr forward), if_true]
  unfold modifiedListing at starts
  rcases eq_or_lt_of_le forward with same | forward
  · rw [same, range_self] at starts
    rw [if_pos same]
    rw [starts.rest_eq_nil]
    rfl
  rw [if_neg (ne_of_lt forward)]
  unfold readModifiedValues
  cases stored : history.modifiedValues node with
  | none =>
    rw [stored] at starts
    rw [starts.rest_eq_nil]
    rfl
  | some nodeValues =>
    rw [stored, Option.getD_some] at starts
    rcases starts with ⟨rfl, rfl⟩ | ⟨front, first, back, split, rfl, rfl⟩
    · dsimp only [decodeModifiedContinuationPosition, modifiedEffectiveStart]
      rw [rangeOf, if_pos (le_of_lt forward)]
      rfl
    · obtain ⟨tick, entryIndex, entry⟩ := first
      have inside : (tick, entryIndex, entry) ∈ entriesFrom (ticks startTime) 0
          (nodeValues.range (ticks startTime) (ticks endTime)) := by
        rw [split]
        exact mem_append_right _ mem_cons_self
      obtain ⟨entries, inRange, -⟩ := mem_entriesFrom.mp inside
      obtain ⟨-, after, before⟩ := (mem_range _).mp inRange
      have left : entriesFrom tick entryIndex (nodeValues.range tick (ticks endTime)) =
          (tick, entryIndex, entry) :: back := by
        rw [entriesFrom_eq_filter entryIndex after]
        exact (entriesFrom_ascending (nodeValues.range_ascending _ _)).filter_from split
      rw [decode_encode, modifiedEffectiveStart, if_pos after]
      dsimp only
      rw [rangeOf, if_pos (le_of_lt before), Option.map_some, left]
      rfl

/-- **A complete read returns the listing,** whatever the page sizes. -/
theorem reads_iff (forward : ticks startTime ≤ ticks endTime) (numValuesPerNode : ℕ → ℕ) :
    (pages node startTime endTime isReadModified).Reads numValuesPerNode history values ↔
      values = history.listing node isReadModified (ticks startTime) (ticks endTime) := by
  cases isReadModified with
  | false => exact reads_of_page (page_raw forward) numValuesPerNode
  | true => exact reads_of_page (page_modified forward) numValuesPerNode

end InMemoryDataHistory

end AsyncOpcua.History
