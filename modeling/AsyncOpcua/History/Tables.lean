/-
**What the tables hold for a history in memory.**
-/

import AsyncOpcua.History.SqliteBackend

namespace AsyncOpcua.History

open Foundation List Option SqliteHistoryBackend InMemoryDataHistory
open Types

variable {NodeId Value : Type} [DecidableEq NodeId]

/-! ### Looking up in memory -/

namespace InMemoryDataHistory

variable (history : InMemoryDataHistory NodeId Value) {node other : NodeId} {tick at_ : ℤ}

def rawAt (node : NodeId) (tick : ℤ) : Option (DataValue Value) :=
  (history.rawValues node).bind fun values => values.find? tick

def modifiedAt (node : NodeId) (tick : ℤ) : List (ModifiedEntry Value) :=
  ((history.modifiedValues node).bind fun values => values.find? tick).getD []

omit [DecidableEq NodeId] in
theorem find?_rawValues : ((history.rawValues node).getD .empty).find? tick =
    history.rawAt node tick := by
  rw [rawAt]
  cases history.rawValues node <;> rfl

omit [DecidableEq NodeId] in
theorem find?_modifiedValues :
    (((history.modifiedValues node).getD .empty).find? tick).getD [] =
      history.modifiedAt node tick := by
  rw [modifiedAt]
  cases history.modifiedValues node <;> rfl

theorem rawAt_setRaw (values : OrderedMap ℤ (DataValue Value)) :
    (history.setRaw node values).rawAt other tick =
      if other = node then values.find? tick else history.rawAt other tick := by
  unfold rawAt setRaw
  by_cases same : other = node
  · simp [same]
  · simp [same]

theorem modifiedAt_pushModified (value : DataValue Value) (updateType : HistoryUpdateType)
    (now : ℤ) :
    (history.pushModified node tick value updateType now).modifiedAt other at_ =
      if other = node ∧ at_ = tick then
        history.modifiedAt node tick ++ [(value, ⟨now, updateType, none⟩)]
      else history.modifiedAt other at_ := by
  unfold modifiedAt pushModified
  by_cases same : other = node
  · subst same
    simp only [Function.update_self, bind_some, OrderedMap.find?_insert, true_and]
    by_cases there : at_ = tick
    · subst there
      rw [if_pos rfl, if_pos rfl, getD_some]
      cases history.modifiedValues other <;> rfl
    · rw [if_neg there, if_neg there]
      cases history.modifiedValues other <;> rfl
  · simp [same]

theorem enforceRawCapacity_eq {maxPerNode : ℕ} {values : OrderedMap ℤ (DataValue Value)}
    (fits : values.size ≤ maxPerNode) : enforceRawCapacity maxPerNode values = values := by
  rw [enforceRawCapacity, Nat.sub_eq_zero_of_le fits]
  rfl

end InMemoryDataHistory

/-! ### Looking up in the tables -/

variable {row : HistoricalRow}

theorem HistoricalRow.isAt_iff {nodeId : String} {tick : ℤ} :
    row.isAt nodeId tick = true ↔ row.nodeId = nodeId ∧ row.sourceTimestamp = tick :=
  decide_eq_true_iff

theorem HistoricalRow.isAt_eq_false {nodeId : String} {tick : ℤ} :
    row.isAt nodeId tick = false ↔ ¬ (row.nodeId = nodeId ∧ row.sourceTimestamp = tick) :=
  decide_eq_false_iff_not

open HistoricalRow

namespace SqliteHistoryBackend

variable (s : SqliteHistoryBackend NodeId) {nodeId other : String} {tick at_ : ℤ}

def rowAt (nodeId : String) (tick : ℤ) : Option HistoricalRow :=
  s.historicalData.find? (isAt nodeId tick)

def movedAt (nodeId : String) (tick : ℤ) : List ModifiedRow :=
  s.modifiedHistoricalData.filter fun row => row.toHistoricalRow.isAt nodeId tick

/-- **The primary key.** -/
def Unique (table : List HistoricalRow) : Prop :=
  table.Pairwise fun a b => ¬ (a.nodeId = b.nodeId ∧ a.sourceTimestamp = b.sourceTimestamp)

omit [DecidableEq NodeId]

theorem rowAt_insertRow (absent : s.rowAt row.nodeId row.sourceTimestamp = none) :
    (s.insertRow row).rowAt other at_ =
      if other = row.nodeId ∧ at_ = row.sourceTimestamp then some row else s.rowAt other at_ := by
  rw [rowAt, insertRow, find?_append, find?_singleton]
  by_cases same : other = row.nodeId ∧ at_ = row.sourceTimestamp
  · obtain ⟨rfl, rfl⟩ := same
    have missing : s.historicalData.find?
        (isAt row.nodeId row.sourceTimestamp) = none := absent
    have here : row.isAt row.nodeId row.sourceTimestamp = true :=
      isAt_iff.mpr ⟨rfl, rfl⟩
    rw [missing, none_or, here]
    simp
  · have elsewhere : row.isAt other at_ = false :=
      isAt_eq_false.mpr fun here => same ⟨here.1.symm, here.2.symm⟩
    rw [elsewhere, if_neg same, if_neg Bool.false_ne_true, or_none]
    rfl

theorem rowAt_replaceRow (row : HistoricalRow) :
    (s.replaceRow row).rowAt other at_ =
      if other = row.nodeId ∧ at_ = row.sourceTimestamp then (s.rowAt other at_).map fun _ => row
      else s.rowAt other at_ := by
  rw [rowAt, replaceRow, find?_map]
  have keys : (isAt other at_ ∘ fun old : HistoricalRow =>
      if old.isAt row.nodeId row.sourceTimestamp then
        { old with
          serverTimestamp := row.serverTimestamp, valueBlob := row.valueBlob
          statusCode := row.statusCode }
      else old) = isAt other at_ := by
    funext old
    simp only [Function.comp_apply]
    split_ifs <;> rfl
  rw [keys]
  cases found : s.historicalData.find? (isAt other at_) with
  | none =>
    rw [rowAt, found]
    split_ifs <;> rfl
  | some old =>
    obtain ⟨named, timed⟩ := isAt_iff.mp (find?_some found)
    rw [rowAt, found, map_some, ← named, ← timed]
    by_cases same : old.nodeId = row.nodeId ∧ old.sourceTimestamp = row.sourceTimestamp
    · rw [if_pos same, if_pos (isAt_iff.mpr same), same.1, same.2]
      rfl
    · rw [if_neg same, if_neg (by rwa [isAt_iff])]

theorem find?_delete {table : List HistoricalRow} {picks : HistoricalRow → Bool} {picked : Bool}
    (decided : ∀ row : HistoricalRow, row.nodeId = other → row.sourceTimestamp = at_ →
      picks row = picked) :
    (table.filter fun row => !picks row).find? (isAt other at_) =
      if picked then none else table.find? (isAt other at_) := by
  rw [find?_filter]
  cases picked with
  | true =>
    rw [if_pos rfl, find?_eq_none]
    intro row _
    rw [decide_eq_true_eq]
    rintro ⟨kept, here⟩
    obtain ⟨named, timed⟩ := isAt_iff.mp here
    rw [decided row named timed] at kept
    exact Bool.false_ne_true kept
  | false =>
    congr 1
    funext row
    cases here : row.isAt other at_ with
    | false => simp
    | true =>
      obtain ⟨named, timed⟩ := isAt_iff.mp here
      rw [decided row named timed]
      rfl

theorem rowAt_deleteRow :
    (s.deleteRow nodeId tick).rowAt other at_ =
      if other = nodeId ∧ at_ = tick then none else s.rowAt other at_ := by
  have decided : ∀ row : HistoricalRow, row.nodeId = other → row.sourceTimestamp = at_ →
      row.isAt nodeId tick = decide (other = nodeId ∧ at_ = tick) := fun row named timed => by
    rw [isAt, named, timed]
  rw [rowAt, deleteRow, find?_delete decided]
  simp only [decide_eq_true_eq]
  rfl

theorem nextRowid_gt {rows : List ModifiedRow} {row : ModifiedRow} (member : row ∈ rows) :
    row.rowid < nextRowid rows := by
  have bound : ∀ (ids : List ℕ) (start : ℕ),
      start ≤ ids.foldl max start ∧ ∀ id ∈ ids, id ≤ ids.foldl max start := by
    intro ids
    induction ids with
    | nil => exact fun start => ⟨le_refl _, fun id absurdly => absurd absurdly not_mem_nil⟩
    | cons first rest ih =>
      intro start
      obtain ⟨above, each⟩ := ih (max start first)
      refine ⟨le_trans (le_max_left _ _) above, fun id there => ?_⟩
      rcases mem_cons.mp there with rfl | later
      · exact le_trans (le_max_right _ _) above
      · exact each id later
  exact Nat.lt_succ_of_le ((bound _ 0).2 row.rowid (mem_map_of_mem member))

structure Logged (table : List ModifiedRow) (clock : ℤ) : Prop where
  increasing : table.Pairwise fun a b => a.modificationTime ≤ b.modificationTime ∧ a.rowid < b.rowid
  past : ∀ row ∈ table, row.modificationTime ≤ ticks clock

theorem Logged.mono {table : List ModifiedRow} {clock now : ℤ} (logged : Logged table clock)
    (later : clock ≤ now) : Logged table now := by
  refine ⟨logged.increasing, fun row member => ?_⟩
  have past := logged.past row member
  unfold ticks at past ⊢
  omega

theorem Logged.filter {table : List ModifiedRow} {clock : ℤ} (logged : Logged table clock)
    (p : ModifiedRow → Bool) : Logged (table.filter p) clock :=
  ⟨logged.increasing.filter p, fun row member => logged.past row (mem_filter.mp member).1⟩

theorem Logged.insertModified {s : SqliteHistoryBackend NodeId} {now : ℤ}
    (logged : Logged s.modifiedHistoricalData now) (row : HistoricalRow) (updateType : ℤ) :
    Logged (s.insertModified row updateType now).modifiedHistoricalData now := by
  constructor
  · refine pairwise_append.mpr ⟨logged.increasing, pairwise_singleton _ _, ?_⟩
    intro row member last isLast
    rcases mem_singleton.mp isLast with rfl
    exact ⟨logged.past row member, nextRowid_gt member⟩
  · intro row member
    rcases mem_append.mp member with earlier | isLast
    · exact logged.past row earlier
    · rcases mem_singleton.mp isLast with rfl
      exact le_refl _

theorem movedAt_insertModified (row : HistoricalRow) (updateType now : ℤ) :
    (s.insertModified row updateType now).movedAt other at_ =
      s.movedAt other at_ ++
        if row.isAt other at_ then
          [{ row with
            updateType := updateType, modificationTime := ticks now, userName := ""
            rowid := nextRowid s.modifiedHistoricalData }]
        else [] := by
  rw [movedAt, insertModified, filter_append, filter_singleton]
  cases row.isAt other at_ <;> rfl

end SqliteHistoryBackend

/-! ### Values that the tables keep -/

def Convertible (time : ℤ) : Prop := fromTicks (ticks time) = time

/-- **A value that the tables keep as it is.** -/
structure Explicit (codec : Codec Value) (value : DataValue Value) : Prop where
  source : ∃ time, value.sourceTimestamp = some time ∧ Convertible time
  server : ∃ time, value.serverTimestamp = some time ∧ Convertible time
  status : value.status.isSome
  decodes : codec.decode (codec.encode value) = some value

namespace Explicit

variable {codec : Codec Value} {value : DataValue Value}

section

variable (explicit : Explicit codec value)
include explicit

theorem rowOf_eq (nodeId : String) (now : ℤ) :
    rowOf codec nodeId now value =
      rowOf codec nodeId 0 value := by
  obtain ⟨source, sourced, -⟩ := explicit.source
  obtain ⟨server, served, -⟩ := explicit.server
  unfold rowOf
  rw [sourced, served]
  rfl

theorem rowToDataValue_rowOf (nodeId : String) (now : ℤ) :
    rowToDataValue codec (rowOf codec nodeId now value) = some value := by
  obtain ⟨source, sourced, sourceTicks⟩ := explicit.source
  obtain ⟨server, served, serverTicks⟩ := explicit.server
  obtain ⟨status, coded⟩ := isSome_iff_exists.mp explicit.status
  unfold rowToDataValue rowOf
  simp only [explicit.decodes, sourced, served, coded, getD_some, map_some]
  rw [sourceTicks, serverTicks, BitVec.ofInt_natCast, BitVec.ofNat_toNat, BitVec.setWidth_eq]
  cases value
  subst sourced served coded
  rfl

theorem sourceTicks_eq (now : ℤ) :
    sourceTicks now value =
      (rowOf codec "" 0 value).sourceTimestamp := by
  obtain ⟨source, sourced, -⟩ := explicit.source
  rw [sourceTicks, rowOf, sourced]
  rfl

end

end Explicit

/-! ### The representation -/

def updateTypeToI64 : HistoryUpdateType → ℤ
  | .insert => 1
  | .replace => 2
  | .update => 3
  | .delete => 4

structure Represents (codec : Codec Value) (text : NodeId → String) (nodes : Set NodeId)
    (s : SqliteHistoryBackend NodeId) (history : InMemoryDataHistory NodeId Value) (clock : ℤ) :
    Prop where
  unique : SqliteHistoryBackend.Unique s.historicalData
  logged : SqliteHistoryBackend.Logged s.modifiedHistoricalData clock
  raw : ∀ node ∈ nodes, ∀ tick,
    s.rowAt (text node) tick =
      (history.rawAt node tick).map (rowOf codec (text node) 0)
  modified : ∀ node ∈ nodes, ∀ tick,
    (s.movedAt (text node) tick).map (fun row => (row.toHistoricalRow, row.updateType)) =
      (history.modifiedAt node tick).map fun entry =>
        (rowOf codec (text node) 0 entry.1,
          updateTypeToI64 entry.2.updateType)
  rawExplicit : ∀ node tick value, history.rawAt node tick = some value →
    Explicit codec value ∧ sourceTicks 0 value = tick
  modifiedExplicit : ∀ node tick entry, entry ∈ history.modifiedAt node tick →
    Explicit codec entry.1 ∧ sourceTicks 0 entry.1 = tick

namespace Represents

variable {codec : Codec Value} {text : NodeId → String} {nodes : Set NodeId}
  {s : SqliteHistoryBackend NodeId} {history : InMemoryDataHistory NodeId Value} {clock : ℤ}
  {node : NodeId} {tick : ℤ} {value : DataValue Value}

section

variable (represents : Represents codec text nodes s history clock)
include represents

omit [DecidableEq NodeId] in
theorem of_tables {t : SqliteHistoryBackend NodeId}
    (sameRaw : t.historicalData = s.historicalData)
    (sameModified : t.modifiedHistoricalData = s.modifiedHistoricalData) :
    Represents codec text nodes t history clock := by
  obtain ⟨data, modified, points, next⟩ := t
  subst sameRaw sameModified
  exact ⟨represents.unique, represents.logged, represents.raw, represents.modified,
    represents.rawExplicit, represents.modifiedExplicit⟩

omit [DecidableEq NodeId] in
theorem of_lookups {history' : InMemoryDataHistory NodeId Value}
    (sameRaw : ∀ node tick, history'.rawAt node tick = history.rawAt node tick)
    (sameModified : ∀ node tick, history'.modifiedAt node tick = history.modifiedAt node tick) :
    Represents codec text nodes s history' clock :=
  ⟨represents.unique, represents.logged,
    fun node there tick => by rw [sameRaw, represents.raw node there],
    fun node there tick => by rw [sameModified, represents.modified node there],
    fun node tick value found => represents.rawExplicit node tick value (sameRaw node tick ▸ found),
    fun node tick entry member =>
      represents.modifiedExplicit node tick entry (sameModified node tick ▸ member)⟩

omit [DecidableEq NodeId] in
theorem rowOf_sourceTimestamp (present : history.rawAt node tick = some value) (nodeId : String) :
    (rowOf codec nodeId 0 value).sourceTimestamp = tick :=
  (represents.rawExplicit node tick value present).2

theorem move (apart : Set.InjOn text nodes) (there : node ∈ nodes)
    (present : history.rawAt node tick = some value) (updateType : HistoryUpdateType) {now : ℤ}
    (later : clock ≤ now) :
    Represents codec text nodes
      (s.insertModified (rowOf codec (text node) 0 value)
        (updateTypeToI64 updateType) now)
      (history.pushModified node tick value updateType now) now := by
  refine ⟨represents.unique, (represents.logged.mono later).insertModified _ _, represents.raw, ?_,
    represents.rawExplicit, ?_⟩
  · intro other among at_
    rw [movedAt_insertModified, map_append,
      represents.modified other among, modifiedAt_pushModified]
    have atTick := represents.rowOf_sourceTimestamp present (text node)
    by_cases same : other = node ∧ at_ = tick
    · obtain ⟨rfl, rfl⟩ := same
      have here : (rowOf codec (text other) 0 value).isAt (text other)
          at_ = true := isAt_iff.mpr ⟨rfl, atTick⟩
      rw [if_pos here, if_pos ⟨rfl, rfl⟩, map_append]
      rfl
    · have elsewhere : ¬ (rowOf codec (text node) 0 value).isAt (text other)
          at_ = true := by
        rw [isAt_iff, atTick]
        rintro ⟨named, timed⟩
        exact same ⟨(apart there among named).symm, timed.symm⟩
      rw [if_neg same, if_neg elsewhere, map_nil, append_nil]
  · intro other at_ entry member
    rw [modifiedAt_pushModified] at member
    split_ifs at member with same
    · obtain ⟨rfl, rfl⟩ := same
      rcases mem_append.mp member with earlier | isLast
      · exact represents.modifiedExplicit _ _ entry earlier
      · rcases mem_singleton.mp isLast with rfl
        exact represents.rawExplicit _ _ value present
    · exact represents.modifiedExplicit _ _ entry member

end

theorem setRaw (represents : Represents codec text nodes s history clock)
    (apart : Set.InjOn text nodes) (there : node ∈ nodes)
    {values : OrderedMap ℤ (DataValue Value)} {t : SqliteHistoryBackend NodeId}
    {kept : Option (DataValue Value)}
    (sameModified : t.modifiedHistoricalData = s.modifiedHistoricalData)
    (unique : SqliteHistoryBackend.Unique t.historicalData)
    (rows : ∀ other at_, t.rowAt other at_ =
      if other = text node ∧ at_ = tick then
        kept.map (rowOf codec (text node) 0)
      else s.rowAt other at_)
    (found : ∀ at_, values.find? at_ = if at_ = tick then kept else history.rawAt node at_)
    (explicit : ∀ value ∈ kept, Explicit codec value ∧
      sourceTicks 0 value = tick) :
    Represents codec text nodes t (history.setRaw node values) clock := by
  obtain ⟨data, modified, points, next⟩ := t
  subst sameModified
  refine ⟨unique, represents.logged, ?_, represents.modified, ?_, represents.modifiedExplicit⟩
  · intro other among at_
    rw [rows, rawAt_setRaw]
    by_cases same : other = node
    · subst same
      rw [if_pos rfl, found]
      by_cases here : at_ = tick
      · rw [if_pos ⟨rfl, here⟩, if_pos here]
      · rw [if_neg fun both => here both.2, if_neg here, represents.raw other among]
    · rw [if_neg same, if_neg fun both => same (apart among there both.1),
        represents.raw other among]
  · intro other at_ value present
    rw [rawAt_setRaw] at present
    split_ifs at present with same
    · rw [found] at present
      split_ifs at present with here
      · exact here ▸ explicit value present
      · exact represents.rawExplicit node at_ value present
    · exact represents.rawExplicit other at_ value present

end Represents

end AsyncOpcua.History
