/-
**The two backends on the same calls.**

The tables name a node by its text. As long as the nodes in use have different texts, the backends
give the same status codes to any sequence of calls and return the same values to complete reads;
two nodes of one text share their rows.

* `backends_agree` — with what complete reads return at its end.
-/

import AsyncOpcua.History.Listings
import AsyncOpcua.Types.NodeId

namespace AsyncOpcua.History

open Foundation List SqliteHistoryBackend
open Types

/-- **A call of a backend.** A single page is read with a token of the tables; what the memory
answers to it leaves no trace there. -/
inductive Call (NodeId Value : Type) where
  | updateData (nodeId : NodeId) (perform : PerformUpdateType) (values : List (DataValue Value))
  | deleteRawModified (nodeId : NodeId) (isDeleteModified : Bool) (startTime endTime : ℤ)
  | deleteAtTime (nodeId : NodeId) (reqTimes : List ℤ)
  | readPage (nodeId : NodeId) (startTime endTime : ℤ) (numValuesPerNode : ℕ)
      (returnBounds isReadModified : Bool) (continuationPoint : Option ℕ)

/-- A call, what the clock shows then, and the instant for the age of continuation points. -/
structure TimedCall (NodeId Value : Type) where
  call : Call NodeId Value
  now : ℤ
  instant : ℕ

section Backends

variable {NodeId Value : Type} [DecidableEq NodeId]

def memory : Component (InMemoryDataHistory NodeId Value) (TimedCall NodeId Value)
    (List StatusCode) where
  step history timed :=
    match timed.call with
    | .updateData nodeId perform values => history.updateData nodeId perform values timed.now
    | .deleteRawModified nodeId isDeleteModified startTime endTime =>
      (history.deleteRawModified nodeId isDeleteModified startTime endTime timed.now).map
        (fun status => [status]) id
    | .deleteAtTime nodeId reqTimes => history.deleteAtTime nodeId reqTimes timed.now
    | .readPage .. => ([], history)

def tables (codec : Codec Value) (text : NodeId → String) :
    Component (SqliteHistoryBackend NodeId) (TimedCall NodeId Value) (List StatusCode) where
  step s timed :=
    match timed.call with
    | .updateData nodeId perform values =>
      s.updateData codec text nodeId perform values timed.now timed.instant
    | .deleteRawModified nodeId isDeleteModified startTime endTime =>
      (s.deleteRawModified text nodeId isDeleteModified startTime endTime timed.now
        timed.instant).map (fun status => [status]) id
    | .deleteAtTime nodeId reqTimes => s.deleteAtTime text nodeId reqTimes timed.now timed.instant
    | .readPage nodeId startTime endTime numValuesPerNode returnBounds isReadModified
        continuationPoint =>
      ([], (s.readRawModified codec text nodeId startTime endTime numValuesPerNode returnBounds
        isReadModified continuationPoint timed.instant).2)

def SqliteHistoryBackend.empty : SqliteHistoryBackend NodeId := ⟨[], [], fun _ => none, 0⟩

def Permitted (codec : Codec Value) (nodes : Set NodeId)
    (history : InMemoryDataHistory NodeId Value)
    (timed : TimedCall NodeId Value) : Prop :=
  match timed.call with
  | .updateData nodeId perform values =>
    nodeId ∈ nodes ∧ (∀ value ∈ values, Explicit codec value) ∧
      history.RoomForAll nodeId perform timed.now values
  | .deleteRawModified nodeId .. => nodeId ∈ nodes
  | .deleteAtTime nodeId _ => nodeId ∈ nodes
  | .readPage .. => True

variable {codec : Codec Value} {text : NodeId → String} {nodes : Set NodeId}
  {s : SqliteHistoryBackend NodeId} {history : InMemoryDataHistory NodeId Value} {clock : ℤ}

omit [DecidableEq NodeId] in
theorem sameTables_page (s : SqliteHistoryBackend NodeId) (cursor : HistoryReadCursor NodeId)
    (resumeAfter : Option ℤ) (pageSize instant : ℕ) :
    SqliteHistoryBackend.SameTables s
      (s.readPage codec text cursor resumeAfter pageSize instant).2 := by
  unfold readPage
  dsimp only
  split
  · split <;> exact ⟨rfl, rfl⟩
  · split
    · exact ⟨rfl, rfl⟩
    · exact ⟨rfl, rfl⟩
    · split <;> exact ⟨rfl, rfl⟩

omit [DecidableEq NodeId] in
theorem sameTables_readPage (codec : Codec Value) (text : NodeId → String)
    (s : SqliteHistoryBackend NodeId) (nodeId : NodeId) (startTime endTime : ℤ)
    (numValuesPerNode : ℕ) (returnBounds isReadModified : Bool) (continuationPoint : Option ℕ)
    (instant : ℕ) :
    SqliteHistoryBackend.SameTables s (s.readRawModified codec text nodeId startTime endTime
      numValuesPerNode returnBounds isReadModified continuationPoint instant).2 := by
  unfold readRawModified
  cases continuationPoint with
  | none => exact sameTables_page (s.pruneContinuationPoints instant) _ _ _ _
  | some token =>
    dsimp only
    split
    · exact ⟨rfl, rfl⟩
    · next cp _ =>
      exact sameTables_page ((s.pruneContinuationPoints instant).removeContinuationPoint token)
        cp.cursor _ _ _

section

variable (apart : Set.InjOn text nodes) (represents : Represents codec text nodes s history clock)
include apart represents

theorem step_represents (timed : TimedCall NodeId Value) (later : clock ≤ timed.now)
    (permitted : Permitted codec nodes history timed) :
    ((tables codec text).step s timed).1 = (memory.step history timed).1 ∧
      Represents codec text nodes ((tables codec text).step s timed).2
        (memory.step history timed).2 timed.now := by
  obtain ⟨call, now, instant⟩ := timed
  cases call with
  | updateData nodeId perform values =>
    exact represents.updateData_represents apart permitted.1 later perform permitted.2.1
      permitted.2.2 instant
  | deleteRawModified nodeId isDeleteModified startTime endTime =>
    obtain ⟨same, kept⟩ := represents.deleteRawModified_represents apart permitted later
      isDeleteModified startTime endTime instant
    exact ⟨congrArg (fun status => [status]) same, kept⟩
  | deleteAtTime nodeId reqTimes =>
    exact represents.deleteAtTime_represents apart permitted later reqTimes instant
  | readPage nodeId startTime endTime numValuesPerNode returnBounds isReadModified
      continuationPoint =>
    have same := sameTables_readPage codec text s nodeId startTime endTime numValuesPerNode
      returnBounds isReadModified continuationPoint instant
    exact ⟨rfl, (represents.of_tables same.1 same.2).mono later⟩

theorem run_represents {calls : List (TimedCall NodeId Value)}
    (later : ∀ timed ∈ calls, clock ≤ timed.now)
    (monotone : calls.Pairwise fun a b => a.now ≤ b.now)
    (permitted : memory.Allowed (Permitted codec nodes) history calls) :
    ((tables codec text).run s calls).1 = (memory.run history calls).1 ∧
      ∃ clock, Represents codec text nodes ((tables codec text).run s calls).2
        (memory.run history calls).2 clock := by
  induction calls generalizing s history clock with
  | nil => exact ⟨rfl, clock, represents⟩
  | cons timed calls ih =>
    obtain ⟨first, monotone⟩ := pairwise_cons.mp monotone
    obtain ⟨same, kept⟩ := step_represents apart represents timed
      (later timed mem_cons_self) permitted.1
    obtain ⟨answers, left⟩ := ih kept first monotone permitted.2
    exact ⟨congrArg₂ cons same answers, left⟩

end

omit [DecidableEq NodeId] in
theorem represents_empty (maxPerNode : ℕ) :
    Represents codec text nodes empty
      (InMemoryDataHistory.withCapacity maxPerNode) clock :=
  ⟨List.Pairwise.nil, ⟨List.Pairwise.nil, fun _ absurdly => absurd absurdly not_mem_nil⟩,
    fun _ _ _ => rfl, fun _ _ _ => rfl,
    fun _ _ _ absurdly => absurd absurdly (Option.some_ne_none _).symm,
    fun _ _ _ absurdly => absurd absurdly not_mem_nil⟩

end Backends

/-! ### Interchangeable -/

/-- **The backends agree** on nodes whose texts are different: any calls are answered with the same
status codes, and afterwards complete reads of any interval, with any page sizes, return the same
values in the same order. A read of the tables is complete if every continuation point is used
before it is too old. -/
theorem backends_agree {Value : Type} (guid : BitVec 128 → String) (base64 : ByteString → String)
    (codec : Codec Value) (maxPerNode : ℕ) {nodes : Set NodeId}
    (apart : Set.InjOn (NodeId.text guid base64) nodes) (calls : List (TimedCall NodeId Value))
    (monotone : calls.Pairwise fun a b => a.now ≤ b.now)
    (permitted : memory.Allowed (Permitted codec nodes) (.withCapacity maxPerNode) calls) :
    ((tables codec (NodeId.text guid base64)).run .empty calls).1 =
        (memory.run (.withCapacity maxPerNode) calls).1 ∧
      ∀ node ∈ nodes, ∀ startTime endTime : ℤ, startTime < endTime → ∀ isReadModified : Bool,
        ∃ values, ∀ (memoryPages : ℕ → ℕ) (tablePages : ℕ → ℕ × ℕ),
          (∀ read, (InMemoryDataHistory.pages node startTime endTime isReadModified).Reads
              memoryPages (memory.run (.withCapacity maxPerNode) calls).2 read ↔ read = values) ∧
            (∀ read, (pages codec (NodeId.text guid base64) node startTime
              endTime isReadModified).Reads tablePages
                ((tables codec (NodeId.text guid base64)).run .empty calls).2 read →
                  read = values) ∧
            ((∀ i, (tablePages (i + 1)).2 - (tablePages i).2 <
              SqliteHistoryBackend.CONTINUATION_POINT_MAX_AGE) →
                (pages codec (NodeId.text guid base64) node startTime endTime
                  isReadModified).Reads tablePages
                    ((tables codec (NodeId.text guid base64)).run .empty calls).2 values) := by
  have start : ∀ clock, Represents codec (NodeId.text guid base64) nodes .empty
      (.withCapacity maxPerNode) clock := fun _ => represents_empty maxPerNode
  obtain ⟨clock, early⟩ : ∃ clock, ∀ timed ∈ calls, clock ≤ timed.now := by
    cases calls with
    | nil => exact ⟨0, fun _ absurdly => absurd absurdly not_mem_nil⟩
    | cons first rest =>
      refine ⟨first.now, fun timed member => ?_⟩
      rcases mem_cons.mp member with rfl | later
      · exact le_refl _
      · exact (pairwise_cons.mp monotone).1 timed later
  obtain ⟨answers, clock, represents⟩ := run_represents apart (start clock) early monotone permitted
  refine ⟨answers, fun node there startTime endTime forward isReadModified => ?_⟩
  have inOrder : ticks startTime ≤ ticks endTime := by
    unfold ticks
    omega
  refine ⟨_, fun memoryPages tablePages => ⟨fun read =>
    InMemoryDataHistory.reads_iff inOrder memoryPages, ?_⟩⟩
  exact represents.reads_tables there forward isReadModified tablePages

/-! ### One node, and two nodes of one text -/

def sample (byte : UInt8) : DataValue UInt8 where
  value := some byte
  status := some StatusCode.Good
  sourceTimestamp := some 0
  sourcePicoseconds := none
  serverTimestamp := some 0
  serverPicoseconds := none

def sampleCodec : Codec UInt8 where
  encode value := value.value.toList
  decode
    | [byte] => some (sample byte)
    | _ => none

theorem explicit_sample (byte : UInt8) : ∀ value ∈ [sample byte], Explicit sampleCodec value := by
  intro value member
  rcases mem_singleton.mp member with rfl
  have convertible : Convertible 0 := by
    unfold Convertible
    decide
  exact ⟨⟨0, rfl, convertible⟩, ⟨0, rfl, convertible⟩, rfl, rfl⟩

def writeAt (nodeId : NodeId) (perform : PerformUpdateType) (byte : UInt8) :
    TimedCall NodeId UInt8 :=
  ⟨.updateData nodeId perform [sample byte], 0, 0⟩

/-- Two nodes with a value each, and one of the values is updated. -/
def twoNodes : List (TimedCall NodeId UInt8) :=
  [writeAt ⟨1, .numeric 5⟩ .insert 1, writeAt ⟨1, .string (some "5")⟩ .insert 3,
    writeAt ⟨1, .numeric 5⟩ .update 2]

theorem backends_agree_after_update :
    ((tables sampleCodec (NodeId.text (fun _ => "") (fun _ => ""))).run .empty twoNodes).1 =
      (memory.run (.withCapacity 10) twoNodes).1 ∧
    ((pages sampleCodec (NodeId.text (fun _ => "") (fun _ => ""))
      ⟨1, .numeric 5⟩ 0 100 false).Reads (fun _ => (1, 0))
        ((tables sampleCodec (NodeId.text (fun _ => "") (fun _ => ""))).run .empty twoNodes).2
        [sample 2]) ∧
    (pages sampleCodec (NodeId.text (fun _ => "") (fun _ => ""))
      ⟨1, .string (some "5")⟩ 0 100 false).Reads (fun _ => (1, 0))
        ((tables sampleCodec (NodeId.text (fun _ => "") (fun _ => ""))).run .empty twoNodes).2
        [sample 3] := by
  have apart : Set.InjOn (NodeId.text (fun _ => "") (fun _ => ""))
      {⟨1, .numeric 5⟩, ⟨1, .string (some "5")⟩} :=
    Set.injOn_pair.mpr fun same => absurd same (by decide)
  obtain ⟨answers, reads⟩ :=
    backends_agree (fun _ => "") (fun _ => "") sampleCodec 10 apart twoNodes
    (by decide) ⟨⟨.inl rfl, explicit_sample 1, fun _ _ => by decide, trivial⟩,
      ⟨.inr rfl, explicit_sample 3, fun _ _ => by decide, trivial⟩,
      ⟨.inl rfl, explicit_sample 2, fun _ _ => by decide, trivial⟩, trivial⟩
  refine ⟨answers, ?_, ?_⟩
  · obtain ⟨values, reads⟩ := reads _ (.inl rfl) 0 100 (by decide) false
    obtain ⟨isRead, -, complete⟩ := reads (fun _ => 0) (fun _ => (1, 0))
    rw [(isRead [sample 2]).mp ⟨2, rfl⟩]
    exact complete fun _ => by decide
  · obtain ⟨values, reads⟩ := reads _ (.inr rfl) 0 100 (by decide) false
    obtain ⟨isRead, -, complete⟩ := reads (fun _ => 0) (fun _ => (1, 0))
    rw [(isRead [sample 3]).mp ⟨2, rfl⟩]
    exact complete fun _ => by decide

/-- **A null string is shown as `[null]`,** so the tables take it for the string `[null]`. -/
theorem texts_collide :
    memory.Allowed (Permitted sampleCodec Set.univ) (.withCapacity 10)
        [writeAt ⟨1, .string none⟩ .insert 1, writeAt ⟨1, .string (some "[null]")⟩ .insert 2] ∧
      (memory.run (.withCapacity 10)
        [writeAt ⟨1, .string none⟩ .insert 1, writeAt ⟨1, .string (some "[null]")⟩ .insert 2]).1 =
          [[StatusCode.GoodEntryInserted], [StatusCode.GoodEntryInserted]] ∧
      ((tables sampleCodec (NodeId.text (fun _ => "") (fun _ => ""))).run .empty
        [writeAt ⟨1, .string none⟩ .insert 1, writeAt ⟨1, .string (some "[null]")⟩ .insert 2]).1 =
          [[StatusCode.GoodEntryInserted], [StatusCode.BadEntryExists]] :=
  ⟨⟨⟨trivial, explicit_sample 1, fun _ _ => by decide, trivial⟩,
    ⟨trivial, explicit_sample 2, fun _ _ => by decide, trivial⟩, trivial⟩, by decide, by decide⟩

end AsyncOpcua.History
