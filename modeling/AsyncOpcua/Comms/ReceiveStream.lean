/-
**Reading the bodies of chunks one after the other.**

* `ReceiveStream.readMany_deliveries` — where no body but the first is empty, the stream delivers
  the bodies put together.
-/

import AsyncOpcua.Foundation.Cuts
import AsyncOpcua.Comms.SecureChannel

namespace AsyncOpcua.Comms

open Types Foundation Or

inductive ReadError where
  | status (status : StatusCode)
  | invalidData (message : String)

variable {C : Crypto}

def MessageChunk.bodyData (chunk : MessageChunk) (chunkInfo : ChunkInfo) : Option (List UInt8) :=
  let bodyStart := chunkInfo.bodyOffset
  let bodyEnd := bodyStart + chunkInfo.bodyLength
  if bodyEnd ≤ chunk.data.length then some (part chunk.data bodyStart bodyEnd) else none

open List

theorem MessageChunk.bodyData_append {front body : List UInt8} {chunkInfo : ChunkInfo}
    (offset : chunkInfo.bodyOffset = front.length) (length : chunkInfo.bodyLength = body.length) :
    bodyData ⟨front ++ body⟩ chunkInfo = some body := by
  unfold bodyData part
  rw [offset, length, if_pos (length_append).ge, Nat.add_sub_cancel_left, drop_left,
    take_length]

/-- The bodies of a sequence of chunks, as one stream of bytes. -/
structure ReceiveStream (C : Crypto) where
  buffer : List UInt8
  channel : SecureChannel C
  items : List MessageChunk
  numItems : ℕ
  pos : ℕ
  index : ℕ

namespace ReceiveStream

def new (channel : SecureChannel C) (items : List MessageChunk) (numItems : ℕ) :
    Except Error (ReceiveStream C) :=
  match items with
  | [] => .error (.new StatusCode.BadUnexpectedError "Stream contained no chunks")
  | chunk :: items => do
    let chunkInfo ← chunk.chunkInfo channel
    let expectedIsFinal : MessageIsFinalType := if numItems = 1 then .final else .intermediate
    if chunkInfo.messageHeader.isFinal ≠ expectedIsFinal then
      .error (.new StatusCode.BadDecodingError "Last chunk not marked as final")
    else
      match chunk.bodyData chunkInfo with
      | none => .error (.new StatusCode.BadDecodingError "Chunk body range exceeds chunk data")
      | some bodyData => .ok { buffer := bodyData, channel, items, numItems, pos := 0, index := 0 }

def nextBody (stream : ReceiveStream C) (chunk : MessageChunk) : Except ReadError (List UInt8) :=
  match chunk.chunkInfo stream.channel with
  | .error error => .error (.status error.status)
  | .ok chunkInfo =>
    let expectedIsFinal : MessageIsFinalType :=
      if stream.index = stream.numItems - 1 then .final else .intermediate
    if chunkInfo.messageHeader.isFinal ≠ expectedIsFinal then
      .error (.status StatusCode.BadDecodingError)
    else
      match chunk.bodyData chunkInfo with
      | none => .error (.invalidData "Chunk body range exceeds chunk data")
      | some bodyData => .ok bodyData

/-- What fits of the rest of the body at hand is copied. -/
def copy (stream : ReceiveStream C) (size : ℕ) : Except ReadError (List UInt8) × ReceiveStream C :=
  if stream.pos ≤ stream.buffer.length then
    let written := (stream.buffer.drop stream.pos).take size
    (.ok written, { stream with pos := stream.pos + written.length })
  else (.error (.invalidData "Receive stream position exceeds chunk body"), stream)

def read (stream : ReceiveStream C) (size : ℕ) : Except ReadError (List UInt8) × ReceiveStream C :=
  if stream.buffer.length = stream.pos then
    match stream.items with
    | [] => (.ok [], stream)
    | chunk :: items =>
      let stepped := { stream with items := items, index := stream.index + 1 }
      match stepped.nextBody chunk with
      | .error error => (.error error, stepped)
      | .ok bodyData => { stepped with buffer := bodyData, pos := 0 }.copy size
  else stream.copy size

def readMany (stream : ReceiveStream C) :
    List ℕ → Except ReadError (List (List UInt8)) × ReceiveStream C
  | [] => (.ok [], stream)
  | size :: sizes =>
    match stream.read size with
    | (.error error, stream) => (.error error, stream)
    | (.ok piece, stream) => ((stream.readMany sizes).1.map (piece :: ·), (stream.readMany sizes).2)

/-! ### What is still to be read -/

def Carries (channel : SecureChannel C) (numItems index : ℕ) (chunk : MessageChunk)
    (body : List UInt8) : Prop :=
  ∃ chunkInfo, chunk.chunkInfo channel = .ok chunkInfo ∧
    chunkInfo.messageHeader.isFinal = (if index = numItems - 1 then .final else .intermediate) ∧
    chunk.bodyData chunkInfo = some body

inductive Bodies (channel : SecureChannel C) (numItems : ℕ) :
    ℕ → List MessageChunk → List (List UInt8) → Prop
  | nil (index : ℕ) : Bodies channel numItems index [] []
  | cons {index : ℕ} {chunk : MessageChunk} {items : List MessageChunk} {body : List UInt8}
      {bodies : List (List UInt8)} : Carries channel numItems index chunk body →
      Bodies channel numItems (index + 1) items bodies →
      Bodies channel numItems index (chunk :: items) (body :: bodies)

theorem bodies_range' {channel : SecureChannel C} {numItems : ℕ} {chunk : ℕ → MessageChunk}
    {body : ℕ → List UInt8} {first count : ℕ} (each : ∀ index, first ≤ index →
      index < first + count → Carries channel numItems index (chunk index) (body index)) :
    Bodies channel numItems first ((range' first count).map chunk)
      ((range' first count).map body) := by
  induction count generalizing first with
  | zero => exact .nil first
  | succ count ih =>
    refine .cons (each first (le_refl _) (by omega)) (ih fun index above below => ?_)
    exact each index (by omega) (by omega)

/-- The bodies of the chunks to come. -/
structure Loaded (stream : ReceiveStream C) (bodies : List (List UInt8)) : Prop where
  inside : stream.pos ≤ stream.buffer.length
  carried : Bodies stream.channel stream.numItems (stream.index + 1) stream.items bodies

def left (stream : ReceiveStream C) (bodies : List (List UInt8)) : List UInt8 :=
  stream.buffer.drop stream.pos ++ bodies.flatten

variable {stream : ReceiveStream C} {body : List UInt8}

theorem nextBody_carries {chunk : MessageChunk}
    (carries : Carries stream.channel stream.numItems stream.index chunk body) :
    stream.nextBody chunk = .ok body := by
  obtain ⟨chunkInfo, info, isFinal, data⟩ := carries
  simp only [nextBody, info, isFinal, data, ne_eq, not_true_eq_false, if_false]

theorem copy_drop (inside : stream.pos ≤ stream.buffer.length) (size : ℕ) :
    ∃ pos, stream.copy size =
        (.ok ((stream.buffer.drop stream.pos).take size), { stream with pos := pos }) ∧
      pos ≤ stream.buffer.length ∧
      stream.buffer.drop pos = (stream.buffer.drop stream.pos).drop size := by
  refine ⟨_, if_pos inside, ?_, ?_⟩
  · rw [length_take, length_drop]
    omega
  · rw [← drop_drop, length_take]
    rcases le_total size (stream.buffer.drop stream.pos).length with short | long
    · rw [min_eq_left short]
    · rw [min_eq_right long, drop_length, drop_eq_nil_of_le long]

variable {bodies : List (List UInt8)}

theorem Loaded.read_used (loaded : stream.Loaded (body :: bodies))
    (used : stream.buffer.length = stream.pos) (size : ℕ) :
    ∃ after, stream.read size = (.ok (body.take size), after) ∧ after.Loaded bodies ∧
      after.buffer.drop after.pos = body.drop size := by
  obtain ⟨-, carried⟩ := loaded
  generalize same : stream.items = items at carried
  cases carried with
  | @cons _ chunk items _ _ carries carried =>
    have found : ({ stream with items := items, index := stream.index + 1 } :
        ReceiveStream C).nextBody chunk = .ok body := nextBody_carries carries
    obtain ⟨pos, copied, inside, rest⟩ := @copy_drop _ { stream with
      items := items, index := stream.index + 1, buffer := body, pos := 0 } (Nat.zero_le _) size
    refine ⟨⟨body, stream.channel, items, stream.numItems, pos, stream.index + 1⟩, ?_,
      ⟨inside, carried⟩, rest⟩
    rw [ReceiveStream.read, if_pos used, same]
    dsimp only
    rw [found]
    exact copied

/-- **A read** takes from the front of what is left. It brings nothing without room, at the end, and
where it steps into an empty body. -/
theorem Loaded.read (loaded : stream.Loaded bodies) (size : ℕ) : ∃ piece after later,
      stream.read size = (.ok piece, after) ∧ piece.length ≤ size ∧ after.Loaded later ∧
        stream.left bodies = piece ++ after.left later ∧
        (piece = [] → size = 0 ∨ after.left later = [] ∨
          bodies = [] :: later ∧ after.left later = later.flatten) ∧
        (later = bodies ∨ ∃ body, bodies = body :: later) := by
  by_cases used : stream.buffer.length = stream.pos
  · have nothing : stream.buffer.drop stream.pos = [] := by rw [← used, drop_length]
    cases bodies with
    | nil =>
      have last : stream.items = [] := by
        have carried := loaded.carried
        generalize stream.items = items at carried
        cases carried
        rfl
      refine ⟨[], stream, [], ?_, Nat.zero_le _, loaded, rfl, fun _ => inr (inl ?_),
        inl rfl⟩
      · rw [ReceiveStream.read, if_pos used, last]
      · simp [left, nothing]
    | cons body bodies =>
      obtain ⟨after, read, kept, rest⟩ := loaded.read_used used size
      refine ⟨_, after, bodies, read, length_take_le _ _, kept, ?_, fun empty => ?_,
        inr ⟨body, rfl⟩⟩
      · rw [left, left, nothing, rest, flatten_cons, nil_append,
          ← append_assoc (body.take size), take_append_drop]
      · rcases take_eq_nil_iff.mp empty with none | none
        · exact inl none
        · refine inr (inr ⟨by rw [none], ?_⟩)
          rw [left, rest, none, drop_nil, nil_append]
  · obtain ⟨pos, copied, inside, rest⟩ := copy_drop loaded.inside size
    refine ⟨_, _, bodies, (if_neg used).trans copied, length_take_le _ _,
      ⟨inside, loaded.carried⟩, ?_, fun empty => ?_, inl rfl⟩
    · show _ = _ ++ (stream.buffer.drop pos ++ bodies.flatten)
      rw [rest, ← append_assoc, take_append_drop]
      rfl
    · refine inl ((take_eq_nil_iff.mp empty).resolve_right fun none => ?_)
      have inside := loaded.inside
      have length := drop_eq_nil_iff.mp none
      omega

/-- **What is still to be read:** the rest of the body at hand, and the bodies of the other chunks,
none of which is empty. -/
structure Holds (stream : ReceiveStream C) (rest : List UInt8) : Prop where
  inside : stream.pos ≤ stream.buffer.length
  bodies : ∃ bodies, Bodies stream.channel stream.numItems (stream.index + 1) stream.items bodies ∧
    (∀ body ∈ bodies, body ≠ []) ∧ rest = stream.buffer.drop stream.pos ++ bodies.flatten

variable {rest : List UInt8}

theorem Holds.loaded (holds : stream.Holds rest) :
    ∃ bodies, stream.Loaded bodies ∧ (∀ body ∈ bodies, body ≠ []) ∧ rest = stream.left bodies := by
  obtain ⟨inside, bodies, carried, full, rfl⟩ := holds
  exact ⟨bodies, ⟨inside, carried⟩, full, rfl⟩

/-- **A read** takes from the front of what is to be read, and nothing only at its end. -/
theorem Holds.read (holds : stream.Holds rest) (size : ℕ) :
    ∃ piece after, stream.read size = (.ok piece, after) ∧ piece.length ≤ size ∧
      ∃ later, rest = piece ++ later ∧ (piece = [] → size = 0 ∨ later = []) ∧
        after.Holds later := by
  obtain ⟨bodies, loaded, full, rfl⟩ := holds.loaded
  obtain ⟨piece, after, later, read, fits, kept, split, ends, next⟩ := loaded.read size
  have still : ∀ body ∈ later, body ≠ [] := by
    rcases next with rfl | ⟨body, rfl⟩
    · exact full
    · exact fun other member => full other (mem_cons_of_mem _ member)
  refine ⟨piece, after, read, fits, after.left later, split, fun empty => ?_, kept.inside, later,
    kept.carried, still, rfl⟩
  rcases ends empty with none | ended | ⟨rfl, -⟩
  · exact inl none
  · exact inr ended
  · exact absurd rfl (full [] mem_cons_self)

theorem Holds.readMany (holds : stream.Holds rest) (sizes : List ℕ) :
    ∃ pieces, (stream.readMany sizes).1 = .ok pieces ∧ Deliveries rest sizes pieces := by
  induction sizes generalizing stream rest with
  | nil => exact ⟨[], rfl, .nil rest⟩
  | cons size sizes ih =>
    obtain ⟨piece, after, read, fits, later, rfl, ends, holds⟩ := holds.read size
    obtain ⟨pieces, reads, deliveries⟩ := ih holds
    refine ⟨piece :: pieces, ?_, .read piece later size fits ends deliveries⟩
    rw [ReceiveStream.readMany, read]
    show (after.readMany sizes).1.map (piece :: ·) = _
    rw [reads]
    rfl

variable {channel : SecureChannel C}

theorem new_loaded {items : List MessageChunk}
    (carried : Bodies channel items.length 0 items (body :: bodies)) :
    ∃ stream, new channel items items.length = .ok stream ∧ stream.Loaded bodies ∧
      stream.left bodies = (body :: bodies).flatten := by
  cases carried with
  | @cons _ chunk items _ _ carries carried =>
    obtain ⟨chunkInfo, info, isFinal, data⟩ := carries
    have first : (if (chunk :: items).length = 1 then MessageIsFinalType.final
        else MessageIsFinalType.intermediate) = chunkInfo.messageHeader.isFinal := by
      rw [isFinal]
      refine if_congr ?_ rfl rfl
      rw [length_cons]
      omega
    refine ⟨⟨body, channel, items, (chunk :: items).length, 0, 0⟩, ?_, ⟨Nat.zero_le _, carried⟩,
      flatten_cons.symm⟩
    simp only [new, info, first, data, bind, Except.bind, ne_eq, not_true_eq_false, if_false]

theorem new_holds {items : List MessageChunk} {numItems : ℕ}
    (carried : Bodies channel numItems 0 items (body :: bodies)) (count : items.length = numItems)
    (full : ∀ body ∈ bodies, body ≠ []) :
    ∃ stream, new channel items numItems = .ok stream ∧ stream.Holds (body :: bodies).flatten := by
  subst count
  obtain ⟨stream, made, loaded, left⟩ := new_loaded carried
  exact ⟨stream, made, loaded.inside, bodies, loaded.carried, full, left.symm⟩

end ReceiveStream

end AsyncOpcua.Comms
