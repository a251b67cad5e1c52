/-
**Messages read from chunks, however they are cut.**

A read that steps into an empty body brings nothing, which is how the end of a message looks. So
what is read depends on the bytes alone exactly where behind an empty body, the first one apart,
there are only empty ones.

* `ReceiveStream.Loaded.stalls` — an empty body before others ends a reading early;
* `ReceiveStream.served_iff` — which cuts are read as their bytes in a single chunk are.
-/

import AsyncOpcua.Foundation.Readers
import AsyncOpcua.Comms.Chunker

namespace AsyncOpcua.Comms.ReceiveStream

open Foundation List ReceiveStream Chunker

variable {C : Crypto}

/-! ### Bodies with empty ones among them -/

def EmptyOnlyLast (bodies : List (List UInt8)) : Prop :=
  ∀ front back, bodies = front ++ [] :: back → back.flatten = []

theorem emptyOnlyLast_nil : EmptyOnlyLast [] := by
  intro front back same
  cases front <;> cases same

variable {bodies : List (List UInt8)}

theorem emptyOnlyLast_cons {body : List UInt8} :
    EmptyOnlyLast (body :: bodies) ↔ (body = [] → bodies.flatten = []) ∧ EmptyOnlyLast bodies := by
  constructor
  · intro only
    refine ⟨fun empty => only [] bodies (by rw [empty]; rfl), fun front back same => ?_⟩
    exact only (body :: front) back (by rw [same]; rfl)
  · rintro ⟨first, only⟩ front back same
    cases front with
    | nil =>
      obtain ⟨empty, rfl⟩ := cons.inj same
      exact first empty
    | cons other front => exact only front back (cons.inj same).2

/-! ### Reads -/

theorem takesFront_emptyOnlyLast : TakesFront (read (C := C)) fun stream rest =>
    ∃ bodies, stream.Loaded bodies ∧ EmptyOnlyLast bodies ∧ rest = stream.left bodies := by
  rintro stream rest size ⟨bodies, loaded, only, rfl⟩
  obtain ⟨piece, after, later, read, fits, kept, split, ends, next⟩ := loaded.read size
  have still : EmptyOnlyLast later := by
    rcases next with rfl | ⟨body, rfl⟩
    · exact only
    · exact (emptyOnlyLast_cons.mp only).2
  refine ⟨piece, after, after.left later, read, fits, split, fun empty => ?_,
    ⟨later, kept, still, rfl⟩⟩
  rcases ends empty with none | ended | ⟨rfl, rest⟩
  · exact Or.inl none
  · exact Or.inr ended
  · exact Or.inr (rest.trans ((emptyOnlyLast_cons.mp only).1 rfl))

/-! ### Empty bodies before others -/

variable {stream : ReceiveStream C}

theorem Loaded.readExact_rest (loaded : stream.Loaded bodies) : ∃ after, after.Loaded bodies ∧
      after.buffer.length = after.pos ∧ answer ReceiveStream.read stream
        (.readExact (stream.buffer.drop stream.pos).length) =
          (.ok (stream.buffer.drop stream.pos), after) := by
  by_cases used : stream.buffer.length = stream.pos
  · refine ⟨stream, loaded, used, ?_⟩
    have nothing : stream.buffer.drop stream.pos = [] := by rw [← used, drop_length]
    rw [nothing, answer, fillExact]
    rfl
  · have some : 0 < (stream.buffer.drop stream.pos).length := by
      have inside := loaded.inside
      rw [length_drop]
      omega
    obtain ⟨pos, copied, inside, rest⟩ :=
      copy_drop loaded.inside (stream.buffer.drop stream.pos).length
    rw [take_length] at copied
    rw [drop_length] at rest
    refine ⟨{ stream with pos := pos }, ⟨inside, loaded.carried⟩,
      le_antisymm (drop_eq_nil_iff.mp rest) inside, ?_⟩
    exact fillExact_of_read some ((if_neg used).trans copied) rfl

theorem Loaded.readExact_body {body : List UInt8} (loaded : stream.Loaded (body :: bodies))
    (used : stream.buffer.length = stream.pos) (some : body ≠ []) :
    ∃ after, after.Loaded bodies ∧ after.buffer.length = after.pos ∧
      answer ReceiveStream.read stream (.readExact body.length) = (.ok body, after) := by
  obtain ⟨after, read, kept, rest⟩ := loaded.read_used used body.length
  rw [take_length] at read
  rw [drop_length] at rest
  refine ⟨after, kept, le_antisymm (drop_eq_nil_iff.mp rest) kept.inside, ?_⟩
  exact fillExact_of_read (length_pos_of_ne_nil some) read rfl

/-- **An empty body before others ends a reading early.** -/
theorem Loaded.stalls_used (loaded : stream.Loaded bodies)
    (used : stream.buffer.length = stream.pos) (gap : ¬ EmptyOnlyLast bodies) :
    ∃ calls items rest, rest ≠ [] ∧
      Completes ReceiveStream.read stream calls items ∧ bodies.flatten = items ++ rest := by
  induction bodies generalizing stream with
  | nil => exact absurd emptyOnlyLast_nil gap
  | cons body bodies ih =>
    by_cases empty : body = []
    · have more : bodies.flatten ≠ [] := by
        intro none
        refine gap (emptyOnlyLast_cons.mpr ⟨fun _ => none, fun front back same => ?_⟩)
        rw [same, flatten_append, append_eq_nil_iff] at none
        exact none.2
      obtain ⟨after, read, kept, rest⟩ := loaded.read_used used 1
      refine ⟨[], [], bodies.flatten, more, ⟨[], 1, Nat.one_pos, ?_, rfl⟩, by simp [empty]⟩
      rw [empty] at read
      simp [perform, answer, read, Except.mapError]
    · obtain ⟨after, kept, ended, answered⟩ := loaded.readExact_body used empty
      have later : ¬ EmptyOnlyLast bodies := fun only =>
        gap (emptyOnlyLast_cons.mpr ⟨fun none => absurd none empty, only⟩)
      obtain ⟨calls, items, rest, some, completes, split⟩ := ih kept ended later
      refine ⟨_, body ++ items, rest, some, completes.cons answered, ?_⟩
      rw [flatten_cons, split, append_assoc]

theorem Loaded.stalls (loaded : stream.Loaded bodies) (gap : ¬ EmptyOnlyLast bodies) :
    ∃ calls items rest,
      rest ≠ [] ∧ Completes ReceiveStream.read stream calls items ∧
        stream.left bodies = items ++ rest := by
  obtain ⟨after, kept, used, answered⟩ := loaded.readExact_rest
  obtain ⟨calls, items, rest, some, completes, split⟩ := kept.stalls_used used gap
  refine ⟨_, _, rest, some, completes.cons answered, ?_⟩
  rw [left, split, append_assoc]

/-! ### Messages -/

/-- **Which cuts are read as a single chunk.** A single chunk serves all calls with its bytes, and a
reading to its end brings all of them. The chunks of the same bytes do so exactly when behind an
empty body, the first one apart, there are only empty ones. -/
theorem served_iff {channel : SecureChannel C} {items : List MessageChunk} {body : List UInt8}
    {bodies : List (List UInt8)} (carried : Bodies channel items.length 0 items (body :: bodies))
    {single : MessageChunk} (whole : Carries channel 1 0 single (body :: bodies).flatten) :
    ∃ stream alone, new channel items items.length = .ok stream ∧
      new channel [single] 1 = .ok alone ∧
      (∀ calls, Serves (body :: bodies).flatten calls (perform read alone calls)) ∧
      (∀ calls bytes, Completes read alone calls bytes →
        bytes = (body :: bodies).flatten) ∧
      ((∀ calls, Serves (body :: bodies).flatten calls (perform read stream calls)) ↔
        EmptyOnlyLast bodies) ∧
      ((∀ calls bytes, Completes read stream calls bytes →
        bytes = (body :: bodies).flatten) ↔ EmptyOnlyLast bodies) := by
  obtain ⟨stream, made, loaded, left⟩ := new_loaded carried
  obtain ⟨alone, made', loaded', left'⟩ := @new_loaded _ _ _ _ [single] (.cons whole (.nil 1))
  rw [flatten_cons, flatten_nil, append_nil] at left'
  have serves : ∀ calls, Serves (body :: bodies).flatten calls
      (perform read alone calls) :=
    takesFront_emptyOnlyLast.serves ⟨[], loaded', emptyOnlyLast_nil, left'.symm⟩
  have gapless : EmptyOnlyLast bodies → ∀ calls, Serves (body :: bodies).flatten calls
      (perform read stream calls) := fun only =>
    takesFront_emptyOnlyLast.serves ⟨bodies, loaded, only, left.symm⟩
  have short : (∀ calls bytes, Completes read stream calls bytes →
      bytes = (body :: bodies).flatten) → EmptyOnlyLast bodies := by
    intro all
    by_contra gap
    obtain ⟨calls, bytes, rest, some, completes, split⟩ := loaded.stalls gap
    rw [left, ← all calls bytes completes] at split
    exact some (self_eq_append_right.mp split)
  refine ⟨stream, alone, made, made', serves, completes_eq serves, ⟨fun all => ?_, gapless⟩,
    ⟨short, fun only => completes_eq (gapless only)⟩⟩
  exact short (completes_eq all)

def plainChunk (sequenceNumber : ℕ) (isFinal : MessageIsFinalType) (body : List UInt8) :
    MessageChunk :=
  .new sequenceNumber 1 .message isFinal (plainChannel 65535) body

theorem served_iff_plain : ∃ stream alone,
    new (plainChannel 65535) [plainChunk 1 .intermediate [], plainChunk 2 .intermediate [1],
      plainChunk 3 .final [2, 3]] 3 = .ok stream ∧
    new (plainChannel 65535) [plainChunk 1 .final [1, 2, 3]] 1 = .ok alone ∧
    (∀ calls, Serves [[], [1], [2, 3]].flatten calls (perform read alone calls)) ∧
    (∀ calls bytes, Completes read alone calls bytes →
      bytes = [[], [1], [2, 3]].flatten) ∧
    ((∀ calls, Serves [[], [1], [2, 3]].flatten calls (perform read stream calls)) ↔
      EmptyOnlyLast [[1], [2, 3]]) ∧
    ((∀ calls bytes, Completes read stream calls bytes →
      bytes = [[], [1], [2, 3]].flatten) ↔ EmptyOnlyLast [[1], [2, 3]]) := by
  have carried : Bodies (plainChannel 65535) 3 0 [plainChunk 1 .intermediate [],
      plainChunk 2 .intermediate [1], plainChunk 3 .final [2, 3]] [[], [1], [2, 3]] :=
    .cons ⟨_, rfl, rfl, rfl⟩ (.cons ⟨_, rfl, rfl, rfl⟩ (.cons ⟨_, rfl, rfl, rfl⟩ (.nil 3)))
  exact served_iff carried ⟨_, rfl, rfl, rfl⟩

theorem empty_body_ends_message :
    ¬ ∀ (C : Crypto) (channel : SecureChannel C) (items : List MessageChunk) (body : List UInt8)
      (bodies : List (List UInt8)), Bodies channel items.length 0 items (body :: bodies) →
        ∀ stream, new channel items items.length = .ok stream → ∀ calls bytes,
          Completes read stream calls bytes → bytes = (body :: bodies).flatten := by
  intro always
  have carried : Bodies (plainChannel 65535) 3 0 [plainChunk 1 .intermediate [1],
      plainChunk 2 .intermediate [], plainChunk 3 .final [2]] [[1], [], [2]] :=
    .cons ⟨_, rfl, rfl, rfl⟩ (.cons ⟨_, rfl, rfl, rfl⟩ (.cons ⟨_, rfl, rfl, rfl⟩ (.nil 3)))
  have same := always unusedCrypto (plainChannel 65535) [_, _, _] _ _ carried _ rfl
    [.read 1] [1]
  exact absurd (same ⟨[[1]], 1, Nat.one_pos, rfl, rfl⟩) (by decide)

end AsyncOpcua.Comms.ReceiveStream
