/-
**Decoders of a byte stream that arrives in segments.**

A decoder looks at the buffer: it asks for more, or takes a message off the front, or fails, and
then takes nothing more. It is incremental if what it finds does not change when the buffer grows.
-/

import Mathlib.Data.List.Basic

namespace AsyncOpcua.Foundation

open List

/-- What a decoder finds in a buffer, and the buffer it leaves. -/
inductive Found (Byte Message Error : Type*) where
  | needMore
  | message (message : Message) (rest : List Byte)
  | failed (error : Error) (rest : List Byte)

variable {Byte Message Error : Type*}

/-- The same find in a buffer that goes on. -/
def Found.append (more : List Byte) : Found Byte Message Error → Found Byte Message Error
  | needMore => .needMore
  | message taken rest => .message taken (rest ++ more)
  | failed error rest => .failed error (rest ++ more)

/-- **An incremental decoder:** what it finds stays found as the buffer grows, every message takes
some of the buffer, and nothing is found in an empty one. -/
structure Incremental (decode : List Byte → Found Byte Message Error) : Prop where
  stable : ∀ buffer more, decode buffer ≠ .needMore →
    decode (buffer ++ more) = (decode buffer).append more
  shrinks : ∀ buffer message rest, decode buffer = .message message rest →
    rest.length < buffer.length
  empty : decode [] = .needMore

/-- How far a stream has been decoded: the messages, the bytes taken, the error that ended it, and
the buffer. -/
structure Progress (Byte Message Error : Type*) where
  messages : List Message
  position : ℕ
  error : Option Error
  buffer : List Byte

namespace Progress

def start : Progress Byte Message Error := ⟨[], 0, none, []⟩

/-- What is compared: everything but the buffer. -/
def outcome (progress : Progress Byte Message Error) : List Message × ℕ × Option Error :=
  (progress.messages, progress.position, progress.error)

def take (progress : Progress Byte Message Error) (message : Message) (rest : List Byte) :
    Progress Byte Message Error where
  messages := progress.messages ++ [message]
  position := progress.position + (progress.buffer.length - rest.length)
  error := progress.error
  buffer := rest

def fail (progress : Progress Byte Message Error) (error : Error) (rest : List Byte) :
    Progress Byte Message Error where
  messages := progress.messages
  position := progress.position + (progress.buffer.length - rest.length)
  error := some error
  buffer := rest

def extend (progress : Progress Byte Message Error) (more : List Byte) :
    Progress Byte Message Error :=
  { progress with buffer := progress.buffer ++ more }

/-- Decode until nothing more is found; `fuel` bounds the messages. -/
def drain (decode : List Byte → Found Byte Message Error) :
    ℕ → Progress Byte Message Error → Progress Byte Message Error
  | 0, progress => progress
  | fuel + 1, progress =>
    match decode progress.buffer with
    | .needMore => progress
    | .message message rest => drain decode fuel (progress.take message rest)
    | .failed error rest => progress.fail error rest

/-- Decode until nothing more is found. -/
def settle (decode : List Byte → Found Byte Message Error)
    (progress : Progress Byte Message Error) : Progress Byte Message Error :=
  drain decode (progress.buffer.length + 1) progress

/-- A segment arrives; after an error nothing is taken any more. -/
def feed (decode : List Byte → Found Byte Message Error) (progress : Progress Byte Message Error)
    (segment : List Byte) : Progress Byte Message Error :=
  match progress.error with
  | some _ => progress
  | none => settle decode (progress.extend segment)

variable {decode : List Byte → Found Byte Message Error}

section

variable (progress : Progress Byte Message Error)

theorem extend_extend (first second : List Byte) :
    (progress.extend first).extend second = progress.extend (first ++ second) := by
  rw [extend, extend, extend, append_assoc]

theorem take_extend (message : Message) (rest more : List Byte) :
    (progress.extend more).take message (rest ++ more) =
    (progress.take message rest).extend more := by
  simp [take, extend, Nat.add_sub_add_right]

theorem fail_extend (error : Error) (rest more : List Byte) :
    (progress.extend more).fail error (rest ++ more) = (progress.fail error rest).extend more := by
  simp [fail, extend, Nat.add_sub_add_right]

end

variable {progress : Progress Byte Message Error}

theorem drain_fuel (incremental : Incremental decode) {fuel more : ℕ}
    (enough : progress.buffer.length < fuel) (within : fuel ≤ more) :
    drain decode more progress = drain decode fuel progress := by
  induction fuel generalizing more progress with
  | zero => exact absurd enough (Nat.not_lt_zero _)
  | succ fuel ih =>
    obtain ⟨extra, rfl⟩ : ∃ extra, more = extra + 1 := ⟨more - 1, by omega⟩
    unfold drain
    cases found : decode progress.buffer with
    | needMore => rfl
    | failed error rest => rfl
    | message message rest =>
      have shorter : rest.length < progress.buffer.length :=
        incremental.shrinks _ message rest found
      exact ih (by show rest.length < fuel; omega) (by omega)

theorem settle_needMore (found : decode progress.buffer = .needMore) :
    settle decode progress = progress := by
  rw [settle, drain, found]

theorem settle_failed {error : Error} {rest : List Byte}
    (found : decode progress.buffer = .failed error rest) :
    settle decode progress = progress.fail error rest := by
  rw [settle, drain, found]

section

variable (incremental : Incremental decode)
include incremental

theorem settle_message {message : Message} {rest : List Byte}
    (found : decode progress.buffer = .message message rest) :
    settle decode progress = settle decode (progress.take message rest) := by
  have shorter := incremental.shrinks progress.buffer message rest found
  rw [settle, drain, found]
  exact drain_fuel incremental (Nat.lt_succ_self rest.length) shorter

theorem settle_settled (progress : Progress Byte Message Error) :
    (settle decode progress).error = progress.error ∧
        decode (settle decode progress).buffer = .needMore ∨
      ∃ error, (settle decode progress).error = some error := by
  induction size : progress.buffer.length using Nat.strongRecOn generalizing progress with
  | ind n ih =>
    cases found : decode progress.buffer with
    | needMore =>
      rw [settle_needMore found]
      exact Or.inl ⟨rfl, found⟩
    | failed error rest =>
      rw [settle_failed found]
      exact Or.inr ⟨error, rfl⟩
    | message message rest =>
      rw [settle_message incremental found]
      exact ih rest.length (size ▸ incremental.shrinks _ message rest found) _ rfl

/-- **Settling a longer buffer** goes on where settling its beginning stops. -/
theorem settle_extend (more : List Byte)
    (progress : Progress Byte Message Error) (running : progress.error = none) :
    settle decode (progress.extend more) =
      match (settle decode progress).error with
      | some _ => (settle decode progress).extend more
      | none => settle decode ((settle decode progress).extend more) := by
  induction size : progress.buffer.length using Nat.strongRecOn generalizing progress with
  | ind n ih =>
    have stable := incremental.stable progress.buffer more
    cases found : decode progress.buffer with
    | needMore =>
      rw [settle_needMore found, running]
    | failed error rest =>
      have longer : decode (progress.extend more).buffer = .failed error (rest ++ more) := by
        rw [found] at stable
        exact stable nofun
      rw [settle_failed found, settle_failed longer]
      exact progress.fail_extend error rest more
    | message message rest =>
      have longer : decode (progress.extend more).buffer = .message message (rest ++ more) := by
        rw [found] at stable
        exact stable nofun
      rw [settle_message incremental found, settle_message incremental longer, take_extend]
      exact ih rest.length (size ▸ incremental.shrinks _ message rest found) _ running rfl

end

theorem foldl_feed_of_failed {error : Error} (failed : progress.error = some error)
    (segments : List (List Byte)) : segments.foldl (feed decode) progress = progress := by
  induction segments with
  | nil => rfl
  | cons segment rest ih =>
    have same : feed decode progress segment = progress := by
      rw [feed, failed]
    rw [foldl_cons, same, ih]

theorem feed_flatten (incremental : Incremental decode) (segments : List (List Byte))
    (running : progress.error = none) (asks : decode progress.buffer = .needMore) :
    (segments.foldl (feed decode) progress).outcome =
      (feed decode progress segments.flatten).outcome := by
  induction segments generalizing progress with
  | nil =>
    have unextended : progress.extend [] = progress := by
      rw [extend, append_nil]
    rw [foldl_nil, flatten_nil, feed, running]
    rw [unextended, settle_needMore asks]
  | cons segment rest ih =>
    have one : feed decode progress segment = settle decode (progress.extend segment) := by
      rw [feed, running]
    have all : feed decode progress (segment ++ rest.flatten) =
        settle decode ((progress.extend segment).extend rest.flatten) := by
      rw [feed, running, extend_extend]
    have goesOn := settle_extend incremental rest.flatten (progress.extend segment) running
    rw [foldl_cons, flatten_cons, one, all, goesOn]
    obtain ⟨noError, asksAgain⟩ | ⟨error, failed⟩ :=
      settle_settled incremental (progress.extend segment)
    · have runningStill : (settle decode (progress.extend segment)).error = none :=
        noError.trans running
      rw [ih runningStill asksAgain, feed, runningStill]
    · rw [foldl_feed_of_failed failed, failed]
      rfl

theorem feedAll_outcome (incremental : Incremental decode) (segments : List (List Byte)) :
    (segments.foldl (feed decode) start).outcome = (feed decode start segments.flatten).outcome :=
  feed_flatten incremental segments rfl incremental.empty

end Progress

end AsyncOpcua.Foundation
