/-
**The codec of TCP frames.**

`decode` waits for the eight bytes of a header, checks the size they declare, waits for as many
bytes, and decodes one message out of exactly these.

* `find_incremental` — what a call finds does not change when more bytes arrive;
* `framing_independent_of_segments` — the messages, the position and the error do not depend on how
  the stream arrives, and a call that returns no message leaves the buffer as it is.
-/

import AsyncOpcua.Comms.MessageChunk
import AsyncOpcua.Foundation.Incremental

namespace AsyncOpcua.Comms

open Types Foundation List Or

/-- A message of an OPC UA stream. -/
inductive Message where
  | hello (message : HelloMessage)
  | acknowledge (message : AcknowledgeMessage)
  | error (message : ErrorMessage)
  | chunk (chunk : MessageChunk)
  | reverseHello (message : ReverseHelloMessage)

inductive IoError where
  | status (code : StatusCode)
  | other (error : Error)

namespace TcpCodec

def MAX_MESSAGE_SIZE : ℕ := 327675

def validateDeclaredMessageSize (messageSize : ℕ) (options : DecodingOptions) :
    Except IoError Unit :=
  -- A limit of zero is no limit for a message, but a frame has to be bounded.
  let maxMessageSize :=
    if options.maxMessageSize = 0 then MAX_MESSAGE_SIZE else options.maxMessageSize
  if messageSize < MESSAGE_HEADER_LEN then
    .error (.other (.new StatusCode.BadTcpMessageTooLarge
      s!"Message size {messageSize} is smaller than TCP header size {MESSAGE_HEADER_LEN}"))
  else if maxMessageSize < messageSize then
    .error (.other (.new StatusCode.BadTcpMessageTooLarge
      s!"Message size {messageSize} exceeds maximum message size {maxMessageSize}"))
  else .ok ()

def reading {α : Type} (reader : Reader α) (make : α → Message) (bytes : List UInt8) :
    Except StatusCode Message :=
  match reader bytes with
  | .ok (value, _) => .ok (make value)
  | .error error => .error error.status

def decodeMessage (header : MessageHeader) (bytes : List UInt8) (options : DecodingOptions) :
    Except StatusCode Message :=
  match header.messageType with
  | .acknowledge => reading (AcknowledgeMessage.decode options) .acknowledge bytes
  | .hello => reading (HelloMessage.decode options) .hello bytes
  | .error => reading (ErrorMessage.decode options) .error bytes
  | .chunk => reading (MessageChunk.decodeZeroCopy options) .chunk bytes
  | .reverseHello => reading (ReverseHelloMessage.decode options) .reverseHello bytes
  | .invalid => .error StatusCode.BadCommunicationError

variable (options : DecodingOptions)

def decodeHeader (header : List UInt8) : Except IoError MessageHeader :=
  match MessageHeader.decode options header with
  | .error error => .error (.status error.status)
  | .ok (messageHeader, _) =>
    (validateDeclaredMessageSize messageHeader.messageSize options).map fun _ => messageHeader

/-- **One call:** the result, and the buffer it leaves. -/
def decode (buf : List UInt8) : Except IoError (Option Message) × List UInt8 :=
  if MESSAGE_HEADER_LEN ≤ buf.length then
    match decodeHeader options (buf.take MESSAGE_HEADER_LEN) with
    | .error error => (.error error, buf)
    | .ok messageHeader =>
      if messageHeader.messageSize ≤ buf.length then
        let rest := buf.drop messageHeader.messageSize
        match decodeMessage messageHeader (buf.take messageHeader.messageSize) options with
        | .ok message => (.ok (some message), rest)
        | .error status => (.error (.status status), rest)
      else (.ok none, buf)
  else (.ok none, buf)

/-- A call, as what it finds in the buffer. -/
def find (buf : List UInt8) : Found UInt8 Message IoError :=
  match decode options buf with
  | (.ok none, _) => .needMore
  | (.ok (some message), rest) => .message message rest
  | (.error error, rest) => .failed error rest

theorem decodeHeader_size {options : DecodingOptions} {header : List UInt8}
    {messageHeader : MessageHeader} (decoded : decodeHeader options header = .ok messageHeader) :
    MESSAGE_HEADER_LEN ≤ messageHeader.messageSize := by
  unfold decodeHeader at decoded
  split at decoded
  · cases decoded
  · rename_i read rest there
    cases checked : validateDeclaredMessageSize read.messageSize options with
    | error error =>
      rw [checked] at decoded
      cases decoded
    | ok _ =>
      rw [checked] at decoded
      cases decoded
      by_contra small
      rw [validateDeclaredMessageSize, if_pos (Nat.lt_of_not_le small)] at checked
      cases checked

theorem find_spec (buf : List UInt8) :
    find options buf = .needMore ∨
      MESSAGE_HEADER_LEN ≤ buf.length ∧
        ((∃ error, decodeHeader options (buf.take MESSAGE_HEADER_LEN) = .error error ∧
            find options buf = .failed error buf) ∨
          ∃ header, decodeHeader options (buf.take MESSAGE_HEADER_LEN) = .ok header ∧
            header.messageSize ≤ buf.length ∧
            find options buf =
              match decodeMessage header (buf.take header.messageSize) options with
              | .ok message => .message message (buf.drop header.messageSize)
              | .error status => .failed (.status status) (buf.drop header.messageSize)) := by
  unfold find decode
  by_cases enough : MESSAGE_HEADER_LEN ≤ buf.length
  · rw [if_pos enough]
    cases header : decodeHeader options (buf.take MESSAGE_HEADER_LEN) with
    | error error => exact inr ⟨enough, inl ⟨error, rfl, rfl⟩⟩
    | ok messageHeader =>
      by_cases whole : messageHeader.messageSize ≤ buf.length
      · refine inr ⟨enough, inr ⟨messageHeader, rfl, whole, ?_⟩⟩
        simp only [if_pos whole]
        cases decodeMessage messageHeader (buf.take messageHeader.messageSize) options <;> rfl
      · refine inl ?_
        simp [if_neg whole]
  · rw [if_neg enough]
    exact inl rfl

theorem find_incremental : Incremental (find options) where
  stable buffer more found := by
    obtain asks | ⟨enough, ⟨error, header, failed⟩ | ⟨header, decoded, whole, outcome⟩⟩ :=
      find_spec options buffer
    · exact absurd asks found
    · have longer : (buffer ++ more).take MESSAGE_HEADER_LEN = buffer.take MESSAGE_HEADER_LEN :=
        take_append_of_le_length enough
      have enoughStill : MESSAGE_HEADER_LEN ≤ (buffer ++ more).length := by
        rw [length_append]
        omega
      rw [failed, find, decode, if_pos enoughStill, longer, header]
      rfl
    · have longer : (buffer ++ more).take MESSAGE_HEADER_LEN = buffer.take MESSAGE_HEADER_LEN :=
        take_append_of_le_length enough
      have enoughStill : MESSAGE_HEADER_LEN ≤ (buffer ++ more).length := by
        rw [length_append]
        omega
      have wholeStill : header.messageSize ≤ (buffer ++ more).length := by
        rw [length_append]
        omega
      rw [outcome, find, decode, if_pos enoughStill, longer, decoded]
      simp only [if_pos wholeStill, take_append_of_le_length whole,
        drop_append_of_le_length whole]
      cases decodeMessage header (buffer.take header.messageSize) options <;> rfl
  shrinks buffer message rest found := by
    obtain asks | ⟨enough, ⟨error, -, failed⟩ | ⟨header, decoded, whole, outcome⟩⟩ :=
      find_spec options buffer
    · rw [asks] at found
      cases found
    · rw [failed] at found
      cases found
    · have size := decodeHeader_size decoded
      have positive : 0 < MESSAGE_HEADER_LEN := by decide
      rw [outcome] at found
      split at found <;> cases found
      rw [length_drop]
      omega
  empty := rfl

/-- **Framing does not depend on segmentation.** -/
theorem framing_independent_of_segments (options : DecodingOptions) :
    (∀ segments : List (List UInt8),
      (segments.foldl (Progress.feed (find options)) Progress.start).outcome =
        (Progress.feed (find options) Progress.start segments.flatten).outcome) ∧
      ∀ buf : List UInt8, (decode options buf).1 = .ok none → (decode options buf).2 = buf := by
  refine ⟨fun segments => Progress.feedAll_outcome (find_incremental options) segments, ?_⟩
  intro buf nothing
  unfold decode at nothing ⊢
  split_ifs at nothing ⊢ with enough
  · revert nothing
    cases decodeHeader options (buf.take MESSAGE_HEADER_LEN) with
    | error error => exact fun _ => rfl
    | ok header =>
      dsimp only
      split_ifs with whole
      · cases decodeMessage header (buf.take header.messageSize) options with
        | ok message => exact fun none => by cases none
        | error status => exact fun none => by cases none
      · exact fun _ => rfl
  · rfl

end TcpCodec

end AsyncOpcua.Comms
