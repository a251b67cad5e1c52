/-
**The client's transport: requests that wait for a response, and the chunks that come for them.**

What removes the security of a chunk, decodes a response and takes over new keys is a parameter.
Request callbacks are numbered in the order in which the requests are submitted; what a callback is
sent is kept.

* `mergeChunks` — the chunks of a response, sorted by their sequence numbers, without duplicates;
* `nextTimeout`, `messageSendFailed`, `close` — other ways in which a request ends;
* `applyTransportOp`, `transportMachine` — the polls of the transport, up to its end.
-/

import AsyncOpcua.Comms.Chunker
import AsyncOpcua.Foundation.KeyedMap
import Mathlib.Data.List.Sort

namespace AsyncOpcua.Client

open Comms Foundation Types

/-! ### Merging -/

structure MessageChunkWithChunkInfo where
  header : ChunkInfo
  dataWithHeader : List UInt8

namespace MessageChunkWithChunkInfo

def sequenceNumber (c : MessageChunkWithChunkInfo) : ℕ := c.header.sequenceHeader.sequenceNumber

def toChunk (c : MessageChunkWithChunkInfo) : MessageChunk := ⟨c.dataWithHeader⟩

end MessageChunkWithChunkInfo

/-- The chunks with the numbers from `expectSequenceNumber` on. Others may be duplicates. -/
def mergeFrom (expectSequenceNumber : ℕ) : List MessageChunkWithChunkInfo → List MessageChunk
  | [] => []
  | c :: chunks =>
    if c.sequenceNumber ≠ expectSequenceNumber then mergeFrom expectSequenceNumber chunks
    else c.toChunk :: mergeFrom ((expectSequenceNumber + 1) % u32Size) chunks

def mergeChunks (chunks : List MessageChunkWithChunkInfo) : Except Error (List MessageChunk) :=
  match chunks with
  | [chunk] => .ok [chunk.toChunk]
  | chunks =>
    match chunks.insertionSort fun a b => a.sequenceNumber ≤ b.sequenceNumber with
    | [] => .error (.decoding "Message contained no chunks")
    | first :: sorted => .ok (mergeFrom first.sequenceNumber (first :: sorted))

/-! ### The state -/

structure TransportCodec (C : Crypto) where
  ResponseMessage : Type
  verifyAndRemoveSecurity : SecureChannel C → List UInt8 → Except Error MessageChunk
  /-- `Chunker::decode`. -/
  decode : SecureChannel C → List MessageChunk → Except Error ResponseMessage
  /-- The service result, if this is a response to an OpenSecureChannel request. -/
  openSecureChannelResult : ResponseMessage → Option StatusCode
  /-- Take over the security token and derive the keys. -/
  endIssueOrRenewSecureChannel : SecureChannel C → ResponseMessage →
    Except Error Unit × SecureChannel C

/-- A request that waits for its response. -/
structure MessageState where
  callback : ℕ
  chunks : List MessageChunkWithChunkInfo
  deadline : ℕ

structure OutgoingMessage where
  callback : Option ℕ
  deadline : ℕ

inductive TransportCloseState
  | opened
  | closing (status : StatusCode)
  | closed (status : StatusCode)

variable {C : Crypto}

structure TransportState (codec : TransportCodec C) where
  /-- Requests that wait to be taken. -/
  outgoing : List OutgoingMessage
  messageStates : KeyedMap ℕ MessageState
  secureChannel : SecureChannel C
  maxChunkCount : ℕ
  maxMessageSize : ℕ
  sequenceNumbers : SequenceNumberHandle
  lastRequestId : ℕ
  closeState : TransportCloseState
  /-- How many callbacks have been submitted. -/
  submitted : ℕ
  /-- What each callback has been sent. -/
  sent : ℕ → List (Except Error codec.ResponseMessage)
  /-- The chunk lists that were to be decoded. -/
  merged : List (List MessageChunk)

variable {codec : TransportCodec C}

namespace TransportState

def initialRequestId : ℕ := 1000

/-- A transport whose counter is at some position. -/
def new (secureChannel : SecureChannel C) (sequenceNumbers : SequenceNumberHandle)
    (maxChunkCount maxMessageSize : ℕ) : TransportState codec where
  outgoing := []
  messageStates := ∅
  secureChannel := secureChannel
  maxChunkCount := maxChunkCount
  maxMessageSize := maxMessageSize
  sequenceNumbers := sequenceNumbers
  lastRequestId := initialRequestId
  closeState := .opened
  submitted := 0
  sent := fun _ => []
  merged := []

variable (s : TransportState codec)

def effectiveMaxChunkCount : ℕ :=
  if 0 < s.maxChunkCount then s.maxChunkCount else max (s.maxMessageSize / MIN_CHUNK_SIZE) 1

def send (callback : ℕ) (result : Except Error codec.ResponseMessage) : TransportState codec :=
  { s with sent := Function.update s.sent callback (s.sent callback ++ [result]) }

/-- Answer the requests of a list, one after the other. -/
def sendAll (results : List (ℕ × Except Error codec.ResponseMessage)) : TransportState codec :=
  results.foldl (fun s result => s.send result.1 result.2) s

def withRequestId (error : Error) (requestId : ℕ) : Error :=
  { error with requestId := some requestId }

/-! ### Ends of requests -/

def messageSendFailed (requestId : ℕ) (error : Error) : TransportState codec :=
  match s.messageStates.lookup requestId with
  | none => s
  | some state =>
    { s with messageStates := s.messageStates.erase requestId }.send state.callback (.error error)

def timeoutError (requestId : ℕ) : Error :=
  withRequestId (.new StatusCode.BadTimeout "Message timed out") requestId

/-- The requests with a deadline that has passed. -/
def timedOut (now : ℕ) : List (Σ _ : ℕ, MessageState) :=
  s.messageStates.entries.filter fun entry => entry.2.deadline ≤ now

/-- The requests with a deadline that has passed are removed and answered. -/
def nextTimeout (now : ℕ) : TransportState codec :=
  let timedOut := s.timedOut now
  let answers := timedOut.map fun entry => (entry.2.callback, .error (timeoutError entry.1))
  let messageStates := timedOut.foldl (fun states entry => states.erase entry.1) s.messageStates
  { s with messageStates := messageStates }.sendAll answers

/-- What pending requests end with. -/
def closingError (status : StatusCode) : Error :=
  .new (if status.isGood then StatusCode.BadConnectionClosed else status) "Transport is closing"

/-- Pending requests are answered, and then those that were not taken. -/
def close (status : StatusCode) : TransportState codec :=
  let pending := s.messageStates.values.map MessageState.callback
  let queued := s.outgoing.filterMap OutgoingMessage.callback
  { s with messageStates := ∅, outgoing := [] }.sendAll
    ((pending ++ queued).map fun callback => (callback, .error (closingError status)))

/-! ### Chunks -/

def decodeFinalError (options : DecodingOptions) : Reader (StatusCode × UAString) := do
  let status ← readU32
  let reason ← UAString.decode options
  return (BitVec.ofNat 32 status, reason)

/-- `final_error_body`. Offsets do not overflow a `usize`: a chunk is in memory. -/
def finalErrorBody (chunk : MessageChunk) (chunkInfo : ChunkInfo) (options : DecodingOptions) :
    Except Error (StatusCode × UAString) :=
  if chunkInfo.bodyOffset + chunkInfo.bodyLength ≤ chunk.data.length then
    (decodeFinalError options
      ((chunk.data.drop chunkInfo.bodyOffset).take chunkInfo.bodyLength)).map
      Prod.fst
  else .error (.new StatusCode.BadCommunicationError "Invalid error body length")

def finalError (secureChannel : SecureChannel C) (chunk : MessageChunk) (chunkInfo : ChunkInfo) :
    Error :=
  let (status, reason) :=
    match finalErrorBody chunk chunkInfo secureChannel.decodingOptions with
    | .ok body => body
    | .error _ => (StatusCode.BadCommunicationError, none)
  withRequestId (.new status ("Message marked final error: " ++ reason.getD "[null]"))
    chunkInfo.sequenceHeader.requestId

def oversizedError (requestId : ℕ) : Error :=
  withRequestId (.new StatusCode.BadEncodingLimitsExceeded "Message exceeded max chunk count")
    requestId

def turnReceivedChunksIntoMessage (codec : TransportCodec C) (secureChannel : SecureChannel C)
    (chunks : List MessageChunk) : Except Error codec.ResponseMessage := do
  Chunker.validateChunks secureChannel chunks
  codec.decode secureChannel chunks

def handleResponse (codec : TransportCodec C) (secureChannel : SecureChannel C)
    (chunks : List MessageChunk) : Except Error codec.ResponseMessage × SecureChannel C :=
  match turnReceivedChunksIntoMessage codec secureChannel chunks with
  | .error error => (.error error, secureChannel)
  | .ok message =>
    match codec.openSecureChannelResult message with
    | none => (.ok message, secureChannel)
    | some serviceResult =>
      if serviceResult.isGood then
        let (ended, renewed) := codec.endIssueOrRenewSecureChannel secureChannel message
        (ended.map fun _ => message, renewed)
      else
        (.error (.new serviceResult "OpenSecureChannel received service fault from server"),
          secureChannel)

def complete (state : MessageState) : Except Error Unit × TransportState codec :=
  match mergeChunks state.chunks with
  | .error error => (.error error, s)
  | .ok inChunks =>
    let (handled, secureChannel) := handleResponse codec s.secureChannel inChunks
    let given := { s with secureChannel := secureChannel, merged := s.merged ++ [inChunks] }
    match handled with
    | .error error => (.error error, given)
    | .ok message => (.ok (), given.send state.callback (.ok message))

def receive (chunk : MessageChunk) (chunkInfo : ChunkInfo) :
    Except Error Unit × TransportState codec :=
  let requestId := chunkInfo.sequenceHeader.requestId
  match s.messageStates.lookup requestId with
  | none => (.ok (), s)
  | some state =>
    let removed := { s with messageStates := s.messageStates.erase requestId }
    let grown := { state with chunks := state.chunks ++ [⟨chunkInfo, chunk.data⟩] }
    match chunkInfo.messageHeader.isFinal with
    | .intermediate =>
      if s.effectiveMaxChunkCount ≤ state.chunks.length then
        (.ok (), removed.send state.callback (.error (oversizedError requestId)))
      else (.ok (), { s with messageStates := s.messageStates.insert requestId grown })
    | .finalError =>
      (.ok (), removed.send state.callback (.error (finalError s.secureChannel chunk chunkInfo)))
    | .final =>
      if s.effectiveMaxChunkCount ≤ state.chunks.length then
        (.ok (), removed.send state.callback (.error (oversizedError requestId)))
      else removed.complete grown

def openChunk (data : List UInt8) :
    Except Error (MessageChunk × ChunkInfo) := do
  let chunk ← codec.verifyAndRemoveSecurity s.secureChannel data
  let chunkInfo ← chunk.chunkInfo s.secureChannel
  return (chunk, chunkInfo)

def processChunk (data : List UInt8) : Except Error Unit × TransportState codec :=
  match s.openChunk data with
  | .error error => (.error error, s)
  | .ok (chunk, chunkInfo) =>
    match s.sequenceNumbers.validateAndIncrement chunkInfo.sequenceHeader.sequenceNumber with
    | (.error error, handle) => (.error error, { s with sequenceNumbers := handle })
    | (.ok (), handle) => { s with sequenceNumbers := handle }.receive chunk chunkInfo

/-! ### Runs -/

def takeOutgoing : Option (TransportState codec) :=
  match s.outgoing with
  | [] => none
  | message :: outgoing =>
    let requestId := (s.lastRequestId + 1) % u32Size
    let taken := { s with outgoing := outgoing, lastRequestId := requestId }
    match message.callback with
    | none => some taken
    | some callback =>
      some { taken with
        messageStates := taken.messageStates.insert requestId ⟨callback, [], message.deadline⟩ }

end TransportState

inductive TransportOp
  /-- A task submits a request, with a callback or without. -/
  | submit (answered : Bool) (deadline : ℕ)
  | nextTimeout (now : ℕ)
  | takeOutgoing
  | sendFailed (requestId : ℕ) (error : Error)
  | incoming (data : List UInt8)
  /-- The transport ends for another reason. -/
  | finish (status : StatusCode)
  | close

namespace TransportState

/-- **One step of the transport,** as far as it is polled, or a request that is submitted. -/
def applyTransportOp (s : TransportState codec) (op : TransportOp) :
    Option (TransportState codec) :=
  match s.closeState, op with
  | .closed _, .submit _ _ => none
  | _, .submit true deadline =>
    some { s with
      outgoing := s.outgoing ++ [⟨some s.submitted, deadline⟩], submitted := s.submitted + 1 }
  | _, .submit false deadline => some { s with outgoing := s.outgoing ++ [⟨none, deadline⟩] }
  | .opened, .nextTimeout now => some (s.nextTimeout now)
  | .opened, .takeOutgoing => s.takeOutgoing
  | .opened, .sendFailed requestId error => some (s.messageSendFailed requestId error)
  | .opened, .incoming data =>
    match s.processChunk data with
    | (.ok (), processed) => some processed
    | (.error error, processed) => some { processed with closeState := .closing error.status }
  | .opened, .finish status => some { s with closeState := .closing status }
  | .closing status, .close => some { s.close status with closeState := .closed status }
  | _, _ => none

def transportMachine (codec : TransportCodec C) : Machine (TransportState codec) TransportOp where
  step := applyTransportOp

end TransportState

end AsyncOpcua.Client
