/-
**Padding and room for the signature of a chunk, and the check of padding.**
-/

import AsyncOpcua.Foundation.Cuts
import AsyncOpcua.Comms.SecureChannel

namespace AsyncOpcua.Comms

open Types Foundation List

variable {C : Crypto}

/-! ### The sender's part -/

def updateMessageSize (data : List UInt8) (messageSize : ℕ) : Except Error (List UInt8) :=
  if data.length < MESSAGE_SIZE_OFFSET + 4 then
    .error (.encoding "failed to write whole buffer")
  else
    .ok (data.take MESSAGE_SIZE_OFFSET ++ writeU32 messageSize ++
      data.drop (MESSAGE_SIZE_OFFSET + 4))

/-- The bytes of padding: each is the number of the others, the last of two length bytes the rest of
that number. -/
def paddingBytes (paddingSize minimumPadding : ℕ) : List UInt8 :=
  if 0 < paddingSize then
    if minimumPadding = 1 then replicate paddingSize (.ofNat (paddingSize - 1))
    else if minimumPadding = 2 then
      replicate (paddingSize - 1) (.ofNat (paddingSize - 2)) ++
        [.ofNat ((paddingSize - 2) / 256)]
    else []
  else []

namespace SecureChannel

def paddingSize (channel : SecureChannel C) (securityHeader : SecurityHeader)
    (bodySize signatureSize : ℕ) (messageType : MessageChunkType) : Except Error (ℕ × ℕ) := do
  let padding ← channel.getPaddingBlockSizes securityHeader messageType
  if padding.blockSize = 0 then return (0, 0)
  else
    let encryptSize := 8 + bodySize + signatureSize + padding.minimumPadding
    let size :=
      if encryptSize % padding.blockSize ≠ 0 then
        padding.blockSize - encryptSize % padding.blockSize
      else 0
    return (padding.minimumPadding + size, padding.minimumPadding)

def addSpaceForPaddingAndSignatureInto (channel : SecureChannel C) (messageChunk : MessageChunk) :
    Except Error (List UInt8) := do
  let chunkInfo ← messageChunk.chunkInfo channel
  let signatureSize := channel.signatureSize chunkInfo.securityHeader
  let (paddingSize, minimumPadding) ← channel.paddingSize chunkInfo.securityHeader
    chunkInfo.bodyLength signatureSize chunkInfo.messageHeader.messageType
  let messageSize := messageChunk.data.length + paddingSize + signatureSize
  updateMessageSize (messageChunk.data ++ paddingBytes paddingSize minimumPadding ++
    replicate signatureSize 0) messageSize

end SecureChannel

/-! ### The receiver's part -/

def securityByte (buf : List UInt8) (index : ℕ) : Except Error UInt8 :=
  match buf[index]? with
  | some byte => .ok byte
  | none => .error (.new StatusCode.BadSecurityChecksFailed "invalid byte index")

/-- The bytes of a range, where it is inside of the buffer. -/
def slice (buf : List UInt8) (first last : ℕ) : Option (List UInt8) :=
  if first ≤ last ∧ last ≤ buf.length then some (part buf first last) else none

def checkPaddingBytes (expectedPaddingByte : UInt8) : List UInt8 → ℕ → Except Error Unit
  | [], _ => .ok ()
  | byte :: bytes, index =>
    if byte ≠ expectedPaddingByte then
      .error (.new StatusCode.BadSecurityChecksFailed
        s!"Expected padding byte {expectedPaddingByte}, got {byte} at index {index}")
    else checkPaddingBytes expectedPaddingByte bytes (index + 1)

/-- **The range of the padding that ends at some place,** if it is right. -/
def verifyPadding (src : List UInt8) (keySize paddingEnd : ℕ) : Except Error (ℕ × ℕ) :=
  if 256 < keySize then
    if paddingEnd < 2 then .error (.new StatusCode.BadSecurityChecksFailed "invalid padding")
    else do
      let paddingByte ← securityByte src (paddingEnd - 2)
      let extraPaddingByte ← securityByte src (paddingEnd - 1)
      let paddingSize := extraPaddingByte.toNat * 256 + paddingByte.toNat
      if paddingEnd < paddingSize + 2 then
        .error (.new StatusCode.BadSecurityChecksFailed "padding size exceeds chunk")
      else
        let start := paddingEnd - (paddingSize + 2)
        match slice src start (paddingEnd - 1) with
        | none => .error (.new StatusCode.BadSecurityChecksFailed "invalid padding range")
        | some bytes =>
          checkPaddingBytes paddingByte bytes start
          let last ← securityByte src (paddingEnd - 1)
          if last ≠ extraPaddingByte then
            .error (.new StatusCode.BadSecurityChecksFailed
              s!"Expected extra padding byte {extraPaddingByte}, at index {start}")
          else return (start, paddingEnd)
  else
    if paddingEnd = 0 then .error (.new StatusCode.BadSecurityChecksFailed "invalid padding")
    else do
      let paddingByte ← securityByte src (paddingEnd - 1)
      let paddingSize := paddingByte.toNat
      if paddingEnd < paddingSize + 1 then
        .error (.new StatusCode.BadSecurityChecksFailed "padding size exceeds chunk")
      else
        let start := paddingEnd - (paddingSize + 1)
        match slice src start paddingEnd with
        | none => .error (.new StatusCode.BadSecurityChecksFailed "invalid padding range")
        | some bytes =>
          checkPaddingBytes paddingByte bytes start
          return (start, paddingEnd)

/-! ### What the parts do to each other's data -/

theorem updateMessageSize_encode (header : MessageChunkHeader) (rest : List UInt8)
    (messageSize : ℕ) : updateMessageSize (header.encode ++ rest) messageSize =
      .ok ({ header with messageSize := messageSize }.encode ++ rest) := by
  obtain ⟨messageType, isFinal, size, id⟩ := header
  have long : ¬ ((⟨messageType, isFinal, size, id⟩ : MessageChunkHeader).encode ++ rest).length <
      MESSAGE_SIZE_OFFSET + 4 := by
    rw [length_append, MessageChunkHeader.length_encode]
    show ¬ 12 + rest.length < 8
    omega
  cases messageType <;> rfl

theorem checkPaddingBytes_replicate (byte : UInt8) (count index : ℕ) :
    checkPaddingBytes byte (replicate count byte) index = .ok () := by
  induction count generalizing index with
  | zero => rfl
  | succ count ih =>
    rw [replicate_succ, checkPaddingBytes, if_neg (not_not_intro rfl)]
    exact ih (index + 1)

theorem slice_append (front middle back : List UInt8) :
    slice (front ++ middle ++ back) front.length (front.length + middle.length) =
      some middle := by
  have inside : front.length ≤ front.length + middle.length ∧
      front.length + middle.length ≤ (front ++ middle ++ back).length := by
    rw [length_append, length_append]
    omega
  rw [slice, if_pos inside, part, Nat.add_sub_cancel_left, append_assoc, drop_left,
    take_left]

variable {paddingSize : ℕ}

theorem paddingBytes_one (some : 0 < paddingSize) :
    paddingBytes paddingSize 1 = replicate paddingSize (.ofNat (paddingSize - 1)) := by
  rw [paddingBytes, if_pos some, if_pos rfl]

theorem length_paddingBytes_one (some : 0 < paddingSize) :
    (paddingBytes paddingSize 1).length = paddingSize := by
  rw [paddingBytes_one some, length_replicate]

/-- **Padding of one length byte passes its check,** and its range is found. -/
theorem verifyPadding_paddingBytes (front back : List UInt8) {keySize : ℕ} (small : keySize ≤ 256)
    (some : 0 < paddingSize) (most : paddingSize ≤ 256) :
    verifyPadding (front ++ paddingBytes paddingSize 1 ++ back) keySize
      (front.length + paddingSize) = .ok (front.length, front.length + paddingSize) := by
  have bytes := paddingBytes_one some
  have length := length_paddingBytes_one some
  have last : securityByte (front ++ paddingBytes paddingSize 1 ++ back)
      (front.length + paddingSize - 1) = .ok (.ofNat (paddingSize - 1)) := by
    have inside : front.length + paddingSize - 1 - front.length < paddingSize := by omega
    rw [securityByte, append_assoc, getElem?_append_right (by omega),
      getElem?_append_left (by omega), bytes, getElem?_replicate, if_pos inside]
  have size : (UInt8.ofNat (paddingSize - 1)).toNat = paddingSize - 1 := by
    rw [UInt8.toNat_ofNat']
    omega
  have place : front.length + paddingSize - (paddingSize - 1 + 1) = front.length := by omega
  have range := slice_append front (paddingBytes paddingSize 1) back
  rw [length] at range
  have passes := checkPaddingBytes_replicate (.ofNat (paddingSize - 1)) paddingSize front.length
  rw [← bytes] at passes
  rw [verifyPadding, if_neg (by omega), if_neg (by omega), last]
  show (if _ then _ else _) = _
  rw [size, if_neg (by omega), place, range]
  show (checkPaddingBytes _ _ _ >>= fun _ => _) = _
  rw [passes]
  rfl

end AsyncOpcua.Comms
