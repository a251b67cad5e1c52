/-
**Padding with one and with two length bytes.**

Keys of at most 256 bytes go with one length byte, longer keys with two.

* `padding_round_trip` — what a sender pads, a receiver with a key of the same size finds, and what
  a receiver accepts ends where it should, inside of the buffer.
-/

import AsyncOpcua.Comms.Framing
import AsyncOpcua.Foundation.Transition

namespace AsyncOpcua.Comms

open Types Foundation Option
open Foundation.Machine (bind_eq_ok)

variable {C : Crypto}

/-! ### How much padding there is -/

def paddingFor (padding : PaddingInfo) (bodySize signatureSize : ℕ) : ℕ × ℕ :=
  if padding.blockSize = 0 then (0, 0)
  else
    let encryptSize := 8 + bodySize + signatureSize + padding.minimumPadding
    let size :=
      if encryptSize % padding.blockSize ≠ 0 then
        padding.blockSize - encryptSize % padding.blockSize
      else 0
    (padding.minimumPadding + size, padding.minimumPadding)

theorem SecureChannel.paddingSize_eq (channel : SecureChannel C) (securityHeader : SecurityHeader)
    (bodySize signatureSize : ℕ) (messageType : MessageChunkType) :
    channel.paddingSize securityHeader bodySize signatureSize messageType =
      (channel.getPaddingBlockSizes securityHeader messageType).map
        (paddingFor · bodySize signatureSize) := by
  unfold SecureChannel.paddingSize
  cases channel.getPaddingBlockSizes securityHeader messageType with
  | error error => rfl
  | ok padding =>
    show (if _ then _ else _) = Except.ok (paddingFor padding bodySize signatureSize)
    by_cases none : padding.blockSize = 0
    · rw [if_pos none, paddingFor, if_pos none]
      rfl
    · rw [if_neg none, paddingFor, if_neg none]
      rfl

/-- The one length byte of small keys, and the two of others, count all padding of a block. -/
def PaddingFormat (blockSize keySize minimumPadding : ℕ) : Prop :=
  keySize ≤ 256 ∧ blockSize ≤ 256 ∧ minimumPadding = 1 ∨
    256 < keySize ∧ blockSize ≤ 65536 ∧ minimumPadding = 2

theorem paddingFor_fills {blockSize : ℕ} (some : 0 < blockSize) (minimumPadding bodySize
    signatureSize : ℕ) : ∃ size, paddingFor ⟨blockSize, minimumPadding⟩ bodySize signatureSize =
        (size, minimumPadding) ∧ minimumPadding ≤ size ∧ size < minimumPadding + blockSize ∧
      blockSize ∣ 8 + bodySize + size + signatureSize := by
  refine ⟨_, if_neg some.ne', Nat.le_add_right _ _, ?_, ?_⟩
  · dsimp only
    split_ifs <;> omega
  · dsimp only
    have rest := Nat.mod_lt (8 + bodySize + signatureSize + minimumPadding) some
    have whole := Nat.div_add_mod (8 + bodySize + signatureSize + minimumPadding) blockSize
    generalize (8 + bodySize + signatureSize + minimumPadding) / blockSize = blocks at whole
    split_ifs with partly
    · refine ⟨blocks + 1, ?_⟩
      rw [Nat.mul_succ]
      omega
    · refine ⟨blocks, ?_⟩
      omega

variable {size minimumPadding : ℕ}

theorem length_paddingBytes (some : minimumPadding ≤ size)
    (format : minimumPadding = 1 ∨ minimumPadding = 2) :
    (paddingBytes size minimumPadding).length = size := by
  rcases format with rfl | rfl
  · exact length_paddingBytes_one some
  · rw [paddingBytes, if_pos (by omega), if_neg (by decide), if_pos rfl]
    simp
    omega

/-! ### The check -/

theorem securityByte_append (front back : List UInt8) (byte : UInt8) {index : ℕ}
    (place : index = front.length) : securityByte (front ++ byte :: back) index = .ok byte := by
  rw [securityByte, place, List.getElem?_append_right (le_refl _), Nat.sub_self]
  rfl

open List

theorem verifyPadding_twoBytes (front back : List UInt8) {keySize paddingSize : ℕ}
    (large : 256 < keySize) (some : 2 ≤ paddingSize) (most : paddingSize < 65538) :
    verifyPadding (front ++ paddingBytes paddingSize 2 ++ back) keySize
      (front.length + paddingSize) = .ok (front.length, front.length + paddingSize) := by
  have bytes : paddingBytes paddingSize 2 = replicate (paddingSize - 1)
      (.ofNat (paddingSize - 2)) ++ [.ofNat ((paddingSize - 2) / 256)] := by
    rw [paddingBytes, if_pos (by omega), if_neg (by decide), if_pos rfl]
  have count : paddingSize - 1 = paddingSize - 2 + 1 := by omega
  have low : securityByte (front ++ paddingBytes paddingSize 2 ++ back)
      (front.length + paddingSize - 2) = .ok (.ofNat (paddingSize - 2)) := by
    rw [bytes, count, replicate_succ', append_assoc, append_assoc,
      append_assoc, ← append_assoc front]
    refine securityByte_append _ _ _ ?_
    rw [length_append, length_replicate]
    omega
  have high : securityByte (front ++ paddingBytes paddingSize 2 ++ back)
      (front.length + paddingSize - 1) = .ok (.ofNat ((paddingSize - 2) / 256)) := by
    rw [bytes, ← append_assoc, append_assoc (front ++ _)]
    refine securityByte_append _ _ _ ?_
    rw [length_append, length_replicate]
    omega
  have size : (UInt8.ofNat ((paddingSize - 2) / 256)).toNat * 256 +
      (UInt8.ofNat (paddingSize - 2)).toNat = paddingSize - 2 := by
    rw [UInt8.toNat_ofNat', UInt8.toNat_ofNat']
    omega
  have place : front.length + paddingSize - (paddingSize - 2 + 2) = front.length := by omega
  have range : slice (front ++ paddingBytes paddingSize 2 ++ back) front.length
      (front.length + paddingSize - 1) =
        Option.some (replicate (paddingSize - 1) (.ofNat (paddingSize - 2))) := by
    have middle := slice_append front
      (replicate (paddingSize - 1) (UInt8.ofNat (paddingSize - 2)))
      (.ofNat ((paddingSize - 2) / 256) :: back)
    rw [length_replicate] at middle
    rw [bytes, ← append_assoc, append_assoc (front ++ _),
      Nat.add_sub_assoc (by omega)]
    exact middle
  have passes := checkPaddingBytes_replicate (.ofNat (paddingSize - 2)) (paddingSize - 1)
    front.length
  rw [verifyPadding, if_pos large, if_neg (by omega), low, high]
  show (if _ then _ else _) = _
  rw [size, if_neg (by omega), place, range]
  show (checkPaddingBytes _ _ _ >>= fun _ => _) = _
  rw [passes]
  exact if_neg (not_not_intro rfl)

theorem verifyPadding_format (front back : List UInt8) {blockSize keySize minimumPadding size : ℕ}
    (format : PaddingFormat blockSize keySize minimumPadding) (least : minimumPadding ≤ size)
    (most : size < minimumPadding + blockSize) :
    verifyPadding (front ++ paddingBytes size minimumPadding ++ back) keySize
      (front.length + size) = .ok (front.length, front.length + size) := by
  rcases format with ⟨small, fits, rfl⟩ | ⟨large, fits, rfl⟩
  · exact verifyPadding_paddingBytes front back small least (by omega)
  · exact verifyPadding_twoBytes front back large least (by omega)

/-- A subtraction of `usize`s, which traps below zero. -/
def trappingSub (a b : ℕ) : Option ℕ := if b ≤ a then some (a - b) else none

theorem trappingSub_of_le {a b : ℕ} (fits : b ≤ a) : trappingSub a b = some (a - b) := if_pos fits

theorem trappingSub_of_lt {a b : ℕ} (short : a < b) : trappingSub a b = none :=
  if_neg (Nat.not_le_of_lt short)

/-- `verify_padding` with each of its plain subtractions as one that traps. -/
def verifyPaddingTrapping (src : List UInt8) (keySize paddingEnd : ℕ) :
    Option (Except Error (ℕ × ℕ)) :=
  if 256 < keySize then
    if paddingEnd < 2 then some (.error (.new StatusCode.BadSecurityChecksFailed "invalid padding"))
    else do
      let beforeLast ← trappingSub paddingEnd 2
      let last ← trappingSub paddingEnd 1
      match securityByte src beforeLast, securityByte src last with
      | .error error, _ => return .error error
      | .ok _, .error error => return .error error
      | .ok paddingByte, .ok extraPaddingByte =>
        let paddingSize := extraPaddingByte.toNat * 256 + paddingByte.toNat
        match trappingSub paddingEnd (paddingSize + 2) with
        | none =>
          return .error (.new StatusCode.BadSecurityChecksFailed "padding size exceeds chunk")
        | some start =>
          let rangeEnd ← trappingSub paddingEnd 1
          match slice src start rangeEnd with
          | none => return .error (.new StatusCode.BadSecurityChecksFailed "invalid padding range")
          | some bytes =>
            match checkPaddingBytes paddingByte bytes start with
            | .error error => return .error error
            | .ok () =>
              let again ← trappingSub paddingEnd 1
              match securityByte src again with
              | .error error => return .error error
              | .ok lastByte =>
                if lastByte ≠ extraPaddingByte then
                  return .error (.new StatusCode.BadSecurityChecksFailed
                    s!"Expected extra padding byte {extraPaddingByte}, at index {start}")
                else return .ok (start, paddingEnd)
  else
    if paddingEnd = 0 then some (.error (.new StatusCode.BadSecurityChecksFailed "invalid padding"))
    else do
      let last ← trappingSub paddingEnd 1
      match securityByte src last with
      | .error error => return .error error
      | .ok paddingByte =>
        match trappingSub paddingEnd (paddingByte.toNat + 1) with
        | none =>
          return .error (.new StatusCode.BadSecurityChecksFailed "padding size exceeds chunk")
        | some start =>
          match slice src start paddingEnd with
          | none => return .error (.new StatusCode.BadSecurityChecksFailed "invalid padding range")
          | some bytes =>
            match checkPaddingBytes paddingByte bytes start with
            | .error error => return .error error
            | .ok () => return .ok (start, paddingEnd)

/-- **No subtraction goes below zero.** -/
theorem verifyPaddingTrapping_eq (src : List UInt8) (keySize paddingEnd : ℕ) :
    verifyPaddingTrapping src keySize paddingEnd = some (verifyPadding src keySize paddingEnd) := by
  unfold verifyPaddingTrapping verifyPadding
  by_cases large : 256 < keySize
  · rw [if_pos large, if_pos large]
    by_cases short : paddingEnd < 2
    · rw [if_pos short, if_pos short]
    · rw [if_neg short, if_neg short, trappingSub_of_le (by omega), trappingSub_of_le (by omega)]
      dsimp only [bind_eq_bind, bind_some]
      cases securityByte src (paddingEnd - 2) with
      | error error => rfl
      | ok paddingByte =>
        cases last : securityByte src (paddingEnd - 1) with
        | error error => rfl
        | ok extraPaddingByte =>
          show _ = some (if paddingEnd < extraPaddingByte.toNat * 256 + paddingByte.toNat + 2
            then _ else _)
          by_cases beyond : paddingEnd < extraPaddingByte.toNat * 256 + paddingByte.toNat + 2
          · dsimp only
            rw [if_pos beyond, trappingSub_of_lt beyond]
            rfl
          · dsimp only
            rw [if_neg beyond, trappingSub_of_le (not_lt.mp beyond)]
            dsimp only
            cases slice src (paddingEnd - (extraPaddingByte.toNat * 256 + paddingByte.toNat + 2))
              (paddingEnd - 1) with
            | none => rfl
            | some bytes =>
              dsimp only
              cases checkPaddingBytes paddingByte bytes
                (paddingEnd - (extraPaddingByte.toNat * 256 + paddingByte.toNat + 2)) with
              | error error => rfl
              | ok done =>
                show (if _ then _ else _) = some (if _ then _ else _)
                split_ifs <;> rfl
  · rw [if_neg large, if_neg large]
    by_cases none : paddingEnd = 0
    · rw [if_pos none, if_pos none]
    · rw [if_neg none, if_neg none, trappingSub_of_le (Nat.pos_of_ne_zero none)]
      dsimp only [bind_eq_bind, bind_some]
      cases securityByte src (paddingEnd - 1) with
      | error error => rfl
      | ok paddingByte =>
        show _ = some (if paddingEnd < paddingByte.toNat + 1 then _ else _)
        by_cases beyond : paddingEnd < paddingByte.toNat + 1
        · dsimp only
          rw [if_pos beyond, trappingSub_of_lt beyond]
          rfl
        · dsimp only
          rw [if_neg beyond, trappingSub_of_le (not_lt.mp beyond)]
          dsimp only
          cases slice src (paddingEnd - (paddingByte.toNat + 1)) paddingEnd with
          | none => rfl
          | some bytes =>
            dsimp only
            cases checkPaddingBytes paddingByte bytes
              (paddingEnd - (paddingByte.toNat + 1)) <;> rfl

theorem securityByte_ok {buf : List UInt8} {index : ℕ} {byte : UInt8}
    (found : securityByte buf index = .ok byte) : index < buf.length := by
  unfold securityByte at found
  split at found
  · rename_i byte there
    exact (List.getElem?_eq_some_iff.mp there).1
  · cases found

theorem verifyPadding_range {src : List UInt8} {keySize paddingEnd : ℕ} {range : ℕ × ℕ}
    (accepted : verifyPadding src keySize paddingEnd = .ok range) :
    range.1 ≤ range.2 ∧ range.2 = paddingEnd ∧ paddingEnd ≤ src.length := by
  unfold verifyPadding at accepted
  split_ifs at accepted with large short none
  · obtain ⟨paddingByte, -, second⟩ := bind_eq_ok.mp accepted
    obtain ⟨extraPaddingByte, last, sized⟩ := bind_eq_ok.mp second
    have inside := securityByte_ok last
    dsimp only at sized
    split_ifs at sized with beyond
    split at sized
    · cases sized
    · obtain ⟨-, -, checked⟩ := bind_eq_ok.mp sized
      obtain ⟨lastByte, -, done⟩ := bind_eq_ok.mp checked
      split_ifs at done
      cases done
      exact ⟨Nat.sub_le _ _, rfl, by omega⟩
  · obtain ⟨paddingByte, last, sized⟩ := bind_eq_ok.mp accepted
    have inside := securityByte_ok last
    dsimp only at sized
    split_ifs at sized with beyond
    split at sized
    · cases sized
    · obtain ⟨-, -, done⟩ := bind_eq_ok.mp sized
      cases done
      exact ⟨Nat.sub_le _ _, rfl, by omega⟩

/-! ### The round trip -/

theorem MessageChunkHeader.decode_takes : MessageChunkHeader.decode.Takes (3 + (1 + (4 + 4))) := by
  refine (readExact_takes 3).bind fun code => ?_
  extract_lets known
  have header : ∀ messageType, (known messageType).Takes (1 + (4 + 4)) := by
    intro messageType
    refine readU8_takes.bind fun typeCode => ?_
    extract_lets final
    have sized : ∀ isFinal, (final isFinal).Takes (4 + 4) := fun isFinal =>
      readU32_takes.bind fun messageSize => readU32_takes.bind fun id => Reader.takes_pure _
    split_ifs
    · exact (sized _).pure_bind
    · exact (sized _).pure_bind
    · exact (sized _).pure_bind
    · exact Reader.takes_fail_bind _ _ _
  split_ifs
  · exact (header _).pure_bind
  · exact (header _).pure_bind
  · exact (header _).pure_bind
  · exact Reader.takes_fail_bind _ _ _

variable {channel : SecureChannel C}

theorem MessageChunk.chunkInfo_long {chunk : MessageChunk}
    {chunkInfo : ChunkInfo} (read : chunk.chunkInfo channel = .ok chunkInfo) :
    12 ≤ chunk.data.length := by
  obtain ⟨⟨headers, body⟩, decoded, -⟩ := Machine.map_eq_ok.mp read
  unfold decodeHeaders at decoded
  cases first : MessageChunkHeader.decode chunk.data with
  | error error =>
    rw [Reader.bind_error first] at decoded
    cases decoded
  | ok result =>
    have takes := MessageChunkHeader.decode_takes _ _ _ first
    omega

theorem updateMessageSize_append {data : List UInt8} (long : 12 ≤ data.length) (rest : List UInt8)
    (messageSize : ℕ) : ∃ front, front.length = data.length ∧
      updateMessageSize (data ++ rest) messageSize = .ok (front ++ rest) := by
  refine ⟨data.take MESSAGE_SIZE_OFFSET ++ writeU32 messageSize ++
    data.drop (MESSAGE_SIZE_OFFSET + 4), ?_, ?_⟩
  · simp only [length_append, length_take, length_drop, length_writeU32,
      MESSAGE_SIZE_OFFSET]
    omega
  · have fits : ¬ (data ++ rest).length < MESSAGE_SIZE_OFFSET + 4 := by
      rw [length_append, MESSAGE_SIZE_OFFSET]
      omega
    rw [updateMessageSize, if_neg fits, take_append_of_le_length, drop_append_of_le_length,
      append_assoc _ _ rest]
    · rw [MESSAGE_SIZE_OFFSET]
      omega
    · rw [MESSAGE_SIZE_OFFSET]
      omega

theorem SecureChannel.addSpace_append {messageChunk : MessageChunk}
    {chunkInfo : ChunkInfo} (read : messageChunk.chunkInfo channel = .ok chunkInfo)
    {padding : PaddingInfo} (sizes : channel.getPaddingBlockSizes chunkInfo.securityHeader
      chunkInfo.messageHeader.messageType = .ok padding)
    (needed : paddingFor padding chunkInfo.bodyLength
      (channel.signatureSize chunkInfo.securityHeader) = (size, minimumPadding)) :
    ∃ front, front.length = messageChunk.data.length ∧
      channel.addSpaceForPaddingAndSignatureInto messageChunk =
        .ok (front ++ paddingBytes size minimumPadding ++
          replicate (channel.signatureSize chunkInfo.securityHeader) 0) := by
  obtain ⟨front, length, updated⟩ := updateMessageSize_append (MessageChunk.chunkInfo_long read)
    (paddingBytes size minimumPadding ++
      replicate (channel.signatureSize chunkInfo.securityHeader) 0)
    (messageChunk.data.length + size + channel.signatureSize chunkInfo.securityHeader)
  refine ⟨front, length, ?_⟩
  have known : channel.paddingSize chunkInfo.securityHeader chunkInfo.bodyLength
      (channel.signatureSize chunkInfo.securityHeader) chunkInfo.messageHeader.messageType =
        .ok (size, minimumPadding) := by
    rw [channel.paddingSize_eq, sizes]
    exact congrArg Except.ok needed
  rw [addSpaceForPaddingAndSignatureInto, read]
  show (channel.paddingSize _ _ _ _ >>= _) = _
  rw [known, append_assoc]
  show updateMessageSize (messageChunk.data ++ paddingBytes size minimumPadding ++ _) _ = _
  rw [append_assoc]
  exact updated

/-- **Padding and its check agree in both formats.** For a block size and a key size, a sender's
padding fills up whole blocks, of any body and signature, and the check finds it; of every chunk
that a channel with this block size pads it finds what was added. What the check accepts of any
buffer ends where it should and is inside of the buffer, and no subtraction of it goes below zero.
-/
theorem padding_round_trip {blockSize keySize minimumPadding : ℕ} (some : 0 < blockSize)
    (format : PaddingFormat blockSize keySize minimumPadding) :
    (∀ bodySize signatureSize, ∃ size,
      paddingFor ⟨blockSize, minimumPadding⟩ bodySize signatureSize = (size, minimumPadding) ∧
      (paddingBytes size minimumPadding).length = size ∧
      blockSize ∣ 8 + bodySize + size + signatureSize ∧
      ∀ front signature : List UInt8, signature.length = signatureSize →
        verifyPadding (front ++ paddingBytes size minimumPadding ++ signature) keySize
          ((front ++ paddingBytes size minimumPadding ++ signature).length - signatureSize) =
            .ok (front.length, front.length + size)) ∧
    (∀ (C : Crypto) (channel : SecureChannel C) (messageChunk : MessageChunk)
      (chunkInfo : ChunkInfo), messageChunk.chunkInfo channel = .ok chunkInfo →
      channel.getPaddingBlockSizes chunkInfo.securityHeader chunkInfo.messageHeader.messageType =
        .ok ⟨blockSize, minimumPadding⟩ → ∃ size secured,
      channel.paddingSize chunkInfo.securityHeader chunkInfo.bodyLength
        (channel.signatureSize chunkInfo.securityHeader) chunkInfo.messageHeader.messageType =
          .ok (size, minimumPadding) ∧
      channel.addSpaceForPaddingAndSignatureInto messageChunk = .ok secured ∧
      secured.length =
        messageChunk.data.length + size + channel.signatureSize chunkInfo.securityHeader ∧
      blockSize ∣ 8 + chunkInfo.bodyLength + size +
        channel.signatureSize chunkInfo.securityHeader ∧
      part secured messageChunk.data.length (messageChunk.data.length + size) =
        paddingBytes size minimumPadding ∧
      verifyPadding secured keySize
        (secured.length - channel.signatureSize chunkInfo.securityHeader) =
          .ok (messageChunk.data.length, messageChunk.data.length + size)) ∧
    (∀ src keySize paddingEnd,
      verifyPaddingTrapping src keySize paddingEnd =
        Option.some (verifyPadding src keySize paddingEnd) ∧
      ∀ range, verifyPadding src keySize paddingEnd = .ok range →
        range.1 ≤ range.2 ∧ range.2 = paddingEnd ∧ paddingEnd ≤ src.length) := by
  have one : minimumPadding = 1 ∨ minimumPadding = 2 := by
    rcases format with ⟨-, -, one⟩ | ⟨-, -, two⟩
    · exact Or.inl one
    · exact Or.inr two
  have found : ∀ (front signature : List UInt8) (size : ℕ), minimumPadding ≤ size →
      size < minimumPadding + blockSize →
      verifyPadding (front ++ paddingBytes size minimumPadding ++ signature) keySize
        ((front ++ paddingBytes size minimumPadding ++ signature).length - signature.length) =
          .ok (front.length, front.length + size) := by
    intro front signature size least most
    rw [length_append, Nat.add_sub_cancel, length_append, length_paddingBytes least one]
    exact verifyPadding_format front signature format least most
  refine ⟨fun bodySize signatureSize => ?_, fun C channel messageChunk chunkInfo read sizes => ?_,
    fun src keySize paddingEnd => ⟨verifyPaddingTrapping_eq src keySize paddingEnd,
      fun range => verifyPadding_range⟩⟩
  · obtain ⟨size, needed, least, most, whole⟩ :=
      paddingFor_fills some minimumPadding bodySize signatureSize
    refine ⟨size, needed, length_paddingBytes least one, whole, ?_⟩
    rintro front signature rfl
    exact found front signature size least most
  · obtain ⟨size, needed, least, most, whole⟩ := paddingFor_fills some minimumPadding
      chunkInfo.bodyLength (channel.signatureSize chunkInfo.securityHeader)
    obtain ⟨front, length, added⟩ := SecureChannel.addSpace_append read sizes needed
    have padded := length_paddingBytes least one
    have verified := found front
      (replicate (channel.signatureSize chunkInfo.securityHeader) 0) size least most
    rw [length_replicate, length] at verified
    refine ⟨size, _, ?_, added, ?_, whole, ?_, verified⟩
    · rw [channel.paddingSize_eq, sizes]
      exact congrArg Except.ok needed
    · rw [length_append, length_append, length_replicate, length, padded]
    · rw [part, ← length, Nat.add_sub_cancel_left, append_assoc, drop_left,
        take_append_of_le_length padded.ge, take_of_length_le padded.le]

/-- Large keys of any body; a chunk that a channel pads; and a buffer that is checked. -/
theorem padding_round_trip_channel :
    (∃ size, paddingFor ⟨470, 2⟩ 100 512 = (size, 2) ∧ (paddingBytes size 2).length = size ∧
      470 ∣ 8 + 100 + size + 512 ∧
      ∀ front signature : List UInt8, signature.length = 512 →
        verifyPadding (front ++ paddingBytes size 2 ++ signature) 512
          ((front ++ paddingBytes size 2 ++ signature).length - 512) =
            .ok (front.length, front.length + size)) ∧
    (∃ size secured, (SecureChannel.byteChannel true).addSpaceForPaddingAndSignatureInto
        (.symmetric .message .final 1 1 ⟨1, 1⟩ [1, 2, 3]) = .ok secured ∧
      secured.length = 27 + size + 32 ∧ 16 ∣ 8 + 3 + size + 32 ∧
      verifyPadding secured 32 (secured.length - 32) = .ok (27, 27 + size)) ∧
    verifyPaddingTrapping [9, 2, 2, 2] 32 4 = some (.ok (1, 4)) := by
  have large : PaddingFormat 470 512 2 := by unfold PaddingFormat; omega
  have small : PaddingFormat 16 32 1 := by unfold PaddingFormat; omega
  obtain ⟨-, pads, checks⟩ := padding_round_trip (by decide) small
  refine ⟨(padding_round_trip (by decide) large).1 100 512, ?_, ?_⟩
  · obtain ⟨size, secured, -, added, length, whole, -, found⟩ :=
      pads _ (SecureChannel.byteChannel true)
      (.symmetric .message .final 1 1 ⟨1, 1⟩ [1, 2, 3]) _ rfl rfl
    exact ⟨size, secured, added, length, whole, found⟩
  · exact (checks [9, 2, 2, 2] 32 4).1

end AsyncOpcua.Comms
