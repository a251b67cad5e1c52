/-
**Datagrams of messages that are too long for one.**

* `fragmented_iff` — when the fragments cover a payload and are recognised.
-/

import AsyncOpcua.Pubsub.UadpRoundTrip
import AsyncOpcua.Foundation.Cuts

namespace AsyncOpcua.Pubsub

open Foundation (part length_part flatten_parts)
open List

def MTU : ℕ := 1400

/-- `u16::to_be_bytes`. -/
def toBeBytes16 (value : ℕ) : List UInt8 := [.ofNat (value / 256), .ofNat value]

/-- One fragment: sequence number, number of fragments, index, size, and the piece. -/
def fragment (sequenceNumber : UInt16) (totalFragments : UInt8) (payload : List UInt8)
    (fragmentIndex : ℕ) : List UInt8 :=
  let start := fragmentIndex * MTU
  let chunk := part payload start (min (start + MTU) payload.length)
  toBeBytes16 sequenceNumber.toNat ++ [totalFragments, .ofNat fragmentIndex] ++
    toBeBytes16 chunk.length ++ chunk

/-- What is sent for a payload. The number of fragments is cast to a `u8`. -/
def datagrams (sequenceNumber : UInt16) (payload : List UInt8) : List (List UInt8) :=
  if payload.length ≤ MTU then [payload]
  else
    let totalFragments : UInt8 := .ofNat ((payload.length + MTU - 1) / MTU)
    (range totalFragments.toNat).map (fragment sequenceNumber totalFragments payload)

def isCustomFragmentDatagram (payload : List UInt8) : Bool :=
  7 ≤ payload.length ∧ payload.getD 0 0 &&& 0x0F ≠ 1 ∧ payload.getD 6 0 &&& 0x0F = 1

/-- **The datagrams cover the payload,** and say how many they are and in which order. -/
structure Covers (payload : List UInt8) (datagrams : List (List UInt8)) : Prop where
  pieces : (datagrams.map (drop 6)).flatten = payload
  total : ∀ datagram ∈ datagrams, (datagram.getD 2 0).toNat = datagrams.length
  indices : datagrams.map (fun datagram => (datagram.getD 3 0).toNat) = range datagrams.length

variable {sequenceNumber : UInt16} {payload : List UInt8}

theorem part_min (first last : ℕ) :
    part payload first (min last payload.length) = part payload first last := by
  rw [part, part, take_eq_take_iff, length_drop]
  omega

theorem pieces_eq (count : ℕ) (total : UInt8) :
    (((range count).map (fragment sequenceNumber total payload)).map (drop 6)).flatten =
      payload.take (count * MTU) := by
  rw [map_map, ← @flatten_parts _ payload (· * MTU) (Nat.zero_mul _)
    fun _ _ le => Nat.mul_le_mul_right _ le]
  refine congrArg _ (map_congr_left fun index _ => ?_)
  show part payload (index * MTU) (min (index * MTU + MTU) payload.length) =
    part payload (index * MTU) ((index + 1) * MTU)
  rw [part_min, Nat.succ_mul]

theorem covers_iff (long : MTU < payload.length) :
    Covers payload (datagrams sequenceNumber payload) ↔ payload.length ≤ 255 * MTU := by
  obtain ⟨count, counted⟩ : ∃ count, (payload.length + MTU - 1) / MTU = count := ⟨_, rfl⟩
  have enough : payload.length ≤ count * MTU ∧ count * MTU < payload.length + MTU := by
    unfold MTU at *
    omega
  rw [datagrams, if_neg (Nat.not_le.mpr long), counted]
  dsimp only
  rw [UInt8.toNat_ofNat']
  constructor
  · intro covers
    have whole := congrArg length (covers.pieces.symm.trans (pieces_eq _ _))
    rw [length_take] at whole
    unfold MTU at *
    omega
  · intro short
    have fits : count % 2 ^ 8 = count := Nat.mod_eq_of_lt (by unfold MTU at *; omega)
    rw [fits]
    refine ⟨?_, ?_, ?_⟩
    · rw [pieces_eq, take_of_length_le enough.1]
    · rw [forall_mem_map, length_map, length_range]
      intro index here
      show (UInt8.ofNat count).toNat = count
      rw [UInt8.toNat_ofNat', fits]
    · rw [length_map, length_range, map_map]
      refine (map_congr_left fun index here => ?_).trans (map_id _)
      have := mem_range.mp here
      show (UInt8.ofNat index).toNat = index
      rw [UInt8.toNat_ofNat', Nat.mod_eq_of_lt (by unfold MTU at *; omega)]

/-- A fragment is recognised by the sequence number and the first byte of its piece. -/
theorem isCustom_fragment (total : UInt8) {index : ℕ} (inside : index * MTU < payload.length) :
    isCustomFragmentDatagram (fragment sequenceNumber total payload index) = true ↔
      UInt8.ofNat (sequenceNumber.toNat / 256) &&& 0x0F ≠ 1 ∧
        payload.getD (index * MTU) 0 &&& 0x0F = 1 := by
  have chunk : part payload (index * MTU) (min (index * MTU + MTU) payload.length) =
      payload.getD (index * MTU) 0 ::
        part payload (index * MTU + 1) (index * MTU + MTU) := by
    rw [part_min, part, part, drop_eq_getElem_cons inside, getD_eq_getElem?_getD,
      getElem?_eq_getElem inside, Option.getD_some,
      show index * MTU + MTU - index * MTU = index * MTU + MTU - (index * MTU + 1) + 1 by
        unfold MTU
        omega]
    rfl
  simp [isCustomFragmentDatagram, fragment, toBeBytes16, chunk]

theorem mem_datagrams (long : MTU < payload.length) (short : payload.length ≤ 255 * MTU) {index : ℕ}
    (inside : index * MTU < payload.length) :
    fragment sequenceNumber (.ofNat ((payload.length + MTU - 1) / MTU)) payload index ∈
      datagrams sequenceNumber payload := by
  rw [datagrams, if_neg (Nat.not_le.mpr long)]
  exact mem_map_of_mem (mem_range.mpr (by rw [UInt8.toNat_ofNat']; unfold MTU at *; omega))

/-- No message is taken for a fragment. -/
theorem not_isCustom_encode {C : FieldCodecs} (message : UadpNetworkMessage C) {bytes : List UInt8}
    (written : message.encode = .ok bytes) : isCustomFragmentDatagram bytes = false := by
  obtain ⟨header, payload, region, -, rfl⟩ := message.encode_eq_ok written
  obtain ⟨-, secured, -, rfl⟩ := message.encodeHeaderRegion_eq_ok region
  exact decide_eq_false fun told => told.2.1 (message.flags_bits false).1

/-- **A payload is sent in fragments that cover it and are recognised,** and no message is. -/
structure Fragmented (C : FieldCodecs) (sequenceNumber : UInt16) (payload : List UInt8) : Prop where
  covers : Covers payload (datagrams sequenceNumber payload)
  recognised : ∀ datagram ∈ datagrams sequenceNumber payload,
    isCustomFragmentDatagram datagram = true
  apart : ∀ (message : UadpNetworkMessage C) bytes, message.encode = .ok bytes →
    isCustomFragmentDatagram bytes = false

theorem Fragmented.nibbles {C : FieldCodecs} (fragmented : Fragmented C sequenceNumber payload)
    (long : MTU < payload.length) : payload.length ≤ 255 * MTU ∧
      UInt8.ofNat (sequenceNumber.toNat / 256) &&& 0x0F ≠ 1 ∧
      ∀ index, index * MTU < payload.length → payload.getD (index * MTU) 0 &&& 0x0F = 1 := by
  have short := (covers_iff long).mp fragmented.covers
  have told (index : ℕ) (inside : index * MTU < payload.length) :=
    (isCustom_fragment _ inside).mp (fragmented.recognised _ (mem_datagrams long short inside))
  exact ⟨short, (told 0 (by omega)).1, fun index inside => (told index inside).2⟩

/-- **When a payload is fragmented as it should be:** 255 fragments are enough, and the nibbles by
which fragments are told are right in the sequence number and at the start of every piece. -/
theorem fragmented_iff {C : FieldCodecs} (long : MTU < payload.length) :
    Fragmented C sequenceNumber payload ↔ payload.length ≤ 255 * MTU ∧
      UInt8.ofNat (sequenceNumber.toNat / 256) &&& 0x0F ≠ 1 ∧
      ∀ index, index * MTU < payload.length → payload.getD (index * MTU) 0 &&& 0x0F = 1 := by
  refine ⟨fun fragmented => fragmented.nibbles long, ?_⟩
  rintro ⟨short, number, starts⟩
  refine ⟨(covers_iff long).mpr short, fun datagram here => ?_, not_isCustom_encode⟩
  rw [datagrams, if_neg (Nat.not_le.mpr long)] at here
  obtain ⟨index, inside, rfl⟩ := mem_map.mp here
  rw [mem_range, UInt8.toNat_ofNat'] at inside
  have inside : index * MTU < payload.length := by
    unfold MTU at *
    omega
  exact (isCustom_fragment _ inside).mpr ⟨number, starts index inside⟩

theorem fragmented_of_nibbles : Fragmented byteFields 0 (replicate 1401 0x71) :=
  (fragmented_iff (by rw [length_replicate]; decide)).mpr
    ⟨by rw [length_replicate]; decide, by decide, fun index inside => by
      rw [length_replicate] at inside
      rw [getD_eq_getElem?_getD, getElem?_replicate, if_pos inside]
      rfl⟩

set_option maxRecDepth 40000 in
/-- **The fragments of a message with sequence number 256 are not recognised.** -/
theorem fragments_not_recognised : ∃ payload,
    UadpNetworkMessage.encode { wideMessage 700 with sequenceNumber := 256 } = .ok payload ∧
      ¬ Fragmented byteFields 256 payload := by
  refine ⟨_, rfl, fun fragmented => ?_⟩
  exact absurd (fragmented.nibbles (by decide)).2.1 (by decide)

end AsyncOpcua.Pubsub
