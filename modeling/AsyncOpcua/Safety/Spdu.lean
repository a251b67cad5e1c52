/-
**Safety PDUs: the safety data with a sequence number, a timestamp and a checksum.**

* `calculateCrc` — the checksum, CRC-32 Castagnoli;
* `Spdu.toBytesForCrc` — the bytes that the checksum covers;
* `calculateCrc_corrupted` — it does not have the checksum of the original.
-/

import AsyncOpcua.Foundation.ReflectedCrc

namespace AsyncOpcua.Safety

open Foundation ReflectedCrc

/-! ### The checksum -/

/-- The Castagnoli polynomial, reversed. -/
def castagnoli : UInt32 := 0x82F63B78

/-- One step of the inner loop. -/
def crcStep (crc : UInt32) : UInt32 :=
  if crc &&& 1 ≠ 0 then (crc >>> 1) ^^^ castagnoli else crc >>> 1

/-- The register takes a byte. -/
def crcByte (crc : UInt32) (byte : UInt8) : UInt32 := crcStep^[8] (crc ^^^ byte.toUInt32)

def calculateCrc (data : List UInt8) : UInt32 := data.foldl crcByte 0xFFFFFFFF ^^^ 0xFFFFFFFF

example : calculateCrc [0x31, 0x32, 0x33, 0x34, 0x35, 0x36, 0x37, 0x38, 0x39] = 0xE3069283 := by
  decide +kernel

theorem crcStep_toBitVec (crc : UInt32) :
    (crcStep crc).toBitVec = shift castagnoli.toBitVec crc.toBitVec := by
  have lowest : crc &&& 1 ≠ 0 ↔ crc.toBitVec.getLsbD 0 = true := by
    rw [ne_eq, ← UInt32.toBitVec_inj, UInt32.toBitVec_and]
    show ¬ crc.toBitVec &&& 1#32 = 0#32 ↔ _
    rw [BitVec.and_one_eq_setWidth_ofBool_getLsbD]
    cases crc.toBitVec.getLsbD 0 <;> simp
  unfold crcStep shift
  by_cases odd : crc.toBitVec.getLsbD 0 = true
  · rw [if_pos (lowest.mpr odd), if_pos odd]
    rfl
  · rw [if_neg (mt lowest.mp odd), if_neg odd]
    rfl

theorem crcStep_iterate_toBitVec (count : ℕ) (crc : UInt32) :
    (crcStep^[count] crc).toBitVec =
      (shift castagnoli.toBitVec)^[count] crc.toBitVec := by
  induction count generalizing crc with
  | zero => rfl
  | succ count ih => rw [Function.iterate_succ_apply, ih, crcStep_toBitVec,
      Function.iterate_succ_apply]

/-- The bits of a buffer, in the order in which the register takes them. -/
def bits (data : List UInt8) : List Bool :=
  data.flatMap fun byte => byteBits byte.toBitVec

theorem foldl_crcByte_toBitVec (crc : UInt32) (data : List UInt8) :
    (data.foldl crcByte crc).toBitVec =
      feed castagnoli.toBitVec crc.toBitVec (bits data) := by
  induction data generalizing crc with
  | nil => rfl
  | cons byte data ih =>
    have taken : (crcByte crc byte).toBitVec =
        feed castagnoli.toBitVec crc.toBitVec
          (byteBits byte.toBitVec) := by
      rw [crcByte, crcStep_iterate_toBitVec, feed_byteBits _ _ _ (by decide)]
      rfl
    rw [List.foldl_cons, ih, taken]
    exact (feed_append _ _ _ _).symm

/-- **Two buffers that differ by an error burst of at most 32 bits have different checksums.** -/
theorem calculateCrc_ne_of_burst {sent received : List UInt8}
    (burst : BurstError 32 (bits sent) (bits received)) :
    calculateCrc sent ≠ calculateCrc received := by
  intro same
  have registers := congrArg UInt32.toBitVec ((UInt32.xor_left_inj _).mp same)
  rw [foldl_crcByte_toBitVec, foldl_crcByte_toBitVec] at registers
  exact feed_ne_of_burst (by decide) burst _ registers

/-! ### The unit -/

structure Spdu where
  safetyData : List UInt8
  sequenceNumber : UInt32
  timestamp : UInt64
  crc : UInt32
  deriving DecidableEq

/-- `u32::to_be_bytes`. -/
def toBeBytes32 (value : UInt32) : List UInt8 :=
  [24, 16, 8, 0].map fun place : UInt32 => (value >>> place).toUInt8

/-- `u64::to_be_bytes`. -/
def toBeBytes64 (value : UInt64) : List UInt8 :=
  [56, 48, 40, 32, 24, 16, 8, 0].map fun place : UInt64 => (value >>> place).toUInt8

namespace Spdu

def toBytesForCrc (spdu : Spdu) : List UInt8 :=
  spdu.safetyData ++ toBeBytes32 spdu.sequenceNumber ++ toBeBytes64 spdu.timestamp

/-- **A corrupted copy:** an error burst of at most 32 bits has changed the bytes under the
checksum, and the checksum is the one that was sent. -/
def Corrupted (sent received : Spdu) : Prop :=
  BurstError 32 (bits sent.toBytesForCrc) (bits received.toBytesForCrc) ∧ received.crc = sent.crc

theorem calculateCrc_corrupted {sent received : Spdu} (corrupted : sent.Corrupted received)
    (checked : calculateCrc sent.toBytesForCrc = sent.crc) :
    calculateCrc received.toBytesForCrc ≠ received.crc := by
  rw [corrupted.2, ← checked]
  exact (calculateCrc_ne_of_burst corrupted.1).symm

end Spdu

/-! ### The builder -/

structure SpduBuilder where
  safetyData : List UInt8
  sequenceNumber : UInt32
  timestamp : UInt64

namespace SpduBuilder

def new (safetyData : List UInt8) : SpduBuilder := ⟨safetyData, 0, 0⟩

variable (builder : SpduBuilder)

def withSequenceNumber (seq : UInt32) : SpduBuilder :=
  { builder with sequenceNumber := seq }

def withTimestamp (ts : UInt64) : SpduBuilder :=
  { builder with timestamp := ts }

def build : Spdu :=
  let spdu : Spdu := ⟨builder.safetyData, builder.sequenceNumber, builder.timestamp, 0⟩
  { spdu with crc := calculateCrc spdu.toBytesForCrc }

theorem build_checked :
    calculateCrc builder.build.toBytesForCrc = builder.build.crc := rfl

end SpduBuilder

end AsyncOpcua.Safety
