/-
**What decoding a variant can give, and what is read back of it.**

A variant that was decoded is within the limits, its arrays were made with as many values as their
dimensions say, and its empty arrays are null arrays. Dimensions of an empty array are written but
never read, so an empty array with dimensions is where writer and reader part.

* `variant_roundTrips_iff` — a variant and all in it round trip exactly if they are regular; a
  variant that was decoded and all in it are returned exactly if no array among them is empty.
-/

import AsyncOpcua.Encoding.BodyFraming
import AsyncOpcua.Encoding.VariantRoundTrip

namespace AsyncOpcua.Encoding

open Types hiding Variant DataValue
open Foundation
open Decoder
open Metered (Tame Yields Takes)

variable {B : Builtins} {ctx : Context B} {answers : Answers B}

/-! ### What readers give -/

/-- A reader gives back only such values. -/
def Gives {α : Type} (reader : Reader α) (P : α → Prop) : Prop :=
  ∀ input a rest, reader input = .ok (a, rest) → P a

namespace Gives

variable {α β : Type} {P : α → Prop} {Q : β → Prop}

theorem any (reader : Reader α) : Gives reader fun _ => True := fun _ _ _ _ => trivial

theorem pure {a : α} (here : P a) : Gives (Pure.pure a : Reader α) P := by
  intro input b rest run
  cases run
  exact here

theorem fail (error : Error) : Gives (.fail error : Reader α) P := by
  intro input b rest run
  cases run

theorem bind {first : Reader α} {next : α → Reader β} (before : Gives first P)
    (after : ∀ a, P a → Gives (next a) Q) : Gives (first >>= next) Q := by
  intro input b rest run
  obtain ⟨a, middle, here, later⟩ := Reader.bind_eq_ok run
  exact after a (before input a middle here) middle b rest later

theorem readI32 : Gives readI32 fun value => value < 2147483648 := by
  refine bind (P := fun value => value < u32Size)
    (fun input value rest run => ?_) fun value bound =>
    pure ?_
  · match input, run with
    | first :: second :: third :: fourth :: bytes, run =>
      cases run
      exact fromLeBytes_lt first second third fourth
  · unfold toI32
    split_ifs <;> omega

theorem readTimes (element : Reader α) :
    ∀ count, Gives (Encoding.readTimes element count) fun values => values.length = count
  | 0 => pure rfl
  | count + 1 => (any element).bind fun _ _ => (readTimes element count).bind fun _ length =>
    pure (congrArg (· + 1) length)

theorem decodeVec (element : Reader α) : Gives (Encoding.decodeVec ctx element) fun found =>
    ∀ values, found = some values →
      values.length ≤ ctx.maxArrayLength ∧ values.length < 2147483648 := by
  refine bind readI32 fun len bound => ?_
  split_ifs with null negative beyond
  · exact pure fun _ absent => nomatch absent
  · exact fail _
  · exact fail _
  · refine (readTimes element len.toNat).bind fun values length => pure fun _ same => ?_
    cases same
    omega

theorem readPicoseconds : Gives readPicoseconds fun value => value ≤ 9999 := by
  refine (any readU16).bind fun value _ => pure ?_
  show (if value ≤ 9999 then value else 9999) ≤ 9999
  split_ifs with small
  · exact small
  · exact UInt16.le_refl _

end Gives

variable {depth : ℕ}

theorem onBytes_yields {α : Type} {reader : Reader α} {P : α → Prop}
    (gives : Gives reader P) : Yields depth (onBytes reader) P := by
  refine Yields.read fun {input : Input} {a rest} run => ?_
  split at run
  · next here =>
    cases run
    exact gives _ _ _ here
  · cases run

theorem bind_yields (ctx : Context B) {α β : Type} {first : Decoder α} {next : α → Decoder β}
    {P : α → Prop} {Q : β → Prop} (before : Yields depth first P)
    (tame : Tame ctx.maxDepth first) (after : ∀ a, P a → Yields depth (next a) Q) :
    Yields depth (first >>= next) Q := before.bind tame after

theorem whenBit_yields {α : Type} {mask bit : UInt8} {part : Decoder α} {P : α → Prop}
    (tame : Tame ctx.maxDepth part) (yields : Yields depth part P) :
    Yields depth (whenBit mask bit part) fun found => ∀ a, found = some a → P a := by
  unfold whenBit
  split_ifs
  · refine bind_yields ctx yields tame fun a here => .pure fun _ same => ?_
    cases same
    exact here
  · exact .pure fun _ absent => nomatch absent

theorem ofArray_yields {made : Except ArrayError (Array (Variant B))} {P : Variant B → Prop}
    (here : ∀ array, made = .ok array → P (.array array)) :
    Yields depth (ofArray made) P := by
  cases made with
  | error error => exact .fail _
  | ok array => exact .pure (here array rfl)

/-! ### What decoders give -/

/-- **What decoding can give,** where so many locks are held. -/
inductive Decoded (ctx : Context B) : ℕ → Variant B → Prop
  | empty (depth : ℕ) : Decoded ctx depth .empty
  | scalar (depth : ℕ) (type : LeafType) (value : B.Value type) :
      Decoded ctx depth (.scalar type value)
  | extensionObject (depth : ℕ) (object : ExtensionObject B) :
      Decoded ctx depth (.extensionObject object)
  | variant {depth : ℕ} {inner : Variant B} (room : depth < ctx.maxDepth)
      (nested : Decoded ctx (depth + 1) inner) : Decoded ctx depth (.variant inner)
  | dataValue {depth : ℕ} {value : DataValue B (Variant B)} (room : depth < ctx.maxDepth)
      (kept : (Variant.dataValue value).Regular)
      (nested : ∀ inner, value.value = some inner → Decoded ctx (depth + 1) inner) :
      Decoded ctx depth (.dataValue value)
  | diagnosticInfo {depth : ℕ} {info : DiagnosticInfo B}
      (room : depth + info.nesting ≤ ctx.maxDepth) : Decoded ctx depth (.diagnosticInfo info)
  | nullArray (depth : ℕ) (type : VariantScalarTypeId) :
      Decoded ctx depth (.array ⟨type, [], some []⟩)
  | array {depth : ℕ} {type : VariantScalarTypeId} {values : List (Variant B)}
      {array : Array (Variant B)} (present : values ≠ [])
      (made : Array.new type values = .ok array ∨
        ∃ dimensions, Array.newMulti type values dimensions = .ok array)
      (short : array.values.length ≤ ctx.maxArrayLength)
      (counted : array.values.length < 2147483648)
      (shape : ∀ dimensions, array.dimensions = some dimensions →
        dimensions.length ≤ ctx.maxArrayLength ∧ dimensions.length < 2147483648)
      (product : ∀ dimensions, array.dimensions = some dimensions →
        (dimensions.map UInt32.toNat).prod = array.values.length)
      (elements : ∀ u ∈ array.values, Decoded ctx depth u) : Decoded ctx depth (.array array)

/-- What the decoders give that are called by others. -/
structure AnswersDecoded (ctx : Context B) (answers : Answers B) : Prop where
  tame : ∀ request, Tame ctx.maxDepth (answers request)
  variant : ∀ depth, Yields depth (answers .variant) (Decoded ctx depth)
  dataValue : ∀ depth, Yields depth (answers .dataValue) fun value =>
    Decoded ctx depth (.dataValue value)
  diagnosticInfo : ∀ depth, Yields depth (answers .diagnosticInfo) fun info =>
    depth + info.nesting ≤ ctx.maxDepth

namespace AnswersDecoded

variable (decoded : AnswersDecoded ctx answers) {depth : ℕ}
include decoded

theorem variantValue (mask : UInt8) :
    Yields depth (decodeVariantValue ctx answers mask) (Decoded ctx depth) := by
  unfold decodeVariantValue
  split_ifs
  · exact .pure (.empty depth)
  · cases VariantScalarTypeId.ofMask mask with
    | none => exact .pure (.empty depth)
    | some type =>
      cases type with
      | leaf type =>
        exact bind_yields ctx (.any _) (leaf_tame type) fun value _ => .pure (.scalar _ _ value)
      | extensionObject =>
        exact bind_yields ctx (.any _) (decoded.tame .extensionObject) fun object _ =>
          .pure (.extensionObject _ object)
      | dataValue =>
        exact (decoded.dataValue depth).bind (decoded.tame .dataValue) fun _ here => .pure here
      | variant =>
        refine .lock fun room => ?_
        exact (decoded.variant (depth + 1)).bind (decoded.tame .variant) fun _ here =>
          .pure (.variant room here)
      | diagnosticInfo =>
        exact (decoded.diagnosticInfo depth).bind (decoded.tame .diagnosticInfo) fun _ here =>
          .pure (.diagnosticInfo here)

omit decoded in
theorem product_of_foldlM {dimensions : List UInt32} : ∀ {product length : ℕ},
    dimensions.foldlM (fun length dimension =>
      if length * dimension.toNat < u32Size then some (length * dimension.toNat) else none)
        product =
        some length → product * (dimensions.map UInt32.toNat).prod = length := by
  induction dimensions with
  | nil =>
    intro product length same
    cases same
    exact Nat.mul_one product
  | cons first others ih =>
    intro product length same
    rw [List.foldlM_cons] at same
    split_ifs at same with small
    · rw [List.map_cons, List.prod_cons, ← Nat.mul_assoc]
      exact ih same
    · cases same

omit decoded in
theorem dimensions {type : VariantScalarTypeId} {values : List (Variant B)} (present : values ≠ [])
    (short : values.length ≤ ctx.maxArrayLength) (counted : values.length < 2147483648)
    (elements : ∀ u ∈ values, Decoded ctx depth u) :
    Yields depth (decodeDimensions ctx type values values.length) (Decoded ctx depth) := by
  refine bind_yields ctx (onBytes_yields (Gives.decodeVec readDimension))
    (onBytes_tame (Forward.readDimension.decodeVec)) fun found limits => ?_
  cases found with
  | none => exact .fail _
  | some dimensions =>
    dsimp only
    split_ifs
    · exact .fail _
    · cases checked : checkedProduct dimensions with
      | none => exact .fail _
      | some length =>
        dsimp only
        split_ifs with differs
        · exact .fail _
        · refine ofArray_yields fun array made => ?_
          have product := product_of_foldlM checked
          rw [Nat.one_mul] at product
          rw [not_not, Nat.mod_eq_of_lt (by unfold u32Size; omega)] at differs
          have how := made
          unfold Array.newMulti at made
          split_ifs at made
          cases made
          refine .array present (.inr ⟨dimensions, how⟩) short counted (fun other same => ?_)
            (fun other same => ?_) elements
          · cases same
            exact limits dimensions rfl
          · cases same
            exact product.trans differs

theorem array {mask elementMask : UInt8} {length : ℕ} (some_values : 0 < length)
    (counted : length < 2147483648) :
    Yields depth (decodeArray ctx answers mask elementMask length) (Decoded ctx depth) := by
  unfold decodeArray
  split
  · exact .fail _
  · rename_i beyond
    refine ((decoded.variantValue elementMask).times
      ((Enough.of_tame decoded.tame).decodeVariantValue elementMask |>.tame) length).bind
      (.times ((Enough.of_tame decoded.tame).decodeVariantValue elementMask |>.tame) length)
      fun values here => ?_
    obtain ⟨rfl, elements⟩ := here
    have present : values ≠ [] := List.length_pos_iff.mp some_values
    cases VariantScalarTypeId.fromEncodingMask elementMask with
    | none => exact .fail _
    | some type =>
      dsimp only
      split
      · exact dimensions present (by omega) counted elements
      · refine ofArray_yields fun array made => ?_
        have how := made
        unfold Array.new at made
        split_ifs at made
        cases made
        exact .array present (.inl how) (Nat.le_of_not_lt beyond) counted
          (fun other absent => nomatch absent) (fun other absent => nomatch absent) elements

theorem decodeVariant : Yields depth (decodeVariant ctx answers) (Decoded ctx depth) := by
  refine bind_yields ctx (.any _) (onBytes_tame .readU8) fun mask _ => ?_
  unfold decodeMasked
  split_ifs
  · refine bind_yields ctx (onBytes_yields .readI32) (onBytes_tame .readI32) fun length bound => ?_
    split_ifs
    · exact .fail _
    · cases VariantScalarTypeId.fromEncodingMask (elementEncodingMask mask) with
      | none => exact .fail _
      | some type =>
        refine ofArray_yields fun array made => ?_
        cases made
        exact .nullArray depth type
    · exact decoded.array (by omega) (by omega)
  · exact .fail _
  · exact decoded.variantValue _

omit decoded in
theorem picosecondsKept_filtered {timestamp : Option (B.Value .dateTime)}
    {picoseconds : Option UInt16} (small : ∀ value, picoseconds = some value → value ≤ 9999) :
    PicosecondsKept timestamp (if timestamp.isSome then picoseconds else none) := by
  intro value here
  split_ifs at here with present
  exact ⟨present, small value here⟩

theorem decodeDataValue : Yields depth (decodeDataValue ctx answers) fun value =>
    Decoded ctx depth (.dataValue value) := by
  have picoseconds : Yields (depth + 1) (onBytes readPicoseconds) fun value => value ≤ 9999 :=
    onBytes_yields Gives.readPicoseconds
  have readsPico : Tame ctx.maxDepth (onBytes readPicoseconds) := onBytes_tame .readPicoseconds
  refine .lock fun room => ?_
  refine bind_yields ctx (.any _) (onBytes_tame .readU8) fun mask _ => ?_
  refine (whenBit_yields (decoded.tame .variant) (decoded.variant (depth + 1))).bind
    (whenBit_tame (decoded.tame .variant)) fun value nested => ?_
  refine bind_yields ctx (.any _) (whenBit_tame (leaf_tame _)) fun status _ => ?_
  refine bind_yields ctx (.any _) (whenBit_tame zeroOffset_tame) fun sourceTimestamp _ => ?_
  refine bind_yields ctx (whenBit_yields readsPico picoseconds) (whenBit_tame readsPico)
    fun source small => ?_
  refine bind_yields ctx (.any _) (whenBit_tame (leaf_tame _)) fun serverTimestamp _ => ?_
  refine bind_yields ctx (whenBit_yields readsPico picoseconds) (whenBit_tame readsPico)
    fun server below => ?_
  exact .pure
    (.dataValue room ⟨picosecondsKept_filtered small, picosecondsKept_filtered below⟩ nested)

theorem decodeDiagnosticInfo : Yields depth (decodeDiagnosticInfo ctx answers) fun info =>
    depth + info.nesting ≤ ctx.maxDepth := by
  refine .lock fun room => ?_
  refine bind_yields ctx (.any _) (onBytes_tame .readU8) fun mask _ => ?_
  refine bind_yields ctx (.any _) (whenBit_tame (leaf_tame _)) fun symbolicId _ => ?_
  refine bind_yields ctx (.any _) (whenBit_tame (leaf_tame _)) fun namespaceUri _ => ?_
  refine bind_yields ctx (.any _) (whenBit_tame (leaf_tame _)) fun locale _ => ?_
  refine bind_yields ctx (.any _) (whenBit_tame (leaf_tame _)) fun localizedText _ => ?_
  refine bind_yields ctx (.any _) (whenBit_tame (leaf_tame _)) fun additionalInfo _ => ?_
  refine bind_yields ctx (.any _) (whenBit_tame (leaf_tame _)) fun innerStatusCode _ => ?_
  refine (whenBit_yields (decoded.tame .diagnosticInfo) (decoded.diagnosticInfo (depth + 1))).bind
    (whenBit_tame (decoded.tame .diagnosticInfo)) fun inner nested => .pure ?_
  cases inner with
  | none => exact room
  | some inner =>
    have here := nested inner rfl
    show depth + (1 + inner.nesting) ≤ ctx.maxDepth
    omega

end AnswersDecoded

theorem decoders_decoded (ctx : Context B) : ∀ levels, AnswersDecoded ctx (decoders ctx levels)
  | 0 => {
    tame := decoders_tame ctx 0
    variant := fun _ _ _ _ _ run => nomatch run
    dataValue := fun _ _ _ _ _ run => nomatch run
    diagnosticInfo := fun _ _ _ _ _ run => nomatch run }
  | levels + 1 =>
    have below := decoders_decoded ctx levels
    { tame := decoders_tame ctx (levels + 1)
      variant := fun _ => below.decodeVariant
      dataValue := fun _ => below.decodeDataValue
      diagnosticInfo := fun _ => below.decodeDiagnosticInfo }

/-! ### What was decoded -/

namespace Decoded

variable {depth : ℕ} {v : Variant B}

section

variable (decoded : Decoded ctx depth v)
include decoded

theorem fits : Fits ctx depth v := by
  induction decoded with
  | empty depth => exact .empty depth
  | scalar depth type value => exact .scalar depth type value
  | extensionObject depth object => exact .extensionObject depth object
  | variant room _ ih => exact .variant room ih
  | dataValue room _ _ ih => exact .dataValue room ih
  | diagnosticInfo room => exact .diagnosticInfo room
  | nullArray depth type =>
    have none_counted : 0 < 2147483648 := by decide
    refine .array (Nat.zero_le _) none_counted (fun dimensions same => ?_)
      fun _ absurdly => nomatch absurdly
    cases same
    exact ⟨Nat.zero_le _, by decide⟩
  | array _ _ short counted shape _ _ ih => exact .array short counted shape ih

theorem built : Built v := by
  induction decoded with
  | empty depth => exact .empty
  | scalar depth type value => exact .scalar type value
  | extensionObject depth object => exact .extensionObject object
  | variant _ _ ih => exact .variant ih
  | dataValue _ _ _ ih => exact .dataValue ih
  | diagnosticInfo _ => exact .diagnosticInfo _
  | nullArray depth type =>
    exact @Built.array B type [] _ (fun _ absurdly => nomatch absurdly) (.inr ⟨[], rfl⟩)
  | array _ made _ _ _ _ _ ih =>
    obtain ⟨-, rfl, -, -⟩ := made_eq made
    exact .array ih made

theorem nulled_eq : v.nulled = v := by
  induction decoded with
  | empty | scalar | extensionObject => rfl
  | variant _ _ ih => rw [Variant.nulled, ih]
  | @dataValue depth value _ _ _ ih =>
    obtain ⟨inner, status, source, sourcePico, server, serverPico⟩ := value
    cases inner with
    | none => rfl
    | some inner => rw [Variant.nulled, ih inner rfl]
  | diagnosticInfo | nullArray => rfl
  | @array depth type values array present made _ _ _ _ _ ih =>
    obtain ⟨-, same, -, -⟩ := made_eq made
    rw [nulled_array (same ▸ present), List.map_congr_left ih, List.map_id']

theorem meets {under : ℕ} {u : Variant B} (met : Meets depth v under u) : Decoded ctx under u := by
  induction met with
  | self depth v => exact decoded
  | variant _ ih =>
    cases decoded with
    | variant _ nested => exact ih nested
  | dataValue here _ ih =>
    cases decoded with
    | dataValue _ _ nested => exact ih (nested _ here)
  | array here _ ih =>
    cases decoded with
    | nullArray _ _ => cases here
    | array _ _ _ _ _ _ elements => exact ih (elements _ here)

end

end Decoded

def Variant.isEmptyArray : Variant B → Bool
  | .array contents => contents.values.isEmpty
  | _ => false

variable {v : Variant B}

/-- **What was decoded is regular,** but for the null arrays. -/
theorem Decoded.regular (decoded : Decoded ctx depth v)
    (present : v.isEmptyArray = false) : v.Regular := by
  cases decoded with
  | empty | scalar | extensionObject | variant => trivial
  | dataValue _ kept _ => exact kept
  | diagnosticInfo _ => trivial
  | nullArray _ _ => cases present
  | array some_values made _ _ _ product _ =>
    obtain ⟨-, same, -, -⟩ := made_eq made
    exact fun dimensions here => ⟨same ▸ some_values, product dimensions here⟩

theorem Decoded.eq_nullArray (decoded : Decoded ctx depth v)
    (empty : v.isEmptyArray) : ∃ type, v = .array ⟨type, [], some []⟩ := by
  cases decoded with
  | nullArray _ type => exact ⟨type, rfl⟩
  | array some_values made _ _ _ _ _ =>
    obtain ⟨-, same, -, -⟩ := made_eq made
    exact absurd (List.isEmpty_iff.mp empty) (same ▸ some_values)
  | _ => cases empty

/-! ### Writer and reader part -/

/-- **The dimensions of an empty array are left unread:** its mask and its length are consumed. -/
theorem decodeVariant_emptyArray (answers : Answers B) (array : Array (Variant B))
    (rest : List UInt8) (xml : List XmlEvent) (depth peak : ℕ) :
    decodeVariant ctx answers ⟨⟨array.encodingMask :: (writeI32 0 ++ rest), xml⟩, depth, peak⟩ =
      some (.ok (.array ⟨array.valueType, [], some []⟩), ⟨⟨rest, xml⟩, depth, peak⟩) := by
  obtain ⟨values, -, element⟩ := array.encodingMask_bits
  obtain ⟨-, -, -, known⟩ := encodingMask_bits array.valueType
  refine (Metered.bind_ok (a := array.encodingMask) rfl).trans ?_
  unfold decodeMasked
  simp only [if_pos values, element]
  refine (Metered.bind_ok (a := 0) (t := ⟨⟨rest, xml⟩, depth, peak⟩) ?_).trans ?_
  · have here : readI32 (writeI32 0 ++ rest) = .ok (0, rest) :=
      readI32_writeI32 (by decide) (by decide) rest
    simp [onBytes, Metered.read, here]
  · simp [known]
    rfl

theorem emptyArray_unread {array : Array (Variant B)} {dimensions : List UInt32}
    {bytes : List UInt8}
    {w : Variant B} (empty : array.values = []) (shaped : array.dimensions = some dimensions)
    (written : (Variant.array array).encode = .ok bytes) :
    ¬ Reads (fun levels => decoders ctx levels .variant) depth bytes w := by
  intro reads
  have value : (Variant.array array).encodeValue =
      .ok (writeI32 0 ++ [] ++ encodeDimensions dimensions) := by
    have here : (Variant.array array).encodeValue = .ok (writeI32 (array.values.length : ℤ) ++ [] ++
        array.dimensions.elim [] encodeDimensions) := encodeValue_array (by rw [empty]; rfl)
    rwa [empty, shaped] at here
  have made : bytes = array.encodingMask :: (writeI32 0 ++ encodeDimensions dimensions) := by
    unfold Variant.encode at written
    rw [value, List.append_nil] at written
    cases written
    rfl
  have taken := reads [] []
  rw [List.append_nil, made] at taken
  have left := taken.unique 0 fun levels => ⟨0, by
    exact decodeVariant_emptyArray _ array (encodeDimensions dimensions) [] depth 0⟩
  have nothing : encodeDimensions dimensions = [] := congrArg Input.bytes left.2
  have size := length_encodeDimensions dimensions
  rw [nothing, List.length_nil] at size
  omega

theorem RoundTrips.regular (trips : RoundTrips ctx depth v) : v.Regular := by
  by_cases shaped : ∃ array dimensions, v = .array array ∧ array.values = [] ∧
      array.dimensions = some dimensions
  · obtain ⟨array, dimensions, rfl, empty, shaped⟩ := shaped
    obtain ⟨bytes, written, -, reads⟩ := trips
    exact absurd reads (emptyArray_unread empty shaped written)
  · obtain ⟨bytes, written, size, reads⟩ := trips
    obtain ⟨reached, settles⟩ := reads [] [] 0
    obtain ⟨levels, settled⟩ := settles.exists
    have decoded : Decoded ctx depth v.nulled :=
      (decoders_decoded ctx levels).variant depth _ _ _ rfl settled
    match v, shaped, decoded with
    | .empty, _, _ => trivial
    | .scalar _ _, _, _ => trivial
    | .extensionObject _, _, _ => trivial
    | .variant _, _, _ => trivial
    | .diagnosticInfo _, _, _ => trivial
    | .dataValue ⟨none, _, _, _, _, _⟩, _, .dataValue _ kept _ => exact kept
    | .dataValue ⟨some _, _, _, _, _, _⟩, _, .dataValue _ kept _ => exact kept
    | .array array, unread, decoded =>
      intro dimensions here
      have present : array.values ≠ [] := fun empty =>
        unread ⟨array, dimensions, rfl, empty, here⟩
      rw [nulled_array present] at decoded
      refine ⟨present, ?_⟩
      have kept := decoded.regular (by
        cases values : array.values with
        | nil => exact absurd values present
        | cons u values => rfl)
      exact ((kept dimensions here).2).trans (List.length_map _)

/-- **A variant is returned:** it is written, and whatever follows its bytes, it is what is decoded,
and its bytes are all that is consumed. -/
def Returns (ctx : Context B) (depth : ℕ) (v : Variant B) : Prop :=
  ∃ bytes, v.encode = .ok bytes ∧ Reads (fun levels => decoders ctx levels .variant) depth bytes v

theorem Decoded.present_of_returns (decoded : Decoded ctx depth v) (returns : Returns ctx depth v) :
    v.isEmptyArray = false := by
  by_contra nonempty
  obtain ⟨type, rfl⟩ := decoded.eq_nullArray (by simpa using nonempty)
  obtain ⟨bytes, written, reads⟩ := returns
  exact emptyArray_unread rfl rfl written reads

/-- **Variants that round trip:** of the variants made with `Array::new` and `Array::new_multi`,
within the limits, a variant and all in it round trip exactly if they are regular; a variant that
was decoded and all in it are returned exactly if no array among them is empty. -/
theorem variant_roundTrips_iff (lawful : B.Lawful) (ctx : Context B) (depth : ℕ) :
    (∀ v, Built v → Fits ctx depth v →
      (∀ under object, Meets depth v under (.extensionObject object) →
        ObjectReads ctx under object) →
      ((∀ under u, Meets depth v under u → RoundTrips ctx under u) ↔
        ∀ under u, Meets depth v under u → u.Regular)) ∧
    ∀ levels s v t, s.depth = depth →
      decoders ctx levels .variant s = some (.ok v, t) →
      (∀ under object, Meets depth v under (.extensionObject object) →
        ObjectReads ctx under object) →
      ((∀ under u, Meets depth v under u → Returns ctx under u) ↔
        ∀ under u, Meets depth v under u → u.isEmptyArray = false) := by
  constructor
  · intro v built fits objects
    constructor
    · exact fun trips under u met => (trips under u met).regular
    · intro regular under u met
      refine ((fits.meets met).valueReads lawful (built.meets met) (fun deeper w later => ?_)
        fun deeper object later => ?_).roundTrips
      · exact regular deeper w (met.trans later)
      · exact objects deeper object (met.trans later)
  · intro levels s v t held run objects
    have decoded : Decoded ctx depth v := (decoders_decoded ctx levels).variant depth s t v held run
    constructor
    · exact fun returns under u met => (decoded.meets met).present_of_returns (returns under u met)
    · intro present under u met
      have here := decoded.meets met
      obtain ⟨bytes, written, -, reads⟩ := (here.fits.valueReads lawful here.built
        (fun deeper w later =>
          (here.meets later).regular (present deeper w (met.trans later)))
        fun deeper object later => objects deeper object (met.trans later)).roundTrips
      rw [here.nulled_eq] at reads
      exact ⟨bytes, written, reads⟩

/-! ### An empty array that is written with its dimensions -/

def twoBytes : List (Variant rawBuiltins) := [.scalar .byte ⟨[7], rfl⟩, .scalar .byte ⟨[8], rfl⟩]

def column : Variant rawBuiltins := .variant (.array ⟨.leaf .byte, twoBytes, some [2, 1]⟩)

theorem of_mem_twoBytes {u : Variant rawBuiltins} (here : u ∈ twoBytes) :
    ∃ value, u = .scalar .byte value := by
  simp only [twoBytes, List.mem_cons, List.not_mem_nil, or_false] at here
  rcases here with rfl | rfl <;> exact ⟨_, rfl⟩

theorem column_built : Built column := by
  refine .variant (@Built.array _ (.leaf .byte) twoBytes _ (fun u here => ?_) (.inr ⟨[2, 1], rfl⟩))
  obtain ⟨value, rfl⟩ := of_mem_twoBytes here
  exact .scalar _ value

theorem column_fits : Fits operandContext 0 column := by
  refine .variant (by decide)
    (.array (by decide) (by decide) (fun shape same => ?_) fun u here => ?_)
  · cases same
    decide
  · obtain ⟨value, rfl⟩ := of_mem_twoBytes here
    exact .scalar _ _ value

theorem column_meets {under : ℕ} {u : Variant rawBuiltins} (met : Meets 0 column under u) :
    u = column ∨ (∃ array, u = .array array ∧ array.values.length = 2 ∧
      array.dimensions = some [2, 1]) ∨ ∃ value, u = .scalar .byte value := by
  cases met with
  | self => exact .inl rfl
  | variant later =>
    cases later with
    | self => exact .inr (.inl ⟨_, rfl, rfl, rfl⟩)
    | array here last =>
      obtain ⟨value, rfl⟩ := of_mem_twoBytes here
      cases last
      exact .inr (.inr ⟨value, rfl⟩)

theorem column_objects {under : ℕ} {object : ExtensionObject rawBuiltins}
    (met : Meets 0 column under (.extensionObject object)) :
    ObjectReads operandContext under object := by
  rcases column_meets met with absurdly | ⟨_, absurdly, _⟩ | ⟨_, absurdly⟩ <;> cases absurdly

theorem column_present {under : ℕ} {u : Variant rawBuiltins} (met : Meets 0 column under u) :
    u.isEmptyArray = false := by
  rcases column_meets met with rfl | ⟨array, rfl, length, shape⟩ | ⟨_, rfl⟩
  · rfl
  · exact List.isEmpty_eq_false_iff.mpr fun empty => by
      rw [empty] at length
      cases length
  · rfl

def columnBytes : List UInt8 := [24, 195, 2, 0, 0, 0, 7, 8, 2, 0, 0, 0, 2, 0, 0, 0, 1, 0, 0, 0]

theorem column_roundTrips :
    RoundTrips operandContext 0 column ∧
      decoders operandContext 2 .variant ⟨⟨columnBytes, []⟩, 0, 0⟩ =
        some (.ok column, ⟨⟨[], []⟩, 0, 1⟩) ∧
      Returns operandContext 0 column := by
  have decoded : decoders operandContext 2 .variant ⟨⟨columnBytes, []⟩, 0, 0⟩ =
      some (.ok column, ⟨⟨[], []⟩, 0, 1⟩) := rfl
  obtain ⟨made, read⟩ := variant_roundTrips_iff rawBuiltins_lawful operandContext 0
  refine ⟨?_, decoded, ?_⟩
  · refine (made column column_built column_fits fun _ _ => column_objects).mpr
      (fun under u met => ?_) 0 column (.self 0 column)
    rcases column_meets met with rfl | ⟨array, rfl, length, shape⟩ | ⟨_, rfl⟩
    · trivial
    · intro dimensions same
      rw [shape] at same
      cases same
      refine ⟨fun empty => ?_, length.symm⟩
      rw [empty] at length
      cases length
    · trivial
  · exact (read _ _ _ _ rfl decoded fun _ _ => column_objects).mpr
      (fun _ _ => column_present) 0 column (.self 0 column)

/-- **An empty array with dimensions is not read back:** of the nine bytes that are written five are
consumed. -/
theorem emptyMulti_not_consumed :
    ¬ ∀ v : Variant rawBuiltins, Built v → Fits operandContext 0 v →
      (∀ under object, Meets 0 v under (.extensionObject object) →
        ObjectReads operandContext under object) →
      RoundTrips operandContext 0 v := by
  intro always
  have decoded : Decoded operandContext 0 (.array ⟨.leaf .byte, [], some []⟩) := .nullArray 0 _
  obtain ⟨bytes, written, -, reads⟩ :=
    always _ decoded.built decoded.fits fun under object met => by
    cases met with
    | array here _ => cases here
  exact emptyArray_unread rfl rfl written reads

end AsyncOpcua.Encoding
