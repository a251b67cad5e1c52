/-
**The decoders together, and their locks.**

The decoders answer each other's requests, down to a number of levels. Whatever is decoded, the
gauge is left as it was and no more locks are held than allowed.
-/

import AsyncOpcua.Encoding.XmlDecoding

namespace AsyncOpcua.Encoding

open Types hiding Variant DataValue
open Foundation
open Decoder Metered

variable {B : Builtins} {ctx : Context B} {answers : Answers B}

/-- The decoder a request calls, where its own requests are answered. -/
def answer (ctx : Context B) (answers : Answers B) : Answers B
  | .variant => decodeVariant ctx answers
  | .dataValue => decodeDataValue ctx answers
  | .diagnosticInfo => decodeDiagnosticInfo ctx answers
  | .extensionObject => decodeExtensionObject ctx answers
  | .loadFromBinary id length => ctx.loadFromBinary answers id length
  | .xmlVariant => decodeXmlVariant answers
  | .xmlVariantValue key => decodeXmlVariantValue answers key
  | .xmlDataValue => decodeXmlDataValue answers
  | .xmlDiagnosticInfo => decodeXmlDiagnosticInfo answers
  | .xmlExtensionObject => decodeXmlExtensionObject ctx answers
  | .loadFromXml id name => ctx.loadFromXml answers id name

def decoders (ctx : Context B) : ℕ → Answers B
  | 0 => fun _ => Metered.exhausted
  | levels + 1 => answer ctx (decoders ctx levels)

section

variable (levels : ℕ)

theorem decoders_variant :
    decoders ctx (levels + 1) .variant = decodeVariant ctx (decoders ctx levels) := rfl

theorem decoders_dataValue :
    decoders ctx (levels + 1) .dataValue = decodeDataValue ctx (decoders ctx levels) := rfl

theorem decoders_diagnosticInfo :
    decoders ctx (levels + 1) .diagnosticInfo =
      decodeDiagnosticInfo ctx (decoders ctx levels) := rfl

theorem decoders_extensionObject :
    decoders ctx (levels + 1) .extensionObject =
      decodeExtensionObject ctx (decoders ctx levels) := rfl

theorem decoders_loadFromBinary (id : B.Value .nodeId) (length : Option ℕ) :
    decoders ctx (levels + 1) (.loadFromBinary id length) =
      ctx.loadFromBinary (decoders ctx levels) id length := rfl

end

/-! ### Readers move forward -/

/-- What a reader leaves is an end of what it was given. -/
def Forward {α : Type} (reader : Reader α) : Prop :=
  ∀ input a rest, reader input = .ok (a, rest) → rest <:+ input

namespace Forward

variable {α β : Type}

theorem pure (a : α) : Forward (Pure.pure a : Reader α) := by
  intro input b rest here
  cases here
  exact List.suffix_refl _

theorem fail (error : Error) : Forward (.fail error : Reader α) := by
  intro input b rest here
  cases here

theorem bind {first : Reader α} {next : α → Reader β} (before : Forward first)
    (after : ∀ a, Forward (next a)) : Forward (first >>= next) := by
  intro input b rest here
  obtain ⟨a, middle, run, later⟩ := Reader.bind_eq_ok here
  exact (after a _ _ _ later).trans (before _ _ _ run)

theorem readU8 : Forward readU8 := by
  intro input a rest here
  cases input with
  | nil => cases here
  | cons byte bytes =>
    cases here
    exact List.suffix_cons _ _

theorem readU16 : Forward readU16 := by
  intro input a rest here
  match input, here with
  | first :: second :: bytes, here =>
    cases here
    exact ⟨[first, second], rfl⟩

theorem readU32 : Forward readU32 := by
  intro input a rest here
  match input, here with
  | first :: second :: third :: fourth :: bytes, here =>
    cases here
    exact ⟨[first, second, third, fourth], rfl⟩

theorem readI32 : Forward readI32 := readU32.bind fun _ => pure _

theorem readExact (count : ℕ) : Forward (readExact count) := by
  intro input a rest here
  unfold Types.readExact at here
  split_ifs at here
  cases here
  exact List.drop_suffix _ _

theorem readTimes {element : Reader α} (forward : Forward element) :
    ∀ count, Forward (readTimes element count)
  | 0 => pure []
  | count + 1 => forward.bind fun a => (forward.readTimes count).bind fun others =>
    pure (a :: others)

theorem decodeVec {element : Reader α} (forward : Forward element) :
    Forward (decodeVec ctx element) := by
  refine readI32.bind fun len => ?_
  split_ifs
  · exact pure _
  · exact fail _
  · exact fail _
  · exact (forward.readTimes _).bind fun _ => pure _

theorem string (options : DecodingOptions) : Forward (UAString.decode options) := by
  refine readI32.bind fun len => ?_
  split_ifs
  · exact pure _
  · exact fail _
  · exact fail _
  · refine (readExact _).bind fun text => ?_
    cases fromUtf8 text with
    | none => exact fail _
    | some value => exact pure _

theorem readDimension : Forward readDimension := readU32.bind fun _ => pure _

theorem readPicoseconds : Forward readPicoseconds := readU16.bind fun _ => pure _

end Forward

/-! ### Tame steps -/

section Tame

variable {α β : Type} {most : ℕ}

theorem onBytes_tame {reader : Reader α} (forward : Forward reader) :
    Tame most (onBytes reader) := by
  refine Tame.read fun {input a rest} here => ?_
  split at here
  · next run =>
    cases here
    exact forward _ _ _ run
  · cases here

theorem onXml_tame (reader : XmlReader α) : Tame most (onXml reader) := by
  refine Tame.read fun {input a rest} here => ?_
  split at here
  · cases here
    exact List.suffix_refl _
  · cases here

theorem onOwnBytes_tame {bytes : List UInt8} {body : Decoder α} (tame : Tame most body) :
    Tame most (onOwnBytes bytes body) :=
  Tame.within tame fun before _ => List.suffix_refl before.bytes

theorem onOwnXml_tame {events : List XmlEvent} {body : Decoder α} (tame : Tame most body) :
    Tame most (onOwnXml events body) :=
  Tame.within tame fun before _ => List.suffix_refl before.bytes

theorem leaf_tame (type : LeafType) : Tame most (onBytes (B.decode type)) :=
  onBytes_tame fun _ _ _ here => B.forward here

theorem zeroOffset_tame : Tame most (onBytes B.decodeZeroOffset) :=
  onBytes_tame fun _ _ _ here => B.forwardZeroOffset here

theorem whenBit_tame {mask bit : UInt8} {part : Decoder α} (tame : Tame most part) :
    Tame most (whenBit mask bit part) := by
  unfold whenBit
  split_ifs
  · exact tame.bind fun _ => .pure _
  · exact .pure _

theorem ofArray_tame (made : Except ArrayError (Array (Variant B))) : Tame most (ofArray made) := by
  cases made with
  | error error => exact .fail _
  | ok array => exact .pure _

end Tame

/-! ### Programs are tame -/

section Programs

variable (tame : ∀ request, Tame ctx.maxDepth (answers request))
include tame

theorem run_tame (program : Program B) : Tame ctx.maxDepth (program.run ctx answers) := by
  induction program with
  | done body => exact .pure body
  | fail error => exact .fail error
  | bytes count next ih => exact (onBytes_tame (.readExact count)).bind ih
  | leaf type next ih => exact (leaf_tame type).bind ih
  | xmlLeaf type next ih => exact (onXml_tame _).bind ih
  | xmlRaw next ih | xmlEvent next ih => exact (onXml_tame _).bind ih
  | ask request next ih => exact (tame request).bind ih
  | locked inner ih => exact .lock ih

theorem loadFromBinary_tame (id : B.Value .nodeId) (length : Option ℕ) :
    Tame ctx.maxDepth (ctx.loadFromBinary answers id length) := by
  unfold Context.loadFromBinary
  cases ctx.binaryProgram id length with
  | none => exact .fail _
  | some program => exact (run_tame tame program).bind fun _ => .pure _

end Programs

/-! ### The levels of the binary decoders -/

def Request.isDecoder : Request B → Bool
  | .variant | .dataValue | .diagnosticInfo | .extensionObject => true
  | _ => false

def Request.isLoad : Request B → Bool
  | .loadFromBinary _ _ => true
  | _ => false

/-- A call that a binary decoder makes. -/
def Request.isBinary : Request B → Bool
  | .variant | .dataValue | .diagnosticInfo | .extensionObject => true
  | .loadFromBinary _ _ | .loadFromXml _ _ => true
  | _ => false

/-- The levels of recursion that are enough for a request, with room for so many locks. -/
def Request.levels (room : ℕ) : Request B → ℕ
  | .variant => 3 * room + 3
  | .extensionObject => 3 * room + 2
  | .loadFromBinary _ _ => 3 * room + 4
  | _ => 3 * room + 1

/-- **A decoder that needs so many levels,** above three for each lock there is room for, to do as
another. -/
structure Paced {α : Type} (ctx : Context B) (levels above : ℕ) (m other : Decoder α) : Prop where
  tame : Tame ctx.maxDepth m
  agrees : ∀ room, 3 * room + above ≤ levels → Agrees ctx.maxDepth room m other

namespace Paced

variable {α β : Type} {levels above : ℕ}

theorem refl {m : Decoder α} (tame : Tame ctx.maxDepth m) : Paced ctx levels above m m :=
  ⟨tame, fun _ _ => .refl m⟩

theorem pure (a : α) : Paced ctx levels above (Pure.pure a) (Pure.pure a) := refl (.pure a)

theorem fail (error : Error) : Paced ctx levels above (.fail error : Decoder α) (.fail error) :=
  refl (.fail error)

theorem onBytes {reader : Reader α} (forward : Forward reader) :
    Paced ctx levels above (onBytes reader) (onBytes reader) := refl (onBytes_tame forward)

theorem leaf (type : LeafType) : Paced ctx levels above (Decoder.onBytes (B.decode type))
    (Decoder.onBytes (B.decode type)) := refl (leaf_tame type)

theorem bind {first other : Decoder α} {next rest : α → Decoder β}
    (before : Paced ctx levels above first other)
    (after : ∀ a, Paced ctx levels above (next a) (rest a)) :
    Paced ctx levels above (first >>= next) (other >>= rest) where
  tame := before.tame.bind fun a => (after a).tame
  agrees room below :=
    (before.agrees room below).bind before.tame fun a => (after a).agrees room below

theorem lock {body other : Decoder α} {tooDeep : Error}
    (under : Paced ctx levels (above + 3) body other) :
    Paced ctx levels above (.lock ctx.maxDepth tooDeep body)
      (.lock ctx.maxDepth tooDeep other) where
  tame := .lock under.tame
  agrees room below := .lock fun less _ => under.agrees less (by omega)

variable {m other : Decoder α}

theorem mono (paced : Paced ctx levels above m other) {more : ℕ} (le : above ≤ more) :
    Paced ctx levels more m other :=
  ⟨paced.tame, fun room below => paced.agrees room (by omega)⟩

theorem onOwnXml {events : List XmlEvent} (paced : Paced ctx levels above m other) :
    Paced ctx levels above (onOwnXml events m) (onOwnXml events other) :=
  ⟨onOwnXml_tame paced.tame, fun room below => (paced.agrees room below).within⟩

theorem times (paced : Paced ctx levels above m other) (count : ℕ) :
    Paced ctx levels above (.times count m) (.times count other) :=
  ⟨paced.tame.times count, fun room below => (paced.agrees room below).times paced.tame count⟩

theorem whenBit {mask bit : UInt8} (paced : Paced ctx levels above m other) :
    Paced ctx levels above (whenBit mask bit m) (whenBit mask bit other) := by
  unfold Encoding.whenBit
  split_ifs
  · exact paced.bind fun _ => .pure _
  · exact .pure _

theorem ofArray (made : Except ArrayError (Array (Variant B))) :
    Paced ctx levels above (ofArray made) (ofArray made) := refl (ofArray_tame made)

end Paced

theorem decodeDimensions_tame (valueType : VariantScalarTypeId) (values : List (Variant B))
    (arrayLength : ℕ) : Tame ctx.maxDepth (decodeDimensions ctx valueType values arrayLength) := by
  refine (onBytes_tame Forward.readDimension.decodeVec).bind fun dimensions => ?_
  cases dimensions with
  | none => exact .fail _
  | some dimensions =>
    dsimp only
    split_ifs
    · exact .fail _
    · cases checkedProduct dimensions with
      | none => exact .fail _
      | some length =>
        dsimp only
        split_ifs
        · exact .fail _
        · exact ofArray_tame _

/-- Answers that are tame, and that do as others within so many levels. -/
structure Enough (ctx : Context B) (answers others : Answers B) (levels : ℕ) : Prop where
  tame : ∀ request, Tame ctx.maxDepth (answers request)
  agrees : ∀ room request, request.isBinary → request.levels room ≤ levels →
    Agrees ctx.maxDepth room (answers request) (others request)

theorem Enough.of_tame (tame : ∀ request, Tame ctx.maxDepth (answers request)) :
    Enough ctx answers answers 0 :=
  ⟨tame, fun _ _ _ _ => .refl _⟩

namespace Enough

variable {others : Answers B} {levels : ℕ} (enough : Enough ctx answers others levels)
include enough

theorem paced {request : Request B} (binary : request.isBinary) {above : ℕ}
    (needs : ∀ room, request.levels room ≤ 3 * room + above) :
    Paced ctx levels above (answers request) (others request) :=
  ⟨enough.tame request, fun room below =>
    enough.agrees room request binary ((needs room).trans below)⟩

theorem decodeVariantValue (mask : UInt8) :
    Paced ctx levels 2 (decodeVariantValue ctx answers mask)
      (decodeVariantValue ctx others mask) := by
  unfold Encoding.decodeVariantValue
  split_ifs
  · exact .pure _
  · cases VariantScalarTypeId.ofMask mask with
    | none => exact .pure _
    | some type =>
      cases type with
      | leaf type => exact (Paced.leaf type).bind fun _ => .pure _
      | extensionObject => exact (enough.paced rfl fun _ => le_rfl).bind fun _ => .pure _
      | dataValue =>
        exact (enough.paced rfl fun _ => Nat.le_succ _).bind fun _ => .pure _
      | variant =>
        refine .lock ((Paced.mono (enough.paced rfl fun _ => le_rfl) ?_).bind fun _ => .pure _)
        decide
      | diagnosticInfo =>
        exact (enough.paced rfl fun _ => Nat.le_succ _).bind fun _ => .pure _

theorem decodeArray (mask elementMask : UInt8) (arrayLength : ℕ) :
    Paced ctx levels 2 (decodeArray ctx answers mask elementMask arrayLength)
      (decodeArray ctx others mask elementMask arrayLength) := by
  unfold Encoding.decodeArray
  split
  · exact .fail _
  · refine ((enough.decodeVariantValue elementMask).times arrayLength).bind fun values => ?_
    cases VariantScalarTypeId.fromEncodingMask elementMask with
    | none => exact .fail _
    | some valueType =>
      dsimp only
      split
      · exact .refl (decodeDimensions_tame valueType values arrayLength)
      · exact .ofArray _

theorem decodeVariant :
    Paced ctx levels 2 (decodeVariant ctx answers) (decodeVariant ctx others) := by
  refine (Paced.onBytes .readU8).bind fun mask => ?_
  unfold decodeMasked
  split_ifs
  · refine (Paced.onBytes .readI32).bind fun arrayLength => ?_
    split_ifs
    · exact .fail _
    · cases VariantScalarTypeId.fromEncodingMask (elementEncodingMask mask) with
      | none => exact .fail _
      | some valueType => exact .ofArray _
    · exact enough.decodeArray _ _ _
  · exact .fail _
  · exact enough.decodeVariantValue _

theorem decodeDataValue :
    Paced ctx levels 0 (decodeDataValue ctx answers) (decodeDataValue ctx others) := by
  refine .lock ((Paced.onBytes .readU8).bind fun mask => ?_)
  refine (Paced.whenBit (enough.paced rfl fun _ => le_rfl)).bind fun value => ?_
  refine (Paced.leaf _).whenBit.bind fun status => ?_
  refine (Paced.refl zeroOffset_tame).whenBit.bind fun sourceTimestamp => ?_
  refine (Paced.onBytes .readPicoseconds).whenBit.bind fun sourcePicoseconds => ?_
  refine (Paced.leaf _).whenBit.bind fun serverTimestamp => ?_
  exact (Paced.onBytes .readPicoseconds).whenBit.bind fun serverPicoseconds => .pure _

theorem decodeDiagnosticInfo :
    Paced ctx levels 0 (decodeDiagnosticInfo ctx answers) (decodeDiagnosticInfo ctx others) := by
  refine .lock ((Paced.onBytes .readU8).bind fun mask => ?_)
  refine (Paced.leaf _).whenBit.bind fun symbolicId => ?_
  refine (Paced.leaf _).whenBit.bind fun namespaceUri => ?_
  refine (Paced.leaf _).whenBit.bind fun locale => ?_
  refine (Paced.leaf _).whenBit.bind fun localizedText => ?_
  refine (Paced.leaf _).whenBit.bind fun additionalInfo => ?_
  refine (Paced.leaf _).whenBit.bind fun innerStatusCode => ?_
  refine (Paced.whenBit (enough.paced rfl fun room => ?_)).bind fun inner => .pure _
  exact Nat.add_le_add_left (by decide) _

theorem decodeBinaryBody (id : B.Value .nodeId) :
    Paced ctx levels 4 (decodeBinaryBody ctx answers id) (decodeBinaryBody ctx others id) := by
  refine (Paced.onBytes .readI32).bind fun size => ?_
  cases validateBodySize size ctx.options with
  | error error => exact .fail _
  | ok valid =>
    cases valid with
    | none => exact .pure _
    | some size => exact enough.paced rfl fun _ => le_rfl

theorem decodeXmlBody (id : B.Value .nodeId) :
    Paced ctx levels 1 (decodeXmlBody ctx answers id) (decodeXmlBody ctx others id) := by
  unfold Encoding.decodeXmlBody
  by_cases xml : ctx.xmlFeature = true
  · rw [if_pos xml, if_pos xml]
    refine (Paced.onBytes (.string _)).bind fun body => ?_
    cases body with
    | none => exact .pure _
    | some body =>
      refine .onOwnXml ((Paced.refl (onXml_tame _)).bind fun name => ?_)
      cases name with
      | none => exact .pure _
      | some name => exact enough.paced rfl fun _ => le_rfl
  · rw [if_neg xml, if_neg xml]
    refine (Paced.onBytes .readI32).bind fun size => ?_
    cases validateBodySize size ctx.options with
    | error error => exact .fail _
    | ok valid =>
      cases valid with
      | none => exact .pure _
      | some size => exact (Paced.onBytes (.readExact size)).bind fun _ => .pure _

theorem decodeExtensionObject :
    Paced ctx levels 1 (decodeExtensionObject ctx answers) (decodeExtensionObject ctx others) := by
  refine .lock ((Paced.leaf _).bind fun id => (Paced.onBytes .readU8).bind fun encodingType => ?_)
  split_ifs
  · exact .pure _
  · exact enough.decodeBinaryBody id
  · exact (enough.decodeXmlBody id).mono (by decide)
  · exact .fail _

end Enough

/-! ### The XML decoders are tame -/

section Xml

variable {α A : Type} {most : ℕ}

theorem skipValue_tame : Tame most skipValue := onXml_tame _

variable {process : A → String → Bool → Decoder A}

theorem iterEvents_tame (tame : ∀ found key hasReader, Tame most (process found key hasReader)) :
    ∀ fuel found, Tame most (iterEvents process fuel found)
  | 0, found => .pure found
  | fuel + 1, found => by
    refine (onXml_tame _).bind fun event => ?_
    rcases event with _ | (_ | _ | _ | _ | _ | _)
    · exact .pure _
    · exact (tame _ _ _).bind fun found => iterEvents_tame tame fuel found
    · exact (tame _ _ _).bind fun found => iterEvents_tame tame fuel found
    · exact .pure _
    · exact iterEvents_tame tame fuel found
    · exact iterEvents_tame tame fuel found
    · exact iterEvents_tame tame fuel found

theorem tame_of_forall {m : Decoder α} (tame : ∀ s, ∃ other : Decoder α, Tame most other ∧
    m s = other s) : Tame most m := by
  constructor
  · intro s t r run
    obtain ⟨other, here, same⟩ := tame s
    exact here.released (same ▸ run)
  · intro s t r run
    obtain ⟨other, here, same⟩ := tame s
    exact here.bounded (same ▸ run)
  · intro s t r run
    obtain ⟨other, here, same⟩ := tame s
    exact here.forward (same ▸ run)

theorem iterChildrenIncludeEmpty_tame
    (tame : ∀ found key hasReader, Tame most (process found key hasReader)) (found : A) :
    Tame most (iterChildrenIncludeEmpty process found) :=
  tame_of_forall fun _ => ⟨_, iterEvents_tame tame _ found, rfl⟩

theorem iterChildren_tame {process : A → String → Decoder A}
    (tame : ∀ found key, Tame most (process found key)) (found : A) :
    Tame most (iterChildren process found) := by
  refine iterChildrenIncludeEmpty_tame (fun found key hasReader => ?_) found
  split
  · exact tame found key
  · exact .pure _

theorem getFirstChild_tame {decode : String → Decoder A} (tame : ∀ key, Tame most (decode key)) :
    Tame most (getFirstChild decode) := by
  refine iterChildren_tame (fun found key => ?_) none
  cases found with
  | none => exact (tame key).bind fun _ => .pure _
  | some a => exact skipValue_tame.bind fun _ => .pure _

theorem enterBody_tame : Tame most enterBody := by
  refine tame_of_forall fun s => ?_
  unfold enterBody
  cases firstElement s.input.xml with
  | none => exact ⟨_, Tame.exhausted, rfl⟩
  | some first =>
    cases first with
    | error error => exact ⟨_, Tame.fail error, rfl⟩
    | ok found =>
      -- The step on the document that leaves what is left here.
      exact ⟨onXml fun _ => .ok found, onXml_tame _, rfl⟩

variable (tame : ∀ request, Tame ctx.maxDepth (answers request))
include tame

theorem xmlElements_tame (found : List (Variant B)) :
    Tame ctx.maxDepth (xmlElements answers found) := by
  refine iterChildrenIncludeEmpty_tame (fun found key hasReader => ?_) found
  split
  · exact (tame _).bind fun _ => .pure _
  · cases VariantScalarTypeId.fromXmlName key with
    | none => exact .fail _
    | some type => exact .pure _

omit tame in
theorem xmlDimensions_tame : Tame most (xmlDimensions (B := B)) := by
  refine iterChildrenIncludeEmpty_tame (fun found key hasReader => ?_) []
  split
  · exact (onXml_tame _).bind fun _ => .pure _
  · exact .pure _

theorem xmlMatrix_tame : Tame ctx.maxDepth (xmlMatrix answers) := by
  refine iterChildren_tame (fun found key => ?_) _
  split
  · exact xmlDimensions_tame.bind fun _ => .pure _
  · split
    · exact (xmlElements_tame tame _).bind fun _ => .pure _
    · exact .fail _

theorem xmlScalar_tame (key : String) : Tame ctx.maxDepth (xmlScalar answers key) := by
  unfold xmlScalar
  cases VariantScalarTypeId.fromXmlName key with
  | none => exact .fail _
  | some type =>
    cases type with
    | leaf type => exact (onXml_tame _).bind fun _ => .pure _
    | extensionObject => exact (tame .xmlExtensionObject).bind fun _ => .pure _
    | dataValue => exact (tame .xmlDataValue).bind fun _ => .pure _
    | variant => exact (tame .xmlVariant).bind fun _ => .pure _
    | diagnosticInfo => exact (tame .xmlDiagnosticInfo).bind fun _ => .pure _

theorem decodeXmlVariantValue_tame (key : String) :
    Tame ctx.maxDepth (decodeXmlVariantValue answers key) := by
  unfold decodeXmlVariantValue
  split
  · cases VariantScalarTypeId.fromXmlName (key.drop 6).toString with
    | none => exact .fail _
    | some type => exact (xmlElements_tame tame []).bind fun _ => ofArray_tame _
  · split
    · refine (xmlMatrix_tame tame).bind fun found => ?_
      dsimp only
      split
      · exact .fail _
      · exact ofArray_tame _
    · exact xmlScalar_tame tame key

theorem decodeXmlVariant_tame : Tame ctx.maxDepth (decodeXmlVariant answers) :=
  (getFirstChild_tame fun key => tame (.xmlVariantValue key)).bind fun _ => .pure _

theorem decodeXmlDataValue_tame : Tame ctx.maxDepth (decodeXmlDataValue answers) := by
  refine iterChildren_tame (fun found key => ?_) _
  split <;> first
    | exact (onXml_tame _).bind fun _ => .pure _
    | exact (tame _).bind fun _ => .pure _

theorem decodeXmlDiagnosticInfo_tame : Tame ctx.maxDepth (decodeXmlDiagnosticInfo answers) := by
  refine (iterChildren_tame (fun found key => ?_) _).bind fun _ => .pure _
  split <;> first
    | exact (onXml_tame _).bind fun _ => .pure _
    | exact (tame _).bind fun _ => .pure _

theorem xmlBody_tame (found : Option (B.Value .nodeId) × Option (ExtensionObject B)) :
    Tame ctx.maxDepth (xmlBody ctx answers found) := by
  refine enterBody_tame.bind fun name => ?_
  cases name with
  | none => exact .pure _
  | some name =>
    cases found.1 with
    | none => exact .fail _
    | some id =>
      dsimp only
      split
      · refine (onXml_tame _).bind fun raw => ?_
        cases B.bytes raw with
        | none => exact skipValue_tame.bind fun _ => .pure _
        | some raw =>
          exact (onOwnBytes_tame (loadFromBinary_tame tame id _)).bind fun _ =>
            skipValue_tame.bind fun _ => .pure _
      · exact (tame (.loadFromXml id name)).bind fun _ => skipValue_tame.bind fun _ => .pure _

theorem decodeXmlExtensionObject_tame :
    Tame ctx.maxDepth (decodeXmlExtensionObject ctx answers) := by
  refine (iterChildren_tame (fun found key => ?_) _).bind fun _ => .pure _
  split
  · exact (onXml_tame _).bind fun _ => .pure _
  · exact xmlBody_tame tame found
  · exact skipValue_tame.bind fun _ => .pure _

theorem loadFromXml_tame (id : B.Value .nodeId) (name : String) :
    Tame ctx.maxDepth (ctx.loadFromXml answers id name) := by
  refine tame_of_forall fun s => ?_
  unfold Context.loadFromXml
  cases ctx.loaders.findSome? fun loader => loader.loadFromXml id s.input.xml name with
  | none => exact ⟨_, Tame.fail _, rfl⟩
  | some program => exact ⟨_, (run_tame tame program).bind fun _ => .pure _, rfl⟩

theorem answer_tame : ∀ request, Tame ctx.maxDepth (answer ctx answers request)
  | .variant => (Enough.of_tame tame).decodeVariant.tame
  | .dataValue => (Enough.of_tame tame).decodeDataValue.tame
  | .diagnosticInfo => (Enough.of_tame tame).decodeDiagnosticInfo.tame
  | .extensionObject => (Enough.of_tame tame).decodeExtensionObject.tame
  | .loadFromBinary id length => loadFromBinary_tame tame id length
  | .xmlVariant => decodeXmlVariant_tame tame
  | .xmlVariantValue key => decodeXmlVariantValue_tame tame key
  | .xmlDataValue => decodeXmlDataValue_tame tame
  | .xmlDiagnosticInfo => decodeXmlDiagnosticInfo_tame tame
  | .xmlExtensionObject => decodeXmlExtensionObject_tame tame
  | .loadFromXml id name => loadFromXml_tame tame id name

end Xml

/-- **Whatever is decoded, the gauge is left as it was** and no more locks are held than allowed. -/
theorem decoders_tame (ctx : Context B) :
    ∀ levels request, Tame ctx.maxDepth (decoders ctx levels request)
  | 0, _ => Tame.exhausted
  | levels + 1, request => answer_tame (decoders_tame ctx levels) request

end AsyncOpcua.Encoding
