/-
**How deep decoders recurse.**

Each way round from a decoder to itself takes a lock, so that with `d` locks to hold no decoder goes
deeper than `3 * (d + 1)` calls. The body of an extension object in XML is another matter: what a
type loader calls there, and the XML decoders, take no lock.

* `decode_bounded` — locks are released, and recursion is bounded where no body in XML calls
  decoders.
* `xml_body_escapes` — a text of nested variants is decoded under one lock, as deep as it is long.
-/

import AsyncOpcua.Encoding.Decoders

namespace AsyncOpcua.Encoding

open Types hiding Variant DataValue
open Foundation
open Decoder Metered

variable {B : Builtins} {ctx : Context B} {answers : Answers B}

/-! ### Requests of the binary decoders -/

variable {request : Request B}

theorem Request.levels_le_of_isDecoder (decoder : request.isDecoder)
    (room : ℕ) : request.levels room ≤ 3 * room + 3 := by
  cases request with
  | variant | dataValue | diagnosticInfo | extensionObject =>
    simp only [levels]
    omega
  | _ => cases decoder

theorem Request.levels_of_isLoad (load : request.isLoad) (room : ℕ) :
    request.levels room = 3 * room + 4 := by
  cases request with
  | loadFromBinary id length => rfl
  | _ => cases load

theorem Request.isBinary_of_isDecoder (decoder : request.isDecoder) :
    request.isBinary := by
  cases request with
  | variant | dataValue | diagnosticInfo | extensionObject => rfl
  | _ => cases decoder

theorem Request.isBinary_of_isLoad (load : request.isLoad) :
    request.isBinary := by
  cases request with
  | loadFromBinary id length => rfl
  | _ => cases load

/-- **What a type loader may ask for:** the four decoders always, another load under a lock only. -/
def Program.Guarded (loads : Bool) : Program B → Prop
  | .done _ | .fail _ => True
  | .bytes _ next => ∀ raw, (next raw).Guarded loads
  | .leaf _ next => ∀ value, (next value).Guarded loads
  | .xmlLeaf _ next => ∀ value, (next value).Guarded loads
  | .xmlRaw next => ∀ raw, (next raw).Guarded loads
  | .xmlEvent next => ∀ event, (next event).Guarded loads
  | .ask request next =>
    (request.isDecoder ∨ loads ∧ request.isLoad) ∧ ∀ found, (next found).Guarded loads
  | .locked inner => inner.Guarded true

def Context.GuardedLoaders (ctx : Context B) : Prop :=
  ∀ loader ∈ ctx.loaders, ∀ id length program, loader.loadFromBinary id length = some program →
    program.Guarded false

theorem FallbackTypeLoader_guarded (options : DecodingOptions) (id : B.Value .nodeId)
    (length : Option ℕ) (program : Program B)
    (known : (FallbackTypeLoader options).loadFromBinary id length = some program) :
    program.Guarded false := by
  cases length with
  | none => cases known
  | some length =>
    simp only [FallbackTypeLoader, Option.map_some, Option.some.injEq] at known
    subst known
    split_ifs
    · trivial
    · exact fun _ => trivial

theorem StaticTypeLoader_guarded {index : Option ℕ} {binaryTypes xmlTypes : ℕ → Option (Program B)}
    (guarded : ∀ number program, binaryTypes number = some program → program.Guarded false)
    (id : B.Value .nodeId) (length : Option ℕ) (program : Program B)
    (known : (StaticTypeLoader index binaryTypes xmlTypes).loadFromBinary id length =
      some program) : program.Guarded false := by
  simp only [StaticTypeLoader, StaticTypeLoader.byNumber] at known
  split_ifs at known
  cases number : B.asU32 id with
  | none =>
    rw [number] at known
    cases known
    trivial
  | some number =>
    simp only [*] at known
    exact guarded _ _ known

/-! ### Decoders that are followed -/

/-- **The decoders, followed down so many calls,** and given up where what a type loader reads of a
body in XML calls another decoder. -/
def followed (ctx : Context B) : ℕ → Answers B
  | 0 => fun _ => Decoder.fail .unexpectedEof
  | levels + 1 => fun request =>
    match request with
    | .loadFromXml id name => ctx.loadFromXml (fun _ => Metered.exhausted) id name
    | request => answer ctx (followed ctx levels) request

/-- Following the decoders of a request, one comes to a body in XML that calls another decoder. -/
def Context.CallsInXml (ctx : Context B) (request : Request B) (s : Gauged Input) : Prop :=
  ∃ levels, followed ctx levels request s = none

/-- A program that asks for nothing does as it does where no request is answered. -/
theorem run_agrees (tame : ∀ request, Tame ctx.maxDepth (answers request)) (program : Program B)
    {room : ℕ} : Agrees ctx.maxDepth room (program.run ctx answers)
      (program.run ctx fun _ => Metered.exhausted) := by
  induction program generalizing room with
  | done | fail => exact .refl _
  | bytes count next ih =>
    exact (Agrees.refl _).bind (onBytes_tame (.readExact count)) fun raw => ih raw
  | leaf type next ih => exact (Agrees.refl _).bind (leaf_tame type) fun value => ih value
  | xmlLeaf type next ih => exact (Agrees.refl _).bind (onXml_tame _) fun value => ih value
  | xmlRaw next ih => exact (Agrees.refl _).bind (onXml_tame _) fun raw => ih raw
  | xmlEvent next ih => exact (Agrees.refl _).bind (onXml_tame _) fun event => ih event
  | ask request next ih =>
    exact (Agrees.exhausted _).bind (tame request) fun found => ih found
  | locked inner ih => exact .lock fun less _ => ih

theorem loadFromXml_agrees (tame : ∀ request, Tame ctx.maxDepth (answers request))
    (id : B.Value .nodeId) (name : String) {room : ℕ} :
    Agrees ctx.maxDepth room (ctx.loadFromXml answers id name)
      (ctx.loadFromXml (fun _ => Metered.exhausted) id name) := by
  intro s
  unfold Context.loadFromXml
  cases ctx.loaders.findSome? fun loader => loader.loadFromXml id s.input.xml name with
  | none => exact fun _ _ => rfl
  | some program =>
    exact (run_agrees tame program).bind (run_tame tame program) (fun _ => .refl _) s

/-! ### Levels are enough -/

namespace Enough

variable {others : Answers B} {levels room : ℕ} (enough : Enough ctx answers others levels)
include enough

theorem run (program : Program B) {loads : Bool} (guarded : program.Guarded loads)
    (below : 3 * room + (if loads then 4 else 3) ≤ levels) :
    Agrees ctx.maxDepth room (program.run ctx answers) (program.run ctx others) := by
  induction program generalizing loads room with
  | done | fail => exact .refl _
  | bytes count next ih =>
    exact (Agrees.refl _).bind (onBytes_tame (.readExact count)) fun raw =>
      ih raw (guarded raw) below
  | leaf type next ih =>
    exact (Agrees.refl _).bind (leaf_tame type) fun value => ih value (guarded value) below
  | xmlLeaf type next ih =>
    exact (Agrees.refl _).bind (onXml_tame _) fun value => ih value (guarded value) below
  | xmlRaw next ih =>
    exact (Agrees.refl _).bind (onXml_tame _) fun raw => ih raw (guarded raw) below
  | xmlEvent next ih =>
    exact (Agrees.refl _).bind (onXml_tame _) fun event => ih event (guarded event) below
  | ask request next ih =>
    refine (enough.agrees room request ?_ ?_).bind (enough.tame request) fun found =>
      ih found (guarded.2 found) below
    · exact guarded.1.elim Request.isBinary_of_isDecoder fun load =>
        Request.isBinary_of_isLoad load.2
    · rcases guarded.1 with decoder | ⟨rfl, load⟩
      · have most := Request.levels_le_of_isDecoder decoder room
        split at below <;> omega
      · rw [Request.levels_of_isLoad load]
        simpa using below
  | locked inner ih =>
    have inside : inner.Guarded true := guarded
    refine .lock fun less room => ih inside ?_
    split at below <;> simp only [if_true] <;> omega

theorem loadFromBinary (guarded : ctx.GuardedLoaders) (id : B.Value .nodeId) (length : Option ℕ)
    (below : 3 * room + 3 ≤ levels) :
    Agrees ctx.maxDepth room (ctx.loadFromBinary answers id length)
      (ctx.loadFromBinary others id length) := by
  unfold Context.loadFromBinary
  cases known : ctx.binaryProgram id length with
  | none => exact .refl _
  | some program =>
    obtain ⟨loader, registered, here⟩ := List.exists_of_findSome?_eq_some known
    exact (enough.run program (guarded loader registered id length program here)
      (by simpa using below)).bind (run_tame enough.tame program) fun _ => .refl _

end Enough

/-- **Levels are enough:** with its levels a request does as it is followed. -/
theorem decoders_followed (guarded : ctx.GuardedLoaders) :
    ∀ levels, Enough ctx (decoders ctx levels) (followed ctx levels) levels
  | 0 => ⟨decoders_tame ctx 0, fun room request _ below => by
      cases request <;> simp only [Request.levels] at below <;> omega⟩
  | levels + 1 => by
    have enough := decoders_followed guarded levels
    refine ⟨decoders_tame ctx (levels + 1), fun room request binary below => ?_⟩
    cases request with
    | variant => exact enough.decodeVariant.agrees room (Nat.le_of_succ_le_succ below)
    | dataValue => exact enough.decodeDataValue.agrees room (Nat.le_of_succ_le_succ below)
    | diagnosticInfo => exact enough.decodeDiagnosticInfo.agrees room (Nat.le_of_succ_le_succ below)
    | extensionObject =>
      exact enough.decodeExtensionObject.agrees room (Nat.le_of_succ_le_succ below)
    | loadFromBinary id length =>
      exact enough.loadFromBinary guarded id length
        (by simp only [Request.levels] at below; omega)
    | loadFromXml id name => exact loadFromXml_agrees enough.tame id name
    | _ => cases binary

/-- **Recursion is bounded, and locks are released:** whatever one of the four decoders is given, it
leaves the gauge as it was and never holds more locks than allowed; and where no body in XML that it
comes to calls another decoder, it goes no deeper than three calls for each lock there is room for,
and three more. -/
theorem decode_bounded (ctx : Context B) (guarded : ctx.GuardedLoaders) (request : Request B)
    (decoder : request.isDecoder) (s : Gauged Input) :
    (∀ levels result t, decoders ctx levels request s = some (result, t) →
      t.depth = s.depth ∧ t.peak ≤ max s.peak ctx.maxDepth) ∧
    (¬ ctx.CallsInXml request s →
      decoders ctx (3 * (ctx.maxDepth - s.depth + 1)) request s ≠ none) := by
  constructor
  · intro levels result t run
    have tame := decoders_tame ctx levels request
    exact ⟨tame.released run, tame.bounded run⟩
  · intro outside
    have most := Request.levels_le_of_isDecoder decoder (ctx.maxDepth - s.depth)
    have answered : followed ctx (3 * (ctx.maxDepth - s.depth + 1)) request s ≠ none :=
      fun stuck => outside ⟨_, stuck⟩
    rwa [(decoders_followed guarded _).agrees (ctx.maxDepth - s.depth) request
      (Request.isBinary_of_isDecoder decoder) (by omega) s (by omega) answered]

/-! ### A body in XML -/

variable {s : Gauged Input}

theorem decodeExtensionObject_none {id : B.Value .nodeId} {body : List UInt8}
    (room : s.depth < ctx.maxDepth)
    (header : B.decode .nodeId s.input.bytes = .ok (id, 2 :: body))
    (stuck : ∀ t : Gauged Input, t.input.bytes = body → decodeXmlBody ctx answers id t = none) :
    decodeExtensionObject ctx answers s = none := by
  refine lock_none room ?_
  refine (bind_ok (by simp only [onBytes, Metered.read, header]; rfl)).trans ?_
  refine (bind_ok (a := 2) (by simp only [onBytes, Metered.read, readU8]; rfl)).trans ?_
  exact stuck _ rfl

theorem decodeXmlBody_none {id : B.Value .nodeId} {text name : String} {events : List XmlEvent}
    {left : List UInt8} (xml : ctx.xmlFeature = true)
    (read : UAString.decode ctx.options s.input.bytes = .ok (some text, left))
    (first : enterFirstTag (ctx.lex text) = .ok (some name, events))
    (stuck : ∀ t : Gauged Input, t.input.xml = events → answers (.loadFromXml id name) t = none) :
    decodeXmlBody ctx answers id s = none := by
  unfold decodeXmlBody
  rw [if_pos xml]
  refine (bind_ok (by simp only [onBytes, Metered.read, read]; rfl)).trans ?_
  refine within_none ((bind_ok (a := some name)
    (by simp only [onXml, Metered.read, first]; rfl)).trans ?_)
  exact stuck _ rfl

theorem getFirstChild_none {A : Type} {decode : String → Decoder A} {name : String}
    {rest : List XmlEvent} (begins : s.input.xml = .start name :: rest)
    (stuck : decode name { s with input := { s.input with xml := rest } } = none) :
    getFirstChild decode s = none := by
  unfold getFirstChild iterChildren iterChildrenIncludeEmpty iterEvents
  have event : onXml nextEvent s =
      some (.ok (some (.start name)), { s with input := { s.input with xml := rest } }) := by
    simp [onXml, Metered.read, begins, nextEvent]
  rw [bind_ok event]
  exact bind_none (bind_none stuck)

theorem decodeXmlVariantValue_variant (answers : Answers B) :
    decodeXmlVariantValue answers "Variant" = do return .variant (← answers .xmlVariant) := by
  have list : ¬ "Variant".startsWith "ListOf" := by decide +kernel
  have matrix : ¬ "Variant" = "Matrix" := by decide +kernel
  have known : VariantScalarTypeId.fromXmlName "Variant" = some .variant := by decide +kernel
  unfold decodeXmlVariantValue xmlScalar
  rw [if_neg list, if_neg matrix, known]

/-- **Variants in each other are decoded as deep as they are nested,** two calls each. -/
theorem nestedVariants_none (ctx : Context B) : ∀ (count levels : ℕ), levels ≤ 2 * count →
    ∀ (s : Gauged Input) (rest : List XmlEvent),
      s.input.xml = List.replicate count (.start "Variant") ++ rest →
      decoders ctx levels .xmlVariant s = none := by
  intro count
  induction count with
  | zero =>
    intro levels few s rest _
    obtain rfl : levels = 0 := by omega
    rfl
  | succ count ih =>
    intro levels few s rest begins
    match levels with
    | 0 => rfl
    | 1 => exact bind_none (getFirstChild_none begins rfl)
    | levels + 2 =>
      refine bind_none (getFirstChild_none begins ?_)
      show decodeXmlVariantValue (decoders ctx levels) "Variant" _ = none
      rw [decodeXmlVariantValue_variant]
      exact bind_none (ih levels (by omega) _ rest rfl)

/-- Variants in each other, `count` deep. -/
def nestedVariants : ℕ → String
  | 0 => ""
  | count + 1 => "<Variant>" ++ nestedVariants count ++ "</Variant>"

def nestedBody (count : ℕ) : String :=
  "<LiteralOperand><Value>" ++ nestedVariants count ++ "</Value></LiteralOperand>"

/-- What a reader meets in the body. -/
def nestedEvents (count : ℕ) : List XmlEvent :=
  .start "LiteralOperand" :: .start "Value" ::
    (List.replicate count (.start "Variant") ++ List.replicate (count + 2) .stop)

/-- A reader of these bodies. -/
def lexNested (text : String) : List XmlEvent :=
  ((List.range text.utf8ByteSize).find? fun count => nestedBody count = text).elim [] nestedEvents

theorem utf8ByteSize_between (opening middle closing : String) {first last : ℕ}
    (before : opening.utf8ByteSize = first) (after : closing.utf8ByteSize = last) :
    (opening ++ middle ++ closing).utf8ByteSize = middle.utf8ByteSize + (first + last) := by
  rw [String.utf8ByteSize_append, String.utf8ByteSize_append, before, after]
  omega

theorem utf8ByteSize_nestedVariants (count : ℕ) :
    (nestedVariants count).utf8ByteSize = 19 * count := by
  induction count with
  | zero => rfl
  | succ count ih =>
    have sizes := utf8ByteSize_between "<Variant>" (nestedVariants count) "</Variant>"
      (by decide +kernel : _ = 9) (by decide +kernel : _ = 10)
    exact sizes.trans (by omega)

theorem utf8ByteSize_nestedBody (count : ℕ) :
    (nestedBody count).utf8ByteSize = 19 * count + 48 := by
  have sizes := utf8ByteSize_between "<LiteralOperand><Value>" (nestedVariants count)
    "</Value></LiteralOperand>" (by decide +kernel : _ = 23) (by decide +kernel : _ = 25)
  rw [utf8ByteSize_nestedVariants] at sizes
  exact sizes

theorem lexNested_nestedBody (count : ℕ) : lexNested (nestedBody count) = nestedEvents count := by
  have found : ((List.range (nestedBody count).utf8ByteSize).find? fun other =>
      nestedBody other = nestedBody count) = some count := by
    rw [List.find?_range_eq_some]
    refine ⟨by simp, ?_, fun other less => ?_⟩
    · rw [List.mem_range, utf8ByteSize_nestedBody]
      omega
    · rw [Bool.not_eq_true', decide_eq_false_iff_not]
      intro same
      have sizes := congrArg String.utf8ByteSize same
      rw [utf8ByteSize_nestedBody, utf8ByteSize_nestedBody] at sizes
      omega
  rw [lexNested, found]
  rfl

def literalOperand : Program rawBuiltins :=
  .xmlEvent fun _ => .ask .xmlVariant fun _ => .xmlEvent fun _ => .done (⟨[1, 0, 83, 2], rfl⟩, [])

def wideOptions : DecodingOptions := ⟨4294967296, 4294967296, 4294967296⟩

def coreContext : Context rawBuiltins where
  options := wideOptions
  maxArrayLength := 1000
  maxDepth := 1
  xmlFeature := true
  lex := lexNested
  loaders := [StaticTypeLoader (some 0) (fun _ => none)
    fun number => if number = 596 then some literalOperand else none,
    FallbackTypeLoader wideOptions]

theorem coreContext_guarded : coreContext.GuardedLoaders := by
  intro loader registered id length program known
  simp only [coreContext, List.mem_cons, List.not_mem_nil, or_false] at registered
  rcases registered with rfl | rfl
  · refine StaticTypeLoader_guarded (fun number other unknown => ?_) id length program known
    cases unknown
  · exact FallbackTypeLoader_guarded _ id length program known

/-- Diagnostic infos in each other. -/
def nestedInfos : Gauged Input := ⟨⟨List.replicate 64 0x40, []⟩, 0, 0⟩

/-- A variant of an extension object with the body `<a></a>`, of a type the last loader knows. -/
def taggedObject : Gauged Input :=
  ⟨⟨[22, 1, 0, 1, 0, 2, 7, 0, 0, 0, 60, 97, 62, 60, 47, 97, 62], []⟩, 0, 0⟩

def taggedContext : Context rawBuiltins := { coreContext with lex := fun _ => [.start "a", .stop] }

/-- With one lock, diagnostic infos in each other are refused without going deep, and a body in XML
that calls no other decoder is read. -/
theorem decode_bounded_nested :
    (∀ levels result t, decoders taggedContext levels .diagnosticInfo nestedInfos =
      some (result, t) → t.depth = 0 ∧ t.peak ≤ max 0 1) ∧
    decoders taggedContext 6 .diagnosticInfo nestedInfos ≠ none ∧
    decoders taggedContext 6 .variant taggedObject ≠ none := by
  have infos := decode_bounded taggedContext coreContext_guarded .diagnosticInfo rfl nestedInfos
  refine ⟨infos.1, infos.2 ?_,
    (decode_bounded taggedContext coreContext_guarded .variant rfl taggedObject).2 ?_⟩
  · rintro ⟨levels, stuck⟩
    match levels with
    | 0 | 1 | levels + 2 => cases stuck
  · rintro ⟨levels, stuck⟩
    match levels with
    | 0 | 1 | 2 | levels + 3 => cases stuck

def nestedObject (count : ℕ) : List UInt8 :=
  [1, 0, 84, 2] ++ 2 :: UAString.encode (some (nestedBody count))

/-- **A text of nested variants is decoded under one lock,** as deep as it is long. -/
theorem nestedObject_none {count levels : ℕ} (few : levels ≤ 2 * count + 2)
    (fits : 19 * count + 48 < 2147483648) :
    decoders coreContext levels .extensionObject ⟨⟨nestedObject count, []⟩, 0, 0⟩ = none := by
  have size : (toUtf8 (nestedBody count)).length = 19 * count + 48 := by
    rw [length_toUtf8, utf8ByteSize_nestedBody]
  have most : coreContext.options.maxStringLength = 4294967296 := rfl
  have body : UAString.decode coreContext.options (UAString.encode (some (nestedBody count))) =
      .ok (some (nestedBody count), []) := by
    have short : (toUtf8 (nestedBody count)).length ≤ coreContext.options.maxStringLength := by
      omega
    have reads := UAString.decode_encode_some short (by omega) []
    rwa [List.append_nil] at reads
  match levels with
  | 0 => rfl
  | levels + 1 =>
    rw [decoders_extensionObject]
    have header : rawBuiltins.decode .nodeId (nestedObject count) =
        .ok (⟨[1, 0, 84, 2], rfl⟩, 2 :: UAString.encode (some (nestedBody count))) := rfl
    refine decodeExtensionObject_none Nat.zero_lt_one header fun t here => ?_
    refine decodeXmlBody_none rfl (by rw [here]; exact body)
      (by show enterFirstTag (lexNested _) = _; rw [lexNested_nestedBody]; rfl) fun u events => ?_
    match levels with
    | 0 => rfl
    | levels + 1 =>
      -- The loader knows the type: its program is in the value of the operand.
      refine bind_none ((bind_ok (a := some (.start "Value"))
        (by simp only [onXml, Metered.read, events]; rfl)).trans ?_)
      exact bind_none (nestedVariants_none coreContext count levels (by omega) _ _ rfl)

/-- **No number of calls for each lock is enough for XML:** with one lock, and up to a hundred
million calls for it, some extension object is decoded deeper. -/
theorem xml_body_escapes : ¬ ∃ calls ≤ 100000000, ∀ bytes : List UInt8,
    decoders coreContext (calls * (coreContext.maxDepth + 1)) .extensionObject
      ⟨⟨bytes, []⟩, 0, 0⟩ ≠ none := by
  rintro ⟨calls, few, bounded⟩
  refine bounded (nestedObject calls) (nestedObject_none ?_ (by omega))
  show calls * (1 + 1) ≤ 2 * calls + 2
  omega

end AsyncOpcua.Encoding
