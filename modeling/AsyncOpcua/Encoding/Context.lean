/-
**What decoders work with: requests to each other, type loaders, and the context.**

The decoders call each other, and the type loaders call them. Each such call is a `Request`; what
answers requests is a parameter here, so that a decoder reads as its source does. A type loader
gives a `Program`, which reads, asks, and ends with a body.

* `Program.run` — a program, where requests are answered.
-/

import AsyncOpcua.Encoding.Variant
import AsyncOpcua.Foundation.DepthGauge

namespace AsyncOpcua.Encoding

open Types hiding Variant DataValue
open Foundation

variable {B : Builtins}

/-! ### Requests -/

/-- A call of a decoder that may call others in turn. -/
inductive Request (B : Builtins)
  | variant
  | dataValue
  | diagnosticInfo
  | extensionObject
  | loadFromBinary (id : B.Value .nodeId) (length : Option ℕ)
  | xmlVariant
  | xmlVariantValue (key : String)
  | xmlDataValue
  | xmlDiagnosticInfo
  | xmlExtensionObject
  | loadFromXml (id : B.Value .nodeId) (name : String)

/-- What a decoder gives back. -/
@[reducible] def Request.Answer : Request B → Type
  | .variant | .xmlVariant | .xmlVariantValue _ => Variant B
  | .dataValue | .xmlDataValue => DataValue B (Variant B)
  | .diagnosticInfo | .xmlDiagnosticInfo => DiagnosticInfo B
  | .extensionObject | .xmlExtensionObject | .loadFromBinary _ _ | .loadFromXml _ _ =>
    ExtensionObject B

/-- The bytes and the XML document that are being read. -/
structure Input where
  bytes : List UInt8
  xml : List XmlEvent

/-- What is left of the bytes is an end of them. -/
instance : Preorder Input where
  le after before := after.bytes <:+ before.bytes
  le_refl _ := List.suffix_refl _
  le_trans _ _ _ first second := first.trans second

abbrev Decoder (α : Type) := Metered Input Error α

abbrev Answers (B : Builtins) := (request : Request B) → Decoder request.Answer

namespace Decoder

def fail {α : Type} (error : Error) : Decoder α := Metered.fail error

def onBytes {α : Type} (reader : Reader α) : Decoder α := Metered.read fun input =>
  match reader input.bytes with
  | .ok (a, rest) => .ok (a, { input with bytes := rest })
  | .error error => .error error

/-- A step on the XML document. -/
def onXml {α : Type} (reader : XmlReader α) : Decoder α := Metered.read fun input =>
  match reader input.xml with
  | .ok (a, rest) => .ok (a, { input with xml := rest })
  | .error error => .error error

def onOwnBytes {α : Type} (bytes : List UInt8) (body : Decoder α) : Decoder α :=
  Metered.within (fun input => { input with bytes := bytes })
    (fun before after => { after with bytes := before.bytes }) body

def onOwnXml {α : Type} (events : List XmlEvent) (body : Decoder α) : Decoder α :=
  Metered.within (fun input => { input with xml := events }) (fun before _ => before) body

end Decoder

/-! ### Type loaders -/

inductive Program (B : Builtins)
  | done (body : B.Body)
  | fail (error : Error)
  | bytes (count : ℕ) (next : List UInt8 → Program B)
  | leaf (type : LeafType) (next : B.Value type → Program B)
  | xmlLeaf (type : LeafType) (next : B.Value type → Program B)
  | xmlRaw (next : List UInt8 → Program B)
  | xmlEvent (next : Option XmlEvent → Program B)
  | ask (request : Request B) (next : request.Answer → Program B)
  | locked (inner : Program B)

structure TypeLoader (B : Builtins) where
  loadFromBinary : B.Value .nodeId → Option ℕ → Option (Program B)
  loadFromXml : B.Value .nodeId → List XmlEvent → String → Option (Program B)

structure Context (B : Builtins) where
  options : DecodingOptions
  maxArrayLength : ℕ
  maxDepth : ℕ
  xmlFeature : Bool
  /-- The events of a document. -/
  lex : String → List XmlEvent
  loaders : List (TypeLoader B)

/-- `XmlStreamReader::next_event`: there is none at the end of the document. -/
def nextEvent : XmlReader (Option XmlEvent)
  | [] => .ok (none, [])
  | .failed error :: _ => .error error
  | event :: rest => .ok (some event, rest)

def depthLock {α : Type} (ctx : Context B) (body : Decoder α) : Decoder α :=
  Metered.lock ctx.maxDepth
    (.decoding "Decoding in stream aborted due maximum recursion depth being reached") body

def Program.run (ctx : Context B) (answers : Answers B) : Program B → Decoder B.Body
  | .done body => pure body
  | .fail error => Decoder.fail error
  | .bytes count next => do (next (← Decoder.onBytes (readExact count))).run ctx answers
  | .leaf type next => do (next (← Decoder.onBytes (B.decode type))).run ctx answers
  | .xmlLeaf type next => do (next (← Decoder.onXml (B.decodeXml type))).run ctx answers
  | .xmlRaw next => do (next (← Decoder.onXml B.consumeRaw)).run ctx answers
  | .xmlEvent next => do (next (← Decoder.onXml nextEvent)).run ctx answers
  | .ask request next => do (next (← answers request)).run ctx answers
  | .locked inner => depthLock ctx (inner.run ctx answers)

def tooLong {L : Type} [ToString L] (options : DecodingOptions) (length : L) : Error :=
  let most := options.maxMessageSize
  .decoding s!"ExtensionObject body length {length} exceeds max_message_size {most}"

def FallbackTypeLoader (options : DecodingOptions) : TypeLoader B where
  loadFromBinary id length := length.map fun length =>
    if options.maxMessageSize < length then .fail (tooLong options length)
    else .bytes length fun raw => .done (B.byteStringBody raw id)
  loadFromXml id _ name := some (.xmlRaw fun raw => .done (B.xmlBody raw id name))

def StaticTypeLoader (index : Option ℕ) (binaryTypes xmlTypes : ℕ → Option (Program B)) :
    TypeLoader B where
  loadFromBinary id _ := byNumber index id binaryTypes
  loadFromXml id _ _ := byNumber index id xmlTypes
where
  /-- The entry under the number of an id in the namespace. -/
  byNumber (index : Option ℕ) (id : B.Value .nodeId) (types : ℕ → Option (Program B)) :
      Option (Program B) :=
    if index = some (B.namespaceOf id) then
      match B.asU32 id with
      | some number => types number
      | none => some (.fail (.decoding
          "Unsupported encoding ID. Only numeric encoding IDs are currently supported"))
    else none

/-- The program of the first loader that knows the type. -/
def Context.binaryProgram (ctx : Context B) (id : B.Value .nodeId) (length : Option ℕ) :
    Option (Program B) :=
  ctx.loaders.findSome? fun loader => loader.loadFromBinary id length

def Context.loadFromBinary (ctx : Context B) (answers : Answers B) (id : B.Value .nodeId)
    (length : Option ℕ) : Decoder (ExtensionObject B) :=
  match ctx.binaryProgram id length with
  | some program => do return some (← program.run ctx answers)
  | none => Decoder.fail (.decoding s!"No type loader defined for {B.nodeIdText id}")

end AsyncOpcua.Encoding
