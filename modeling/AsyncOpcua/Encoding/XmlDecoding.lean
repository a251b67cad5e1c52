/-
**The XML decoders.**

They read the events of a document. The name of an element says what is in it; the decoder of an
element takes its events up to the one that closes it. None of them takes a lock.
-/

import AsyncOpcua.Encoding.Decoding

namespace AsyncOpcua.Encoding

open Types hiding Variant DataValue
open Decoder

variable {B : Builtins}

/-! ### Elements -/

/-- The events after the one that closes an element of `depth` elements. -/
def skipElements : ℕ → XmlReader Unit
  | depth, [] => if depth = 1 then .ok ((), []) else .error (.decoding "Unexpected EOF")
  | depth, .start _ :: rest => skipElements (depth + 1) rest
  | depth, .stop :: rest => if depth = 1 then .ok ((), rest) else skipElements (depth - 1) rest
  | _, .failed error :: _ => .error error
  | depth, _ :: rest => skipElements depth rest

/-- `XmlStreamReader::skip_value`. -/
def skipValue : Decoder Unit := onXml (skipElements 1)

section Children

variable {A : Type} (process : A → String → Bool → Decoder A)

/-- The children of an element, at most so many; each event is one less. -/
def iterEvents : ℕ → A → Decoder A
  | 0, found => pure found
  | fuel + 1, found => do
    match ← onXml nextEvent with
    | some (.start name) => iterEvents fuel (← process found name true)
    | some (.empty name) => iterEvents fuel (← process found name false)
    | some .stop | none => return found
    | some _ => iterEvents fuel found

def iterChildrenIncludeEmpty (found : A) : Decoder A := fun s =>
  iterEvents process (s.input.xml.length + 1) found s

end Children

/-- `iter_children`: closed elements are passed over. -/
def iterChildren {A : Type} (process : A → String → Decoder A) (found : A) : Decoder A :=
  iterChildrenIncludeEmpty (fun found key hasReader =>
    if hasReader then process found key else pure found) found

def getFirstChild {A : Type} (decode : String → Decoder A) : Decoder (Option A) :=
  iterChildren (fun found key =>
    match found with
    | none => do return some (← decode key)
    | some a => do
      skipValue
      return some a) none

/-! ### Variants -/

def LeafType.xmlName : LeafType → String
  | .boolean => "Boolean" | .sByte => "SByte" | .byte => "Byte" | .int16 => "Int16"
  | .uInt16 => "UInt16" | .int32 => "Int32" | .uInt32 => "UInt32" | .int64 => "Int64"
  | .uInt64 => "UInt64" | .float => "Float" | .double => "Double" | .string => "String"
  | .dateTime => "DateTime" | .guid => "Guid" | .byteString => "ByteString"
  | .xmlElement => "XmlElement" | .nodeId => "NodeId" | .expandedNodeId => "ExpandedNodeId"
  | .statusCode => "StatusCode" | .qualifiedName => "QualifiedName"
  | .localizedText => "LocalizedText"

namespace VariantScalarTypeId

def xmlName : VariantScalarTypeId → String
  | .leaf type => type.xmlName
  | .extensionObject => "ExtensionObject"
  | .dataValue => "DataValue"
  | .variant => "Variant"
  | .diagnosticInfo => "DiagnosticInfo"

def fromXmlName (name : String) : Option VariantScalarTypeId := all.find? (·.xmlName = name)

end VariantScalarTypeId

/-- The default of a type, which a closed element stands for. -/
def getVariantDefault : VariantScalarTypeId → Variant B
  | .leaf type => .scalar type (B.default type)
  | .extensionObject => .extensionObject none
  | .dataValue => .dataValue ⟨none, none, none, none, none, none⟩
  | .variant => .variant .empty
  | .diagnosticInfo => .diagnosticInfo (.mk ⟨none, none, none, none, none, none⟩ none)

def invalidContents (key : String) : Error := .decoding s!"Invalid variant contents: {key}"

variable (answers : Answers B)

/-- The elements of an array or a matrix, last first. -/
def xmlElements (found : List (Variant B)) : Decoder (List (Variant B)) :=
  iterChildrenIncludeEmpty (fun found key hasReader =>
    if hasReader then do return (← answers (.xmlVariantValue key)) :: found
    else
      match VariantScalarTypeId.fromXmlName key with
      | some type => pure (getVariantDefault type :: found)
      | none => fail (invalidContents key)) found

/-- `Vec::<i32>::decode`, last first. -/
def xmlDimensions : Decoder (List ℤ) :=
  iterChildrenIncludeEmpty (fun found _ hasReader =>
    if hasReader then do return B.int32 (← onXml (B.decodeXml .int32)) :: found
    else pure (0 :: found)) []

def xmlMatrix : Decoder (List ℤ × List (Variant B)) :=
  iterChildren (fun found key =>
    if key = "Dimensions" then do return (← xmlDimensions (B := B), found.2)
    else if key = "Elements" then do return (found.1, ← xmlElements answers found.2)
    else fail (.decoding s!"Invalid field in Matrix content: {key}")) ([], [])

def scalarTypeId (v : Variant B) : Option VariantScalarTypeId :=
  match v.typeId with
  | .empty => none
  | .scalar type | .array type _ => some type

/-- An element of one of the scalar types. -/
def xmlScalar (key : String) : Decoder (Variant B) :=
  match VariantScalarTypeId.fromXmlName key with
  | some (.leaf type) => do return .scalar type (← onXml (B.decodeXml type))
  | some .extensionObject => do return .extensionObject (← answers .xmlExtensionObject)
  | some .dataValue => do return .dataValue (← answers .xmlDataValue)
  | some .variant => do return .variant (← answers .xmlVariant)
  | some .diagnosticInfo => do return .diagnosticInfo (← answers .xmlDiagnosticInfo)
  | none => fail (.decoding s!"Invalid variant type {key}")

def decodeXmlVariantValue (key : String) : Decoder (Variant B) :=
  if key.startsWith "ListOf" then
    match VariantScalarTypeId.fromXmlName (key.drop 6).toString with
    | none => fail (invalidContents key)
    | some type => do ofArray (Array.new type (← xmlElements answers []).reverse)
  else if key = "Matrix" then do
    let (dimensions, elements) ← xmlMatrix answers
    let elements := elements.reverse
    let type := (elements.head?.bind scalarTypeId).getD (.leaf .int32)
    if dimensions.any (· < 0) then
      fail (.decoding "Invalid array dimensions, must all be non-negative")
    else
      ofArray (Array.newMulti type elements
        (dimensions.reverse.map fun dimension => .ofNat dimension.toNat))
  else xmlScalar answers key

def decodeXmlVariant : Decoder (Variant B) := do
  return (← getFirstChild fun key => answers (.xmlVariantValue key)).getD .empty

/-! ### Data values, diagnostic infos and extension objects -/

def decodeXmlDataValue : Decoder (DataValue B (Variant B)) :=
  iterChildren (fun found key =>
    match key with
    | "Value" => do return { found with value := some (← answers .xmlVariant) }
    | "StatusCode" => do
      return { found with status := some (← onXml (B.decodeXml .statusCode)) }
    | "SourceTimestamp" => do
      return { found with sourceTimestamp := some (← onXml (B.decodeXml .dateTime)) }
    | "SourcePicoseconds" => do
      return { found with sourcePicoseconds := some (B.uInt16 (← onXml (B.decodeXml .uInt16))) }
    | "ServerTimestamp" => do
      return { found with serverTimestamp := some (← onXml (B.decodeXml .dateTime)) }
    | "ServerPicoseconds" => do
      return { found with serverPicoseconds := some (B.uInt16 (← onXml (B.decodeXml .uInt16))) }
    | _ => do
      skipValue
      return found) ⟨none, none, none, none, none, none⟩

def decodeXmlDiagnosticInfo : Decoder (DiagnosticInfo B) := do
  let (fields, inner) ← iterChildren (fun (found : DiagnosticFields B × Option _) key =>
    match key with
    | "SymbolicId" => do
      return ({ found.1 with symbolicId := some (← onXml (B.decodeXml .int32)) }, found.2)
    | "NamespaceUri" => do
      return ({ found.1 with namespaceUri := some (← onXml (B.decodeXml .int32)) }, found.2)
    | "Locale" => do
      return ({ found.1 with locale := some (← onXml (B.decodeXml .int32)) }, found.2)
    | "LocalizedText" => do
      return ({ found.1 with localizedText := some (← onXml (B.decodeXml .int32)) }, found.2)
    | "AdditionalInfo" => do
      return ({ found.1 with additionalInfo := some (← onXml (B.decodeXml .string)) }, found.2)
    | "InnerStatusCode" => do
      return ({ found.1 with innerStatusCode := some (← onXml (B.decodeXml .statusCode)) },
        found.2)
    | "InnerDiagnosticInfo" => do return (found.1, some (← answers .xmlDiagnosticInfo))
    | _ => do
      skipValue
      return found) (⟨none, none, none, none, none, none⟩, none)
  return .mk fields inner

/-- The events up to the first element of a body. At the end of the document the source goes on
asking for the next event. -/
def firstElement : List XmlEvent → Option (Except Error (Option String × List XmlEvent))
  | [] => none
  | .failed error :: _ => some (.error error)
  | .start name :: rest => some (.ok (some name, rest))
  | .stop :: rest => some (.ok (none, rest))
  | _ :: rest => firstElement rest

def enterBody : Decoder (Option String) := fun s =>
  match firstElement s.input.xml with
  | none => none
  | some (.error error) => fail error s
  | some (.ok (name, rest)) => some (.ok name, { s with input := { s.input with xml := rest } })

def xmlBody (ctx : Context B) (answers : Answers B)
    (found : Option (B.Value .nodeId) × Option (ExtensionObject B)) :
    Decoder (Option (B.Value .nodeId) × Option (ExtensionObject B)) := do
  match ← enterBody with
  | none => return found
  | some name =>
    match found.1 with
    | none => fail (.decoding "Missing type ID in extension object")
    | some id =>
      if name = "ByteString" then
        -- A byte string is a binary body, with bytes of its own.
        match B.bytes (← onXml (B.decodeXml .byteString)) with
        | none =>
          skipValue
          return (none, found.2)
        | some raw =>
          let body ← onOwnBytes raw (ctx.loadFromBinary answers id (some raw.length))
          skipValue
          return (none, some body)
      else
        let body ← answers (.loadFromXml id name)
        skipValue
        return (none, some body)

def decodeXmlExtensionObject (ctx : Context B) (answers : Answers B) :
    Decoder (ExtensionObject B) := do
  let (_, body) ← iterChildren (fun found key =>
    match key with
    | "TypeId" => do return (some (← onXml (B.decodeXml .nodeId)), found.2)
    | "Body" => xmlBody ctx answers found
    | _ => do
      skipValue
      return found) (none, none)
  return body.getD none

def Context.loadFromXml (ctx : Context B) (answers : Answers B) (id : B.Value .nodeId)
    (name : String) : Decoder (ExtensionObject B) := fun s =>
  match ctx.loaders.findSome? fun loader => loader.loadFromXml id s.input.xml name with
  | some program => (do return some (← program.run ctx answers) : Decoder _) s
  | none => fail (.decoding s!"No type loader defined for {B.nodeIdText id}") s

end AsyncOpcua.Encoding
