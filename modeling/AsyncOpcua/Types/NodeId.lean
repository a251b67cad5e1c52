/-
**Identifiers of nodes, their names and their classes.**
-/

import AsyncOpcua.Types.Encoding

namespace AsyncOpcua.Types

/-- What identifies a node within its namespace. -/
inductive Identifier where
  | numeric (value : UInt32)
  | string (value : UAString)
  | guid (value : BitVec 128)
  | byteString (value : ByteString)
  deriving DecidableEq

structure NodeId where
  namespaceIndex : UInt16
  identifier : Identifier
  deriving DecidableEq

namespace NodeId

/-- A node of the OPC UA namespace. -/
def standard (value : UInt32) : NodeId := ⟨0, .numeric value⟩

def isNull (nodeId : NodeId) : Bool :=
  nodeId.namespaceIndex == 0 && nodeId.identifier == .numeric 0

def text (guid : BitVec 128 → String) (base64 : ByteString → String) (nodeId : NodeId) : String :=
  let identifier :=
    match nodeId.identifier with
    | .numeric value => "i=" ++ toString value.toNat
    | .string value => "s=" ++ value.getD "[null]"
    | .guid value => "g=" ++ guid value
    | .byteString value => "b=" ++ base64 value
  if nodeId.namespaceIndex ≠ 0 then
    "ns=" ++ toString nodeId.namespaceIndex.toNat ++ ";" ++ identifier
  else identifier

def BaseDataType : NodeId := .standard 24
def References : NodeId := .standard 31
def BaseObjectType : NodeId := .standard 58
def BaseVariableType : NodeId := .standard 62

end NodeId

structure QualifiedName where
  namespaceIndex : UInt16
  name : UAString
  deriving DecidableEq

inductive NodeClass where
  | unspecified
  | object
  | variable
  | method
  | objectType
  | variableType
  | referenceType
  | dataType
  | view
  deriving DecidableEq

namespace NodeClass

/-- The number of a class, which is its bit in a mask of classes. -/
def value : NodeClass → BitVec 32
  | .unspecified => 0
  | .object => 1
  | .variable => 2
  | .method => 4
  | .objectType => 8
  | .variableType => 16
  | .referenceType => 32
  | .dataType => 64
  | .view => 128

end NodeClass

end AsyncOpcua.Types
