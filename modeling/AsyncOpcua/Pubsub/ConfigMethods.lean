/-
**The writable configuration: connections with their groups, writers and readers, and the Methods
that add and remove them.**

Every entity of the configuration is reflected as an object of the address space, under a NodeId
that is made of the connection's id and its own. The Methods find the entity that they are called
on, and the one that they remove, by these NodeIds.

* `PubSubConnectionConfig.fromDataType` — a connection with all that is nested in it;
* `nextId` — the id after the highest one in use;
* `reflected` — the reflected objects, each with the objects that it is within.
-/

import AsyncOpcua.Foundation.Place
import AsyncOpcua.Foundation.Transition
import AsyncOpcua.Types.NodeId

namespace AsyncOpcua.Pubsub

open Foundation
open Types hiding Variant DataValue

/-! ### The arguments of the Methods -/

structure DataSetWriterDataType where
  dataSetWriterId : UInt16
  dataSetName : UAString

structure WriterGroupDataType where
  writerGroupId : UInt16
  dataSetWriters : Option (List DataSetWriterDataType)

structure DataSetReaderDataType where
  dataSetWriterId : UInt16

structure ReaderGroupDataType where
  dataSetReaders : Option (List DataSetReaderDataType)

structure PubSubConnectionDataType where
  name : UAString
  writerGroups : Option (List WriterGroupDataType)
  readerGroups : Option (List ReaderGroupDataType)

inductive Argument
  | connection (configuration : PubSubConnectionDataType)
  | writerGroup (configuration : WriterGroupDataType)
  | readerGroup (configuration : ReaderGroupDataType)
  | dataSetWriter (configuration : DataSetWriterDataType)
  | dataSetReader (configuration : DataSetReaderDataType)
  | nodeId (id : NodeId)
  | other

namespace Argument

def asConnection : Argument → Option PubSubConnectionDataType
  | connection configuration => some configuration
  | _ => none

def asWriterGroup : Argument → Option WriterGroupDataType
  | writerGroup configuration => some configuration
  | _ => none

def asReaderGroup : Argument → Option ReaderGroupDataType
  | readerGroup configuration => some configuration
  | _ => none

def asDataSetWriter : Argument → Option DataSetWriterDataType
  | dataSetWriter configuration => some configuration
  | _ => none

def asDataSetReader : Argument → Option DataSetReaderDataType
  | dataSetReader configuration => some configuration
  | _ => none

def asNodeId : Argument → Option NodeId
  | nodeId id => some id
  | _ => none

end Argument

/-- `decode_argument` and `decode_node_id_argument`: only the first argument is read. -/
def decodeArgument {α : Type} (inner : Argument → Option α) (args : List Argument) :
    Except StatusCode α :=
  match args with
  | [] => .error .BadArgumentsMissing
  | argument :: _ =>
    match inner argument with
    | none => .error .BadInvalidArgument
    | some value => .ok value

def okOrUnknown {α : Type} : Option α → Except StatusCode α
  | none => .error .BadNodeIdUnknown
  | some value => .ok value

/-! ### The configuration -/

structure DataSetWriterConfig where
  datasetWriterId : UInt16
  datasetName : String

structure WriterGroupConfig where
  writerGroupId : UInt16
  datasetWriters : List DataSetWriterConfig

structure DataSetReaderConfig where
  datasetReaderId : UInt16
  datasetWriterId : UInt16

structure ReaderGroupConfig where
  readerGroupId : UInt16
  datasetReaders : List DataSetReaderConfig

structure PubSubConnectionConfig where
  connectionId : String
  name : String
  writerGroups : List WriterGroupConfig
  readerGroups : List ReaderGroupConfig

def uaStringToString (value : UAString) : String := value.getD "[null]"

/-- The last id stands for all indices that have no id of their own. -/
def oneBasedU16Id (index : ℕ) : UInt16 :=
  if index + 1 ≤ 65535 then UInt16.ofNat (index + 1) else 65535

def DataSetWriterConfig.fromDataType (value : DataSetWriterDataType) : DataSetWriterConfig where
  datasetWriterId := value.dataSetWriterId
  datasetName := uaStringToString value.dataSetName

def WriterGroupConfig.fromDataType (value : WriterGroupDataType) : WriterGroupConfig where
  writerGroupId := value.writerGroupId
  datasetWriters := (value.dataSetWriters.getD []).map DataSetWriterConfig.fromDataType

def DataSetReaderConfig.fromDataType (value : DataSetReaderDataType) (datasetReaderId : UInt16) :
    DataSetReaderConfig where
  datasetReaderId := datasetReaderId
  datasetWriterId := value.dataSetWriterId

def ReaderGroupConfig.fromDataType (value : ReaderGroupDataType) (readerGroupId : UInt16) :
    ReaderGroupConfig where
  readerGroupId := readerGroupId
  datasetReaders := (value.dataSetReaders.getD []).mapIdx fun index reader =>
    DataSetReaderConfig.fromDataType reader (oneBasedU16Id index)

def PubSubConnectionConfig.fromDataType (value : PubSubConnectionDataType) (connectionId : String) :
    PubSubConnectionConfig where
  connectionId := connectionId
  name := uaStringToString value.name
  writerGroups := (value.writerGroups.getD []).map WriterGroupConfig.fromDataType
  readerGroups := (value.readerGroups.getD []).mapIdx fun index readerGroup =>
    ReaderGroupConfig.fromDataType readerGroup (oneBasedU16Id index)

namespace PubSubConnectionConfig

variable (connection : PubSubConnectionConfig)

def writerGroupIds : List UInt16 :=
  connection.writerGroups.map (·.writerGroupId)

def datasetWriterIds : List UInt16 :=
  connection.writerGroups.flatMap fun group => group.datasetWriters.map (·.datasetWriterId)

def readerGroupIds : List UInt16 :=
  connection.readerGroups.map (·.readerGroupId)

def datasetReaderIds : List UInt16 :=
  connection.readerGroups.flatMap fun group => group.datasetReaders.map (·.datasetReaderId)

end PubSubConnectionConfig

/-! ### New ids -/

/-- `saturating_add(1)`. -/
def saturatingSucc (id : UInt16) : UInt16 := if id = 65535 then 65535 else id + 1

def nextId (existing : List UInt16) : UInt16 :=
  match existing.max? with
  | none => 1
  | some max => saturatingSucc max

def writerGroupIdTaken (connection : PubSubConnectionConfig) (id : UInt16) : Bool :=
  connection.writerGroupIds.any (· == id)

def datasetWriterIdTaken (connection : PubSubConnectionConfig) (id : UInt16) : Bool :=
  connection.datasetWriterIds.any (· == id)

def nextWriterGroupId (connection : PubSubConnectionConfig) : UInt16 :=
  nextId connection.writerGroupIds

def nextReaderGroupId (connection : PubSubConnectionConfig) : UInt16 :=
  nextId connection.readerGroupIds

def nextDatasetWriterId (connection : PubSubConnectionConfig) : UInt16 :=
  nextId connection.datasetWriterIds

def nextDatasetReaderId (connection : PubSubConnectionConfig) : UInt16 :=
  nextId connection.datasetReaderIds

/-- The loop over the writers, or the readers, of a new group: each is given the next id. -/
def renumber {α : Type} (give : α → UInt16 → α) (next : UInt16) : List α → List α
  | [] => []
  | x :: xs => give x next :: renumber give (saturatingSucc next) xs

/-! ### NodeIds -/

variable (namespaceIndex : UInt16)

def stringNodeId (text : String) : NodeId :=
  ⟨namespaceIndex, .string (some text)⟩

def connectionNodeId (connectionId : String) : NodeId :=
  stringNodeId namespaceIndex ("PubSubConnection:" ++ connectionId)

def entityNodeId (kind : String) (namespaceIndex : UInt16) (connectionId : String) (id : UInt16) :
    NodeId :=
  stringNodeId namespaceIndex (kind ++ ":" ++ connectionId ++ ":" ++ id.toNat.repr)

def propertyNodeId (kind : String) (namespaceIndex : UInt16) (connectionId : String) (id : UInt16) :
    NodeId :=
  stringNodeId namespaceIndex
    (kind ++ ":" ++ connectionId ++ ":" ++ id.toNat.repr ++ ":" ++ kind ++ "Id")

def writerGroupNodeId := entityNodeId "WriterGroup"
def readerGroupNodeId := entityNodeId "ReaderGroup"
def datasetWriterNodeId := entityNodeId "DataSetWriter"
def datasetReaderNodeId := entityNodeId "DataSetReader"

def writerGroupIdPropertyNodeId := propertyNodeId "WriterGroup"
def readerGroupIdPropertyNodeId := propertyNodeId "ReaderGroup"
def datasetWriterIdPropertyNodeId := propertyNodeId "DataSetWriter"
def datasetReaderIdPropertyNodeId := propertyNodeId "DataSetReader"

/-! ### Reflection -/

/-- A reflected object, with the objects that it is within: the references of the reflection lead
from its connection, through its group, to it. -/
structure Reflected where
  nodeId : NodeId
  within : List NodeId

def WriterGroupConfig.reflected (connectionId : String)
    (group : WriterGroupConfig) : List Reflected :=
  let connection := connectionNodeId namespaceIndex connectionId
  let groupId := writerGroupNodeId namespaceIndex connectionId group.writerGroupId
  ⟨groupId, [connection]⟩ :: group.datasetWriters.map fun writer =>
    ⟨datasetWriterNodeId namespaceIndex connectionId writer.datasetWriterId,
      [groupId, connection]⟩

def ReaderGroupConfig.reflected (connectionId : String)
    (group : ReaderGroupConfig) : List Reflected :=
  let connection := connectionNodeId namespaceIndex connectionId
  let groupId := readerGroupNodeId namespaceIndex connectionId group.readerGroupId
  ⟨groupId, [connection]⟩ :: group.datasetReaders.map fun reader =>
    ⟨datasetReaderNodeId namespaceIndex connectionId reader.datasetReaderId,
      [groupId, connection]⟩

def PubSubConnectionConfig.reflected (namespaceIndex : UInt16)
    (connection : PubSubConnectionConfig) : List Reflected :=
  ⟨connectionNodeId namespaceIndex connection.connectionId, []⟩ ::
    (connection.writerGroups.flatMap (·.reflected namespaceIndex connection.connectionId) ++
      connection.readerGroups.flatMap (·.reflected namespaceIndex connection.connectionId))

/-- The objects of the address space after one more, which is kept where it is already there. -/
def ensureObject (objects : List NodeId) (nodeId : NodeId) : List NodeId :=
  if nodeId ∈ objects then objects else objects ++ [nodeId]

/-- The objects of the address space after the configuration is reflected. -/
def reflectPubsubConfig (configs : List PubSubConnectionConfig)
    (objects : List NodeId) : List NodeId :=
  ((configs.flatMap (·.reflected namespaceIndex)).map (·.nodeId)).foldl ensureObject objects

def deleteDatasetWriterNodes (connectionId : String) (writer : DataSetWriterConfig) : List NodeId :=
  [datasetWriterIdPropertyNodeId namespaceIndex connectionId writer.datasetWriterId,
    datasetWriterNodeId namespaceIndex connectionId writer.datasetWriterId]

def deleteWriterGroupNodes (connectionId : String) (group : WriterGroupConfig) : List NodeId :=
  group.datasetWriters.flatMap (deleteDatasetWriterNodes namespaceIndex connectionId) ++
    [writerGroupIdPropertyNodeId namespaceIndex connectionId group.writerGroupId,
      writerGroupNodeId namespaceIndex connectionId group.writerGroupId]

def deleteDatasetReaderNodes (connectionId : String) (reader : DataSetReaderConfig) : List NodeId :=
  [datasetReaderIdPropertyNodeId namespaceIndex connectionId reader.datasetReaderId,
    datasetReaderNodeId namespaceIndex connectionId reader.datasetReaderId]

def deleteReaderGroupNodes (connectionId : String) (group : ReaderGroupConfig) : List NodeId :=
  group.datasetReaders.flatMap (deleteDatasetReaderNodes namespaceIndex connectionId) ++
    [readerGroupIdPropertyNodeId namespaceIndex connectionId group.readerGroupId,
      readerGroupNodeId namespaceIndex connectionId group.readerGroupId]

def deleteConnectionNodes (connection : PubSubConnectionConfig) : List NodeId :=
  let ns := namespaceIndex
  let connectionId := connection.connectionId
  connection.writerGroups.flatMap (deleteWriterGroupNodes ns connectionId) ++
    connection.readerGroups.flatMap (deleteReaderGroupNodes ns connectionId) ++
    [connectionNodeId ns connectionId]

/-! ### The ids of connections -/

/-- The characters of the Unicode property `White_Space`. -/
def isWhitespace (c : Char) : Bool :=
  let code := c.toNat
  (9 ≤ code && code ≤ 13) || code == 0x20 || code == 0x85 || code == 0xA0 || code == 0x1680 ||
    (0x2000 ≤ code && code ≤ 0x200A) || code == 0x2028 || code == 0x2029 || code == 0x202F ||
    code == 0x205F || code == 0x3000

def trim (text : String) : String :=
  String.ofList (((text.toList.dropWhile isWhitespace).reverse.dropWhile isWhitespace).reverse)

def connectionIdExists (connections : List PubSubConnectionConfig) (connectionId : String) : Bool :=
  connections.any (·.connectionId == connectionId)

/-- The loop over the numbers behind the name, for a number of candidates after the first. -/
def uniqueNumberedConnectionIdWithin (connections : List PubSubConnectionConfig) (base : String)
    (suffix : ℕ) : ℕ → String
  | 0 => base ++ suffix.repr
  | more + 1 =>
    if connectionIdExists connections (base ++ suffix.repr) then
      uniqueNumberedConnectionIdWithin connections base (suffix + 1) more
    else base ++ suffix.repr

/-- One of the candidates is free: there is one more of them than connections. -/
def uniqueNumberedConnectionId (connections : List PubSubConnectionConfig) (base : String)
    (firstSuffix : ℕ) : String :=
  uniqueNumberedConnectionIdWithin connections base firstSuffix connections.length

def uniqueConnectionId (connections : List PubSubConnectionConfig) (name : String) : String :=
  let base := trim name
  if base = "" then uniqueNumberedConnectionId connections "Connection" 1
  else if ¬ connectionIdExists connections base then base
  else uniqueNumberedConnectionId connections base 1

/-! ### The Methods -/

/-- **The configuration, and the objects of the address space that reflect it.** -/
structure PubSubConfiguration where
  namespaceIndex : UInt16
  connections : List PubSubConnectionConfig
  objects : List NodeId

inductive ConfigMethod
  | addConnection
  | removeConnection
  | addWriterGroup
  | addReaderGroup
  | removeGroup
  | addDatasetWriter
  | removeDatasetWriter
  | addDatasetReader
  | removeDatasetReader

structure ConfigCall where
  method : ConfigMethod
  objectId : NodeId
  args : List Argument

/-- The outputs of a Method: NodeIds. -/
abbrev Answered := Except StatusCode (PubSubConfiguration × List NodeId)

namespace PubSubConfiguration

def new (namespaceIndex : UInt16) : PubSubConfiguration := ⟨namespaceIndex, [], []⟩

def reflected (s : PubSubConfiguration) : List Reflected :=
  s.connections.flatMap (·.reflected s.namespaceIndex)

variable (s : PubSubConfiguration)

def store (connections : List PubSubConnectionConfig)
    (deleted : List NodeId) : PubSubConfiguration :=
  { s with
    connections := connections
    objects := reflectPubsubConfig s.namespaceIndex connections
      (s.objects.filter fun nodeId => nodeId ∉ deleted) }

def connectionForNode (objectId : NodeId) : Option (Place PubSubConnectionConfig Unit) :=
  locateKey (fun connection => connectionNodeId s.namespaceIndex connection.connectionId) objectId
    s.connections

def writerGroupLocation (objectId : NodeId) :
    Option (Place PubSubConnectionConfig (Place WriterGroupConfig Unit)) :=
  locate (fun connection =>
    locateKey
      (fun group => writerGroupNodeId s.namespaceIndex connection.connectionId group.writerGroupId)
      objectId connection.writerGroups) s.connections

def readerGroupLocation (objectId : NodeId) :
    Option (Place PubSubConnectionConfig (Place ReaderGroupConfig Unit)) :=
  locate (fun connection =>
    locateKey
      (fun group => readerGroupNodeId s.namespaceIndex connection.connectionId group.readerGroupId)
      objectId connection.readerGroups) s.connections

def addConnection (args : List Argument) : Answered := do
  let configuration ← decodeArgument Argument.asConnection args
  let connectionId := uniqueConnectionId s.connections (uaStringToString configuration.name)
  let connection := PubSubConnectionConfig.fromDataType configuration connectionId
  .ok (s.store (s.connections ++ [connection]) [], [connectionNodeId s.namespaceIndex connectionId])

def removeConnection (args : List Argument) : Answered := do
  let nodeId ← decodeArgument Argument.asNodeId args
  let place ← okOrUnknown (s.connectionForNode nodeId)
  .ok (s.store place.remove (deleteConnectionNodes s.namespaceIndex place.here), [])

def newWriterGroup (connection : PubSubConnectionConfig) (configuration : WriterGroupDataType) :
    WriterGroupConfig :=
  let group := WriterGroupConfig.fromDataType configuration
  { writerGroupId :=
      if group.writerGroupId = 0 ∨ writerGroupIdTaken connection group.writerGroupId then
        nextWriterGroupId connection
      else group.writerGroupId
    datasetWriters :=
      renumber (fun writer next => { writer with datasetWriterId := next })
        (nextDatasetWriterId connection) group.datasetWriters }

def addWriterGroup (objectId : NodeId) (args : List Argument) :
    Answered := do
  let configuration ← decodeArgument Argument.asWriterGroup args
  let place ← okOrUnknown (s.connectionForNode objectId)
  let connection := place.here
  let group := newWriterGroup connection configuration
  .ok (s.store
      (place.put { connection with writerGroups := connection.writerGroups ++ [group] }) [],
    [writerGroupNodeId s.namespaceIndex connection.connectionId group.writerGroupId])

def newReaderGroup (connection : PubSubConnectionConfig) (configuration : ReaderGroupDataType) :
    ReaderGroupConfig :=
  let group := ReaderGroupConfig.fromDataType configuration (nextReaderGroupId connection)
  { group with
    datasetReaders :=
      renumber (fun reader next => { reader with datasetReaderId := next })
        (nextDatasetReaderId connection) group.datasetReaders }

def addReaderGroup (objectId : NodeId) (args : List Argument) :
    Answered := do
  let configuration ← decodeArgument Argument.asReaderGroup args
  let place ← okOrUnknown (s.connectionForNode objectId)
  let connection := place.here
  let group := newReaderGroup connection configuration
  .ok (s.store
      (place.put { connection with readerGroups := connection.readerGroups ++ [group] }) [],
    [readerGroupNodeId s.namespaceIndex connection.connectionId group.readerGroupId])

/-- The writer groups are searched before the reader groups. -/
def removeGroup (objectId : NodeId) (args : List Argument) :
    Answered := do
  let groupNode ← decodeArgument Argument.asNodeId args
  let place ← okOrUnknown (s.connectionForNode objectId)
  let connection := place.here
  let ns := s.namespaceIndex
  let connectionId := connection.connectionId
  match locateKey (fun group => writerGroupNodeId ns connectionId group.writerGroupId) groupNode
    connection.writerGroups with
  | some group =>
    .ok (s.store (place.put { connection with writerGroups := group.remove })
      (deleteWriterGroupNodes ns connectionId group.here), [])
  | none =>
    let group ← okOrUnknown
      (locateKey (fun group => readerGroupNodeId ns connectionId group.readerGroupId) groupNode
        connection.readerGroups)
    .ok (s.store (place.put { connection with readerGroups := group.remove })
      (deleteReaderGroupNodes ns connectionId group.here), [])

/-- The dataset writer that `add_dataset_writer` adds to a group of a connection. -/
def newDatasetWriter (connection : PubSubConnectionConfig) (configuration : DataSetWriterDataType) :
    DataSetWriterConfig :=
  let writer := DataSetWriterConfig.fromDataType configuration
  { writer with
    datasetWriterId :=
      if writer.datasetWriterId = 0 ∨ datasetWriterIdTaken connection writer.datasetWriterId then
        nextDatasetWriterId connection
      else writer.datasetWriterId }

def addDatasetWriter (objectId : NodeId) (args : List Argument) :
    Answered := do
  let configuration ← decodeArgument Argument.asDataSetWriter args
  let place ← okOrUnknown (s.writerGroupLocation objectId)
  let connection := place.here
  let group := place.found.here
  let writer := newDatasetWriter connection configuration
  .ok (s.store (place.put { connection with
        writerGroups := place.found.put { group with
          datasetWriters := group.datasetWriters ++ [writer] } }) [],
    [datasetWriterNodeId s.namespaceIndex connection.connectionId writer.datasetWriterId])

def removeDatasetWriter (objectId : NodeId) (args : List Argument) :
    Answered := do
  let node ← decodeArgument Argument.asNodeId args
  let place ← okOrUnknown (s.writerGroupLocation objectId)
  let connection := place.here
  let group := place.found.here
  let ns := s.namespaceIndex
  let connectionId := connection.connectionId
  let writer ← okOrUnknown
    (locateKey (fun writer => datasetWriterNodeId ns connectionId writer.datasetWriterId) node
      group.datasetWriters)
  .ok (s.store (place.put { connection with
        writerGroups := place.found.put { group with datasetWriters := writer.remove } })
      (deleteDatasetWriterNodes ns connectionId writer.here),
    [])

def addDatasetReader (objectId : NodeId) (args : List Argument) :
    Answered := do
  let configuration ← decodeArgument Argument.asDataSetReader args
  let place ← okOrUnknown (s.readerGroupLocation objectId)
  let connection := place.here
  let group := place.found.here
  let datasetReaderId := nextDatasetReaderId connection
  let reader := DataSetReaderConfig.fromDataType configuration datasetReaderId
  .ok (s.store (place.put { connection with
        readerGroups := place.found.put { group with
          datasetReaders := group.datasetReaders ++ [reader] } }) [],
    [datasetReaderNodeId s.namespaceIndex connection.connectionId datasetReaderId])

def removeDatasetReader (objectId : NodeId) (args : List Argument) :
    Answered := do
  let node ← decodeArgument Argument.asNodeId args
  let place ← okOrUnknown (s.readerGroupLocation objectId)
  let connection := place.here
  let group := place.found.here
  let ns := s.namespaceIndex
  let connectionId := connection.connectionId
  let reader ← okOrUnknown
    (locateKey (fun reader => datasetReaderNodeId ns connectionId reader.datasetReaderId) node
      group.datasetReaders)
  .ok (s.store (place.put { connection with
        readerGroups := place.found.put { group with datasetReaders := reader.remove } })
      (deleteDatasetReaderNodes ns connectionId reader.here),
    [])

def call (called : ConfigCall) : Answered :=
  match called.method with
  | .addConnection => s.addConnection called.args
  | .removeConnection => s.removeConnection called.args
  | .addWriterGroup => s.addWriterGroup called.objectId called.args
  | .addReaderGroup => s.addReaderGroup called.objectId called.args
  | .removeGroup => s.removeGroup called.objectId called.args
  | .addDatasetWriter => s.addDatasetWriter called.objectId called.args
  | .removeDatasetWriter => s.removeDatasetWriter called.objectId called.args
  | .addDatasetReader => s.addDatasetReader called.objectId called.args
  | .removeDatasetReader => s.removeDatasetReader called.objectId called.args

/-- A call that fails changes nothing. -/
def after (called : ConfigCall) : PubSubConfiguration :=
  match s.call called with
  | .ok (t, _) => t
  | .error _ => s

def machine : Machine PubSubConfiguration ConfigCall where
  step s called := some (s.after called)

end PubSubConfiguration

end AsyncOpcua.Pubsub
