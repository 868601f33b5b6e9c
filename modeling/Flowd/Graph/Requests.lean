import Flowd.Graph.Model

namespace Flowd.Stored

/-! The `graph:*` requests, and what their handlers answer. -/

/-- The payloads, without the secrets. -/
inductive GraphRequest where
  | clear (id : String) (label library : Option String) (main : Bool) (icon description : Option String)
  | addnode (id component : String) (metadata : JsonMap) (graph icon : Option String)
  | removenode (id graph : String)
  | renamenode (old new graph : String)
  | changenode (id : String) (metadata : JsonMap) (graph : String)
  | addedge (src tgt : GraphNodeSpecNetwork) (metadata : GraphEdgeMetadata) (graph : String)
  | removeedge (graph : String) (src tgt : GraphNodeSpecNetwork)
  | changeedge (graph : String) (metadata : GraphEdgeMetadata) (src tgt : GraphNodeSpecNetwork)
  | addinitial (graph : String) (metadata : GraphEdgeMetadata) (data : String) (tgt : GraphNodeSpecNetwork)
  | removeinitial (graph : String) (data : Option String) (tgt : GraphNodeSpecNetwork)
  | addinport (graph publicName node port : String) (metadata : Option GraphNodeMetadata)
  | removeinport (graph publicName : String)
  | renameinport (graph old new : String)
  | addoutport (graph publicName node port : String) (metadata : Option GraphNodeMetadata)
  | removeoutport (graph publicName : String)
  | renameoutport (graph old new : String)
  | addgroup (name graph : String) (nodes : List String) (metadata : GraphGroupMetadata)
  | removegroup (graph name : String)
  | renamegroup (graph old new : String)
  | changegroup (graph name : String) (metadata : GraphGroupMetadata)

inductive GraphResponse where
  | error (message : String)
  | clear (id name : String) (library : Option String) (main : Bool) (icon description : Option String)
  | addnode (id component : String) (metadata : JsonMap) (graph : String)
  | removenode (id graph : String)
  | renamenode (old new graph : String)
  | changenode (id : String) (metadata : JsonMap) (graph : String)
  | addedge (src tgt : GraphNodeSpecNetwork) (metadata : GraphEdgeMetadata) (graph : String)
  | removeedge (graph : String) (src tgt : GraphNodeSpecNetwork)
  | changeedge (graph : String) (metadata : GraphEdgeMetadata) (src tgt : GraphNodeSpecNetwork)
  | addinitial (data : String) (tgt : GraphNodeSpecNetwork) (metadata : GraphEdgeMetadata) (graph : String)
  | removeinitial (data : String) (tgt : GraphNodeSpecNetwork) (graph : String)
  | addinport (graph publicName node port : String)
  | removeinport
  | renameinport
  | addoutport (graph publicName node port : String)
  | removeoutport (graph publicName : String)
  | renameoutport
  | addgroup
  | removegroup
  | renamegroup
  | changegroup

namespace GraphRequest

/-- The graph that is addressed; it may be missing in a graph:addnode request. -/
def graph : GraphRequest → Option String
  | clear id _ _ _ _ _ => some id
  | addnode _ _ _ graph _ => graph
  | removenode _ graph | renamenode _ _ graph | changenode _ _ graph | addedge _ _ _ graph | removeedge graph _ _
  | changeedge graph _ _ _ | addinitial graph _ _ _ | removeinitial graph _ _ | addinport graph _ _ _ _
  | removeinport graph _ | renameinport graph _ _ | addoutport graph _ _ _ _ | removeoutport graph _
  | renameoutport graph _ _ | addgroup _ graph _ _ | removegroup graph _ | renamegroup graph _ _
  | changegroup graph _ _ => some graph

/-- The text of a graph:error response. -/
def errorText : GraphRequest → ErrorKind → String → String
  | addnode _ _ _ _ _, .notFound, _ => "Requested graph not found"
  | _, _, text => text

end GraphRequest

/-- `GraphPort::from(GraphAddinportRequestPayload)`, and the same for an outport. -/
def exportedPort (node port : String) (metadata : Option GraphNodeMetadata) : GraphPort :=
  let metadata := metadata.getD .default
  ⟨node, port, ⟨metadata.x, metadata.y⟩⟩

/-- The metadata of a graph:addnode request with the icon of the node. -/
def withIcon (metadata : JsonMap) (icon : Option String) : JsonMap :=
  match icon with
  | some icon => SortedMap.insert "icon" (.string icon) metadata
  | none => metadata

namespace Graph

/-- A handler with the lock on the graph, and what it answers if the operation succeeds. -/
def perform (graph : Graph) (running : Bool) : GraphRequest → Except Failure (Graph × List GraphResponse)
  | .clear id label library main icon description => do
      let next ← graph.clear running id description icon
      return (next, [.clear id (label.getD id) library main icon description])
  | .addnode _ _ _ none _ => .error (.error .invalidInput "No graph specified")
  | .addnode id component metadata (some name) icon => do
      let metadata := withIcon metadata icon
      let next ← graph.addNodeFromPayload name component id metadata
      return (next, [.addnode id component metadata name])
  | .removenode id name => do
      let (next, removed) ← graph.removeNode name id
      return (next, removed.map (fun edge => .removeedge name edge.source.network edge.target.network) ++
        [.removenode id name])
  | .renamenode old new name => do
      let next ← graph.renameNode name old new
      return (next, [.renamenode old new name])
  | .changenode id metadata name => do
      let (next, updated) ← graph.changeNode name id metadata
      return (next, [.changenode id updated name])
  | .addedge src tgt metadata name => do
      let next ← graph.addEdge name (plainEdge src tgt metadata)
      return (next, [.addedge src tgt metadata name])
  | .removeedge name src tgt => do
      let next ← graph.removeEdge name src tgt
      return (next, [.removeedge name src tgt])
  | .changeedge name metadata src tgt => do
      let next ← graph.changeEdge name src tgt metadata
      return (next, [.changeedge name metadata src tgt])
  | .addinitial name metadata data tgt =>
      .ok (graph.addInitialip data tgt metadata, [.addinitial data tgt metadata name])
  | .removeinitial name data tgt => do
      let (next, removed) ← graph.removeInitialip data tgt
      return (next, [.removeinitial removed tgt name])
  | .addinport name publicName node port metadata => do
      let next ← graph.addInport publicName (exportedPort node port metadata)
      return (next, [.addinport name publicName node port])
  | .removeinport _ publicName => do
      let next ← graph.removeInport publicName
      return (next, [.removeinport])
  | .renameinport _ old new => do
      let next ← graph.renameInport old new
      return (next, [.renameinport])
  | .addoutport name publicName node port metadata => do
      let next ← graph.addOutport publicName (exportedPort node port metadata)
      return (next, [.addoutport name publicName node port])
  | .removeoutport name publicName => do
      let next ← graph.removeOutport publicName
      return (next, [.removeoutport name publicName])
  | .renameoutport _ old new => do
      let next ← graph.renameOutport old new
      return (next, [.renameoutport])
  | .addgroup group name nodes metadata => do
      let next ← graph.addGroup name group nodes metadata
      return (next, [.addgroup])
  | .removegroup name group => do
      let next ← graph.removeGroup name group
      return (next, [.removegroup])
  | .renamegroup name old new => do
      let next ← graph.renameGroup name old new
      return (next, [.renamegroup])
  | .changegroup name group metadata => do
      let next ← graph.changeGroup name group metadata
      return (next, [.changegroup])

/-- A failed operation is answered by graph:error, a failed `expect` by nothing. -/
def handle (graph : Graph) (running : Bool) (request : GraphRequest) : Except String (Graph × List GraphResponse) :=
  match graph.perform running request with
  | .ok result => .ok result
  | .error (.error kind text) => .ok (graph, [.error (request.errorText kind text)])
  | .error (.panicked text) => .error text

end Graph

end Flowd.Stored
