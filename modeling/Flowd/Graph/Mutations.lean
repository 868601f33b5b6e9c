import Flowd.Graph.References

namespace Flowd.Stored

/-! The operations of a graph, statement by statement on the graph they change. -/

/-- A method on `&mut self`: what it has done to the graph stays done when it fails. -/
abbrev Edit := ExceptT Failure (StateM Graph)

namespace Edit

variable {α β : Type}

/-- What the method returns, and the graph it leaves. -/
def on (edit : Edit α) (graph : Graph) : Except Failure α × Graph := (ExceptT.run edit).run graph

@[simp] theorem on_bind (edit : Edit α) (next : α → Edit β) (graph : Graph) :
    (edit >>= next).on graph = match edit.on graph with
      | (.ok value, after) => (next value).on after
      | (.error failure, after) => (.error failure, after) := by
  change ((ExceptT.bind edit next) graph : Except Failure β × Graph) = _
  unfold ExceptT.bind ExceptT.mk
  change (StateT.bind edit (ExceptT.bindCont next)) graph = _
  unfold StateT.bind
  change (let result : Except Failure α × Graph := edit.on graph; (ExceptT.bindCont next result.1) result.2) = _
  generalize edit.on graph = result
  obtain ⟨value, after⟩ := result
  cases value <;> rfl

@[simp] theorem on_map (change : α → β) (edit : Edit α) (graph : Graph) :
    (change <$> edit).on graph = ((edit.on graph).1.map change, (edit.on graph).2) := by
  rw [map_eq_pure_bind, on_bind]
  generalize edit.on graph = result
  obtain ⟨value, after⟩ := result
  cases value <;> rfl

@[simp] theorem on_pure (value : α) (graph : Graph) : (pure value : Edit α).on graph = (.ok value, graph) := rfl

@[simp] theorem on_get (graph : Graph) : (get : Edit Graph).on graph = (.ok graph, graph) := rfl

@[simp] theorem on_modify (change : Graph → Graph) (graph : Graph) :
    (modify change : Edit PUnit).on graph = (.ok ⟨⟩, change graph) := rfl

@[simp] theorem on_throw (failure : Failure) (graph : Graph) :
    (throw failure : Edit α).on graph = (.error failure, graph) := rfl

end Edit

/-- `self.inports` or `self.outports`; `what` is how messages call its ports. -/
structure PortMap where
  what : String
  ports : Graph → HashMap String GraphPort
  put : HashMap String GraphPort → Graph → Graph

def inportMap : PortMap := ⟨"inport", Graph.inports, fun inports graph => { graph with inports }⟩

def outportMap : PortMap := ⟨"outport", Graph.outports, fun outports graph => { graph with outports }⟩

namespace Edit

def checkAddressed (name : String) : Edit Unit := do
  if name ≠ (← get).properties.name then throw (.error .notFound "wrong graph addressed")

def clear (running : Bool) (name : String) (description icon : Option String) : Edit Unit := do
  if running then throw (.error .resourceBusy "network still running")
  modify fun graph => { graph with properties := { graph.properties with name } }
  modify fun graph => { graph with properties := { graph.properties with description := description.getD "" } }
  modify fun graph => { graph with properties := { graph.properties with icon := icon.getD "" } }
  modify fun graph => { graph with groups := [] }
  modify fun graph => { graph with edges := [] }
  modify fun graph => { graph with inports := ∅ }
  modify fun graph => { graph with outports := ∅ }
  modify fun graph => { graph with nodes := ∅ }

section
variable (map : PortMap)

def addPort (name : String) (portdef : GraphPort) : Edit Unit := do
  match (map.ports (← get)).tryInsert name portdef with
  | some ports => modify (map.put ports)
  | none => throw (.error .alreadyExists (map.what ++ " with that name already exists"))

/-- `HashMap::remove` -/
def takePort (name : String) : Edit (Option GraphPort) := do
  let ports := map.ports (← get)
  modify (map.put (AList.erase name ports))
  return ports.lookup name

def removePort (name : String) : Edit Unit := do
  match ← takePort map name with
  | some _ => return
  | none => throw (.error .notFound (map.what ++ " not found"))

def renamePort (old new : String) : Edit Unit := do
  if new ∈ map.ports (← get) then throw (.error .alreadyExists (map.what ++ " already exists"))
  match ← takePort map old with
  | some port =>
      match (map.ports (← get)).tryInsert new port with
      | some ports => modify (map.put ports)
      | none => throw (.panicked "wtf key occupied on insertion")
  | none => throw (.error .notFound (map.what ++ " not found"))

end

def addNode (name component newName : String) (metadata : GraphNodeMetadata) : Edit Unit := do
  checkAddressed name
  match (← get).nodes.tryInsert newName ⟨component, metadata, graphNodeMetadataToPayload metadata⟩ with
  | some nodes => modify fun graph => { graph with nodes }
  | none => throw (.error .alreadyExists "node with that name already exists")

def addNodeFromPayload (name component newName : String) (metadata : JsonMap) : Edit Unit := do
  addNode name (afterSlash component) newName (graphNodeMetadataFromPayload metadata)
  modify fun graph =>
    { graph with nodes := graph.nodes.adjust newName fun node => { node with protocolMetadata := metadata } }

/-- `HashMap::remove` -/
def takeNode (node : String) : Edit (Option GraphNode) := do
  let nodes := (← get).nodes
  modify fun graph => { graph with nodes := AList.erase node nodes }
  return nodes.lookup node

def removeNode (name node : String) : Edit (List GraphEdge) := do
  checkAddressed name
  match ← takeNode node with
  | some _ =>
      let removed := (← get).edges.filter fun edge => edge.touches node
      modify fun graph => { graph with edges := graph.edges.filter fun edge => !edge.touches node }
      return removed
  | none => throw (.error .notFound "node not found")

def renameNode (name old new : String) : Edit Unit := do
  checkAddressed name
  if new ∈ (← get).nodes then throw (.error .alreadyExists "node with that name already exists")
  match ← takeNode old with
  | some node =>
      match (← get).nodes.tryInsert new node with
      | some nodes => modify fun graph => { graph with nodes }
      | none => throw (.panicked "wtf key occupied on insertion")
      modify fun graph => { graph with edges := graph.edges.map (Graph.renamedEdge old new) }
  | none => throw (.error .notFound "wtf node not found")

/-- The keys are merged one by one, then the coordinates are read. -/
def changeNode (name node : String) (changes : JsonMap) : Edit JsonMap := do
  checkAddressed name
  match (← get).nodes.lookup node with
  | some found =>
      modify fun graph => { graph with nodes := graph.nodes.adjust node fun node => Graph.changedNode node changes }
      return (Graph.changedNode found changes).protocolMetadata
  | none => throw (.error .notFound "node by that name not found")

def addEdge (name : String) (edge : GraphEdge) : Edit Unit := do
  checkAddressed name
  modify fun graph => { graph with edges := graph.edges ++ [edge] }

def updateEdge (name : String) (source target : GraphNodeSpecNetwork) (update : GraphEdge → List GraphEdge) :
    Edit Unit := do
  checkAddressed name
  match updateFirst (·.joins source target) update (← get).edges with
  | some edges => modify fun graph => { graph with edges }
  | none => throw (.error .notFound "edge with that src+tgt not found")

def removeEdge (name : String) (source target : GraphNodeSpecNetwork) : Edit Unit :=
  updateEdge name source target fun _ => []

def changeEdge (name : String) (source target : GraphNodeSpecNetwork) (metadata : GraphEdgeMetadata) : Edit Unit :=
  updateEdge name source target fun edge => [{ edge with metadata }]

def addInitialip (data : String) (target : GraphNodeSpecNetwork) (metadata : GraphEdgeMetadata) : Edit Unit :=
  modify fun graph => { graph with edges := graph.edges ++ [Graph.initialEdge data target metadata] }

def removeInitialip (data : Option String) (target : GraphNodeSpecNetwork) : Edit String := do
  let edges := (← get).edges
  match updateFirst (·.initial data target) (fun _ => []) edges, edges.find? (·.initial data target) with
  | some edges, some found =>
      modify fun graph => { graph with edges }
      return found.data.getD ""
  | _, _ => throw (.error .notFound "edge with that data+tgt not found")

def addGroup (name group : String) (nodes : List String) (metadata : GraphGroupMetadata) : Edit Unit := do
  checkAddressed name
  modify fun graph => { graph with groups := graph.groups ++ [⟨group, nodes, metadata⟩] }

def updateGroup (name group : String) (update : GraphGroup → List GraphGroup) : Edit Unit := do
  checkAddressed name
  match updateFirst (·.name == group) update (← get).groups with
  | some groups => modify fun graph => { graph with groups }
  | none => throw (.error .notFound "group with that name not found")

def removeGroup (name group : String) : Edit Unit := updateGroup name group fun _ => []

def renameGroup (name old new : String) : Edit Unit := updateGroup name old fun group => [{ group with name := new }]

def changeGroup (name group : String) (metadata : GraphGroupMetadata) : Edit Unit :=
  updateGroup name group fun group => [{ group with metadata }]

end Edit

/-- The operations with their arguments; those that read the name of the graph have it first. -/
inductive Mutation where
  | clear (running : Bool) (name : String) (description icon : Option String)
  | addInport (name : String) (portdef : GraphPort)
  | addOutport (name : String) (portdef : GraphPort)
  | removeInport (name : String)
  | removeOutport (name : String)
  | renameInport (old new : String)
  | renameOutport (old new : String)
  | addNode (name component newName : String) (metadata : GraphNodeMetadata)
  | addNodeFromPayload (name component newName : String) (metadata : JsonMap)
  | removeNode (name node : String)
  | renameNode (name old new : String)
  | changeNode (name node : String) (changes : JsonMap)
  | addEdge (name : String) (edge : GraphEdge)
  | removeEdge (name : String) (source target : GraphNodeSpecNetwork)
  | changeEdge (name : String) (source target : GraphNodeSpecNetwork) (metadata : GraphEdgeMetadata)
  | addInitialip (data : String) (target : GraphNodeSpecNetwork) (metadata : GraphEdgeMetadata)
  | removeInitialip (data : Option String) (target : GraphNodeSpecNetwork)
  | addGroup (name group : String) (nodes : List String) (metadata : GraphGroupMetadata)
  | removeGroup (name group : String)
  | renameGroup (name old new : String)
  | changeGroup (name group : String) (metadata : GraphGroupMetadata)

namespace Mutation

/-- What an operation returns besides `()`. -/
inductive Answer where
  | done
  | edges (removed : List GraphEdge)
  | metadata (metadata : JsonMap)
  | data (data : String)

/-- The operation as the code performs it. -/
def edit : Mutation → Edit Answer
  | .clear running name description icon => (fun _ => .done) <$> Edit.clear running name description icon
  | .addInport name portdef => (fun _ => .done) <$> Edit.addPort inportMap name portdef
  | .addOutport name portdef => (fun _ => .done) <$> Edit.addPort outportMap name portdef
  | .removeInport name => (fun _ => .done) <$> Edit.removePort inportMap name
  | .removeOutport name => (fun _ => .done) <$> Edit.removePort outportMap name
  | .renameInport old new => (fun _ => .done) <$> Edit.renamePort inportMap old new
  | .renameOutport old new => (fun _ => .done) <$> Edit.renamePort outportMap old new
  | .addNode name component newName metadata => (fun _ => .done) <$> Edit.addNode name component newName metadata
  | .addNodeFromPayload name component newName metadata =>
      (fun _ => .done) <$> Edit.addNodeFromPayload name component newName metadata
  | .removeNode name node => .edges <$> Edit.removeNode name node
  | .renameNode name old new => (fun _ => .done) <$> Edit.renameNode name old new
  | .changeNode name node changes => .metadata <$> Edit.changeNode name node changes
  | .addEdge name edge => (fun _ => .done) <$> Edit.addEdge name edge
  | .removeEdge name source target => (fun _ => .done) <$> Edit.removeEdge name source target
  | .changeEdge name source target metadata => (fun _ => .done) <$> Edit.changeEdge name source target metadata
  | .addInitialip data target metadata => (fun _ => .done) <$> Edit.addInitialip data target metadata
  | .removeInitialip data target => .data <$> Edit.removeInitialip data target
  | .addGroup name group nodes metadata => (fun _ => .done) <$> Edit.addGroup name group nodes metadata
  | .removeGroup name group => (fun _ => .done) <$> Edit.removeGroup name group
  | .renameGroup name old new => (fun _ => .done) <$> Edit.renameGroup name old new
  | .changeGroup name group metadata => (fun _ => .done) <$> Edit.changeGroup name group metadata

/-- What it returns, and the graph it leaves. -/
def perform (mutation : Mutation) (graph : Graph) : Except Failure Answer × Graph := mutation.edit.on graph

/-- The operation as a function of the graph. -/
def result (graph : Graph) : Mutation → Except Failure (Graph × Answer)
  | .clear running name description icon => (graph.clear running name description icon).map (·, .done)
  | .addInport name portdef => (graph.addInport name portdef).map (·, .done)
  | .addOutport name portdef => (graph.addOutport name portdef).map (·, .done)
  | .removeInport name => (graph.removeInport name).map (·, .done)
  | .removeOutport name => (graph.removeOutport name).map (·, .done)
  | .renameInport old new => (graph.renameInport old new).map (·, .done)
  | .renameOutport old new => (graph.renameOutport old new).map (·, .done)
  | .addNode name component newName metadata => (graph.addNode name component newName metadata).map (·, .done)
  | .addNodeFromPayload name component newName metadata =>
      (graph.addNodeFromPayload name component newName metadata).map (·, .done)
  | .removeNode name node => (graph.removeNode name node).map fun removed => (removed.1, .edges removed.2)
  | .renameNode name old new => (graph.renameNode name old new).map (·, .done)
  | .changeNode name node changes => (graph.changeNode name node changes).map fun changed => (changed.1, .metadata changed.2)
  | .addEdge name edge => (graph.addEdge name edge).map (·, .done)
  | .removeEdge name source target => (graph.removeEdge name source target).map (·, .done)
  | .changeEdge name source target metadata => (graph.changeEdge name source target metadata).map (·, .done)
  | .addInitialip data target metadata => .ok (graph.addInitialip data target metadata, .done)
  | .removeInitialip data target => (graph.removeInitialip data target).map fun removed => (removed.1, .data removed.2)
  | .addGroup name group nodes metadata => (graph.addGroup name group nodes metadata).map (·, .done)
  | .removeGroup name group => (graph.removeGroup name group).map (·, .done)
  | .renameGroup name old new => (graph.renameGroup name old new).map (·, .done)
  | .changeGroup name group metadata => (graph.changeGroup name group metadata).map (·, .done)

end Mutation

/-! Each operation changes the graph at once or not at all. -/

/-- What a run of an operation leaves: the result, and the graph as it was if there is none. -/
def committed {α : Type} (graph : Graph) : Except Failure (Graph × α) → Except Failure α × Graph
  | .ok (next, answer) => (.ok answer, next)
  | .error failure => (.error failure, graph)

variable {graph next : Graph}

theorem addressed_bind {α : Type} (name : String) (then_ : Unit → Except Failure α) : graph.addressed name >>= then_ =
    if name = graph.properties.name then then_ () else .error (.error .notFound "wrong graph addressed") := by
  unfold Graph.addressed
  split <;> rfl

/-- The port map that was put is the one that is there. -/
structure PortMap.Lawful (map : PortMap) : Prop where
  get_put : ∀ ports graph, map.ports (map.put ports graph) = ports
  put_put : ∀ ports others graph, map.put ports (map.put others graph) = map.put ports graph
  put_get : ∀ graph, map.put (map.ports graph) graph = graph

theorem inportMap_lawful : inportMap.Lawful := ⟨fun _ _ => rfl, fun _ _ _ => rfl, fun _ => rfl⟩

theorem outportMap_lawful : outportMap.Lawful := ⟨fun _ _ => rfl, fun _ _ _ => rfl, fun _ => rfl⟩

namespace Edit

variable {map : PortMap} {name node old new : String}

@[simp] theorem on_checkAddressed (name : String) (graph : Graph) : (checkAddressed name).on graph =
    if name = graph.properties.name then (.ok (), graph)
    else (.error (.error .notFound "wrong graph addressed"), graph) := by
  unfold checkAddressed
  by_cases same : name = graph.properties.name
  · simp [same]
  · simp [same]

theorem on_addPort (map : PortMap) (name : String) (portdef : GraphPort) (graph : Graph) : (addPort map name portdef).on graph =
    committed graph ((Graph.addPort map.what (map.ports graph) name portdef).map fun ports => (map.put ports graph, ())) := by
  unfold addPort Graph.addPort
  cases inserted : (map.ports graph).tryInsert name portdef with
  | none => simp [inserted, committed, Except.map]
  | some ports => simp [inserted, committed, Except.map]

@[simp] theorem on_takePort (map : PortMap) (name : String) (graph : Graph) : (takePort map name).on graph =
    (.ok ((map.ports graph).lookup name), map.put (AList.erase name (map.ports graph)) graph) := by
  simp [takePort, Except.map]

/-- Taking a port that is not there leaves the graph as it is. -/
theorem put_erase_absent (lawful : map.Lawful) (absent : (map.ports graph).lookup name = none) :
    map.put (AList.erase name (map.ports graph)) graph = graph := by
  have gone : name ∉ (map.ports graph).keys := AList.lookup_eq_none.mp absent
  rw [HashMap.erase_absent gone, lawful.put_get]

theorem on_removePort (lawful : map.Lawful) (name : String) (graph : Graph) : (removePort map name).on graph =
    committed graph ((Graph.removePort map.what (map.ports graph) name).map fun ports => (map.put ports graph, ())) := by
  unfold removePort Graph.removePort
  cases found : (map.ports graph).lookup name with
  | none =>
      have absent : name ∉ map.ports graph := AList.lookup_eq_none.mp found
      simp [found, absent, committed, Except.map, put_erase_absent lawful found]
  | some port =>
      have present : name ∈ map.ports graph := AList.lookup_isSome.mp (by rw [found]; rfl)
      simp [found, present, committed, Except.map]

theorem on_renamePort (lawful : map.Lawful) (old new : String) (graph : Graph) : (renamePort map old new).on graph =
    committed graph ((Graph.renamePort map.what (map.ports graph) old new).map fun ports => (map.put ports graph, ())) := by
  unfold renamePort Graph.renamePort
  by_cases taken : new ∈ map.ports graph
  · simp [taken, committed, Except.map]
  · cases found : (map.ports graph).lookup old with
    | none => simp [taken, found, committed, Except.map, put_erase_absent lawful found]
    | some port =>
        have free : new ∉ AList.erase old (map.ports graph) := fun member => taken (AList.mem_erase.mp member).2
        simp [taken, found, committed, Except.map, lawful.get_put, HashMap.tryInsert, free, lawful.put_put]

theorem on_clear (running : Bool) (name : String) (description icon : Option String) (graph : Graph) :
    (clear running name description icon).on graph =
      committed graph ((graph.clear running name description icon).map (·, ())) := by
  unfold clear Graph.clear
  cases running with
  | true => simp [committed, Except.map]
  | false => simp [committed, Except.map]

theorem on_addNode (name component newName : String) (metadata : GraphNodeMetadata) (graph : Graph) :
    (addNode name component newName metadata).on graph =
      committed graph ((graph.addNode name component newName metadata).map (·, ())) := by
  unfold addNode Graph.addNode
  by_cases same : name = graph.properties.name
  · cases inserted : graph.nodes.tryInsert newName ⟨component, metadata, graphNodeMetadataToPayload metadata⟩ with
    | none => simp [addressed_bind, same, inserted, committed, Except.map]
    | some nodes => simp [addressed_bind, same, inserted, committed, Except.map]
  · simp [addressed_bind, same, committed, Except.map]

theorem on_addNodeFromPayload (name component newName : String) (metadata : JsonMap) (graph : Graph) :
    (addNodeFromPayload name component newName metadata).on graph =
      committed graph ((graph.addNodeFromPayload name component newName metadata).map (·, ())) := by
  unfold addNodeFromPayload Graph.addNodeFromPayload
  rw [on_bind, on_addNode]
  cases graph.addNode name (afterSlash component) newName (graphNodeMetadataFromPayload metadata) with
  | error failure => rfl
  | ok next => rfl

@[simp] theorem on_takeNode (node : String) (graph : Graph) : (takeNode node).on graph =
    (.ok (graph.nodes.lookup node), { graph with nodes := AList.erase node graph.nodes }) := by
  simp [takeNode, Except.map]

theorem erase_absent_node (absent : graph.nodes.lookup node = none) :
    { graph with nodes := AList.erase node graph.nodes } = graph := by
  have gone : node ∉ graph.nodes.keys := AList.lookup_eq_none.mp absent
  rw [HashMap.erase_absent gone]

theorem on_removeNode (name node : String) (graph : Graph) : (removeNode name node).on graph =
    committed graph (graph.removeNode name node) := by
  unfold removeNode Graph.removeNode
  by_cases same : name = graph.properties.name
  · cases found : graph.nodes.lookup node with
    | none =>
        have absent : node ∉ graph.nodes := AList.lookup_eq_none.mp found
        simp [addressed_bind, same, found, absent, committed, erase_absent_node found]
    | some value =>
        have present : node ∈ graph.nodes := AList.lookup_isSome.mp (by rw [found]; rfl)
        simp [addressed_bind, same, found, present, committed, Except.map]
  · simp [addressed_bind, same, committed]

theorem on_renameNode (name old new : String) (graph : Graph) : (renameNode name old new).on graph =
    committed graph ((graph.renameNode name old new).map (·, ())) := by
  unfold renameNode Graph.renameNode
  by_cases same : name = graph.properties.name
  · by_cases taken : new ∈ graph.nodes
    · simp [addressed_bind, same, taken, committed, Except.map]
    · cases found : graph.nodes.lookup old with
      | none => simp [addressed_bind, same, taken, found, committed, Except.map, erase_absent_node found]
      | some value =>
          have free : new ∉ AList.erase old graph.nodes := fun member => taken (AList.mem_erase.mp member).2
          simp [addressed_bind, same, taken, found, committed, Except.map, HashMap.tryInsert, free, Graph.renamedEdge]
  · simp [addressed_bind, same, committed, Except.map]

theorem on_changeNode (name node : String) (changes : JsonMap) (graph : Graph) : (changeNode name node changes).on graph =
    committed graph (graph.changeNode name node changes) := by
  unfold changeNode Graph.changeNode
  by_cases same : name = graph.properties.name
  · cases found : graph.nodes.lookup node with
    | none => simp [addressed_bind, same, found, committed]
    | some value => simp [addressed_bind, same, found, committed, Except.map]
  · simp [addressed_bind, same, committed]

theorem on_addEdge (name : String) (edge : GraphEdge) (graph : Graph) : (addEdge name edge).on graph =
    committed graph ((graph.addEdge name edge).map (·, ())) := by
  unfold addEdge Graph.addEdge
  rw [addressed_bind]
  by_cases same : name = graph.properties.name
  · simp [same, committed, Except.map, pure, Except.pure]
  · simp [same, committed, Except.map]

theorem on_updateEdge (name : String) (source target : GraphNodeSpecNetwork) (update : GraphEdge → List GraphEdge)
    (graph : Graph) : (updateEdge name source target update).on graph =
      committed graph ((graph.updateEdge name source target update).map (·, ())) := by
  unfold updateEdge Graph.updateEdge
  by_cases same : name = graph.properties.name
  · cases updated : updateFirst (·.joins source target) update graph.edges with
    | none => simp [addressed_bind, same, updated, committed, Except.map]
    | some edges => simp [addressed_bind, same, updated, committed, Except.map]
  · simp [addressed_bind, same, committed, Except.map]

theorem on_removeInitialip (data : Option String) (target : GraphNodeSpecNetwork) (graph : Graph) :
    (removeInitialip data target).on graph = committed graph (graph.removeInitialip data target) := by
  unfold removeInitialip Graph.removeInitialip
  cases updated : updateFirst (·.initial data target) (fun _ => []) graph.edges with
  | none => simp [updated, committed]
  | some edges =>
      cases found : graph.edges.find? (·.initial data target) with
      | none => simp [updated, found, committed]
      | some edge => simp [updated, found, committed, Except.map]

theorem on_addGroup (name group : String) (nodes : List String) (metadata : GraphGroupMetadata) (graph : Graph) :
    (addGroup name group nodes metadata).on graph =
      committed graph ((graph.addGroup name group nodes metadata).map (·, ())) := by
  unfold addGroup Graph.addGroup
  rw [addressed_bind]
  by_cases same : name = graph.properties.name
  · simp [same, committed, Except.map, pure, Except.pure]
  · simp [same, committed, Except.map]

theorem on_updateGroup (name group : String) (update : GraphGroup → List GraphGroup) (graph : Graph) :
    (updateGroup name group update).on graph =
      committed graph ((graph.updateGroup name group update).map (·, ())) := by
  unfold updateGroup Graph.updateGroup
  by_cases same : name = graph.properties.name
  · cases updated : updateFirst (·.name == group) update graph.groups with
    | none => simp [addressed_bind, same, updated, committed, Except.map]
    | some groups => simp [addressed_bind, same, updated, committed, Except.map]
  · simp [addressed_bind, same, committed, Except.map]

end Edit

/-- What is returned beside the graph does not matter to what is committed. -/
theorem committed_map {α β : Type} (change : α → β) (result : Except Failure (Graph × α)) :
    ((committed graph result).1.map change, (committed graph result).2) =
      committed graph (result.map fun pair => (pair.1, change pair.2)) := by
  cases result <;> rfl

theorem map_pair {α β : Type} (change : α → Graph) (answer : β) (result : Except Failure α) :
    ((result.map fun value => (change value, ())).map fun pair => (pair.1, answer)) =
      result.map fun value => (change value, answer) := by
  cases result <;> rfl

theorem map_map_pair {α β : Type} (change : α → Graph) (answer : β) (result : Except Failure α) :
    (result.map fun value => (change value, answer)) = (result.map change).map fun next => (next, answer) := by
  cases result <;> rfl

/-- The code performs an operation as a whole. -/
theorem Mutation.perform_eq (mutation : Mutation) (graph : Graph) :
    mutation.perform graph = committed graph (mutation.result graph) := by
  cases mutation with
  | clear running name description icon =>
      rw [perform, edit, Edit.on_map, Edit.on_clear, committed_map, map_pair, result]
  | addInport name portdef =>
      rw [perform, edit, Edit.on_map, Edit.on_addPort, committed_map, map_pair, map_map_pair]
      rfl
  | addOutport name portdef =>
      rw [perform, edit, Edit.on_map, Edit.on_addPort, committed_map, map_pair, map_map_pair]
      rfl
  | removeInport name =>
      rw [perform, edit, Edit.on_map, Edit.on_removePort inportMap_lawful, committed_map, map_pair, map_map_pair]
      rfl
  | removeOutport name =>
      rw [perform, edit, Edit.on_map, Edit.on_removePort outportMap_lawful, committed_map, map_pair, map_map_pair]
      rfl
  | renameInport old new =>
      rw [perform, edit, Edit.on_map, Edit.on_renamePort inportMap_lawful, committed_map, map_pair, map_map_pair]
      rfl
  | renameOutport old new =>
      rw [perform, edit, Edit.on_map, Edit.on_renamePort outportMap_lawful, committed_map, map_pair, map_map_pair]
      rfl
  | addNode name component newName metadata =>
      rw [perform, edit, Edit.on_map, Edit.on_addNode, committed_map, map_pair, result]
  | addNodeFromPayload name component newName metadata =>
      rw [perform, edit, Edit.on_map, Edit.on_addNodeFromPayload, committed_map, map_pair, result]
  | removeNode name node => rw [perform, edit, Edit.on_map, Edit.on_removeNode, committed_map, result]
  | renameNode name old new =>
      rw [perform, edit, Edit.on_map, Edit.on_renameNode, committed_map, map_pair, result]
  | changeNode name node changes => rw [perform, edit, Edit.on_map, Edit.on_changeNode, committed_map, result]
  | addEdge name edge => rw [perform, edit, Edit.on_map, Edit.on_addEdge, committed_map, map_pair, result]
  | removeEdge name source target =>
      rw [perform, edit, Edit.on_map, Edit.removeEdge, Edit.on_updateEdge, committed_map, map_pair, result]
      rfl
  | changeEdge name source target metadata =>
      rw [perform, edit, Edit.on_map, Edit.changeEdge, Edit.on_updateEdge, committed_map, map_pair, result]
      rfl
  | addInitialip data target metadata => rfl
  | removeInitialip data target =>
      rw [perform, edit, Edit.on_map, Edit.on_removeInitialip, committed_map, result]
  | addGroup name group nodes metadata =>
      rw [perform, edit, Edit.on_map, Edit.on_addGroup, committed_map, map_pair, result]
  | removeGroup name group =>
      rw [perform, edit, Edit.on_map, Edit.removeGroup, Edit.on_updateGroup, committed_map, map_pair, result]
      rfl
  | renameGroup name old new =>
      rw [perform, edit, Edit.on_map, Edit.renameGroup, Edit.on_updateGroup, committed_map, map_pair, result]
      rfl
  | changeGroup name group metadata =>
      rw [perform, edit, Edit.on_map, Edit.changeGroup, Edit.on_updateGroup, committed_map, map_pair, result]
      rfl

end Flowd.Stored
