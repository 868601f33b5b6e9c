import Flowd.Graph.Requests
import Flowd.Lib.Simulation

namespace Flowd.Stored

/-! Graphs that differ in their nodes only, and how requests keep them so. -/

/-- The same graph, up to related nodes. -/
structure Graph.Alike (related : GraphNode → GraphNode → Prop) (left right : Graph) : Prop where
  caseSensitive : left.caseSensitive = right.caseSensitive
  properties : left.properties = right.properties
  inports : HashMap.Alike Eq left.inports right.inports
  outports : HashMap.Alike Eq left.outports right.outports
  groups : left.groups = right.groups
  nodes : HashMap.Alike related left.nodes right.nodes
  edges : left.edges = right.edges

/-- What is answered is the same, but for the metadata of a changed node. -/
inductive GraphResponse.Alike (related : GraphNode → GraphNode → Prop) : GraphResponse → GraphResponse → Prop where
  | same (response : GraphResponse) : GraphResponse.Alike related response response
  | changenode (id graph : String) {left right : GraphNode} : related left right →
      GraphResponse.Alike related (.changenode id left.protocolMetadata graph) (.changenode id right.protocolMetadata graph)

/-- A relation that node operations keep. -/
structure NodeRelation (related : GraphNode → GraphNode → Prop) : Prop where
  added : ∀ component metadata, related ⟨component, graphNodeMetadataFromPayload metadata, metadata⟩
    ⟨component, graphNodeMetadataFromPayload metadata, metadata⟩
  changed : ∀ left right changes, related left right → 
    related (Graph.changedNode left changes) (Graph.changedNode right changes)

/-- The results of one request on both graphs. -/
def ResultAlike (related : GraphNode → GraphNode → Prop) (left right : Graph × List GraphResponse) : Prop :=
  left.1.Alike related right.1 ∧ List.Forall₂ (GraphResponse.Alike related) left.2 right.2

theorem same_all {related : GraphNode → GraphNode → Prop} (responses : List GraphResponse) :
    List.Forall₂ (GraphResponse.Alike related) responses responses :=
  List.forall₂_same.mpr fun response _ => .same response

namespace Graph

/-! The exported ports. -/

theorem addPort_alike (what : String) {left right : HashMap String GraphPort} (alike : HashMap.Alike Eq left right)
    (name : String) (portdef : GraphPort) :
    Agree (HashMap.Alike Eq) (addPort what left name portdef) (addPort what right name portdef) := by
  unfold addPort
  rcases rel_cases (alike.tryInsert name (Eq.refl portdef)) with ⟨left, right⟩ | ⟨_, _, left, right, ports⟩
  · rw [left, right]
    exact .error _
  · rw [left, right]
    exact .ok ports

theorem removePort_alike (what : String) {left right : HashMap String GraphPort} (alike : HashMap.Alike Eq left right)
    (name : String) : Agree (HashMap.Alike Eq) (removePort what left name) (removePort what right name) := by
  unfold removePort
  by_cases present : name ∈ left
  · rw [if_pos present, if_pos ((alike.mem_iff name).mp present)]
    exact .ok (alike.erase name)
  · rw [if_neg present, if_neg fun member => present ((alike.mem_iff name).mpr member)]
    exact .error _

theorem renamePort_alike (what : String) {left right : HashMap String GraphPort} (alike : HashMap.Alike Eq left right)
    (old new : String) : Agree (HashMap.Alike Eq) (renamePort what left old new) (renamePort what right old new) := by
  unfold renamePort
  by_cases taken : new ∈ left
  · rw [if_pos taken, if_pos ((alike.mem_iff new).mp taken)]
    exact .error _
  · rw [if_neg taken, if_neg fun member => taken ((alike.mem_iff new).mpr member)]
    rcases rel_cases (alike old) with ⟨left, right⟩ | ⟨port, _, left, right, same⟩
    · rw [left, right]
      exact .error _
    · subst same
      rw [left, right]
      rcases rel_cases ((alike.erase old).tryInsert new (Eq.refl port)) with ⟨left, right⟩ | ⟨_, _, left, right, ports⟩
      · simp only [left, right]
        exact .error _
      · simp only [left, right]
        exact .ok ports

variable {related : GraphNode → GraphNode → Prop} {left right : Graph}

theorem Alike.addressed (alike : left.Alike related right) (name : String) :
    left.addressed name = right.addressed name := by
  rw [Graph.addressed, Graph.addressed, alike.properties]

/-- After the check of the graph's name. -/
theorem Alike.check {α β : Type} {relatedNext : α → β → Prop} (alike : left.Alike related right) (name : String)
    {leftNext : Unit → Except Failure α} {rightNext : Unit → Except Failure β}
    (next : Agree relatedNext (leftNext ()) (rightNext ())) :
    Agree relatedNext (left.addressed name >>= leftNext) (right.addressed name >>= rightNext) := by
  rw [alike.addressed name]
  exact (Agree.refl _).bind fun _ _ _ => next

theorem Alike.clear (alike : left.Alike related right) (running : Bool) (name : String)
    (description icon : Option String) :
    Agree (Graph.Alike related) (left.clear running name description icon)
      (right.clear running name description icon) := by
  unfold Graph.clear
  split
  · exact .error _
  · exact .ok ⟨alike.caseSensitive, by rw [alike.properties], .empty, .empty, rfl, .empty, rfl⟩

/-! The nodes. -/

/-- What is inserted is adjusted at once. -/
theorem adjust_insert {V : Type} (map : HashMap String V) (key : String) (value : V) (change : V → V) :
    HashMap.adjust (AList.insert key value map) key change = AList.insert key (change value) map := by
  have replaced : List.kreplace key (change value) (⟨key, value⟩ :: List.kerase key map.entries) =
      ⟨key, change value⟩ :: List.kerase key map.entries := List.lookmap_cons_some _ _ (if_pos rfl)
  unfold HashMap.adjust
  rw [AList.lookup_insert]
  exact AList.ext replaced

/-- A node is added with the metadata that was sent. -/
theorem addNodeFromPayload_eq (graph : Graph) (name component new : String) (metadata : JsonMap) :
    graph.addNodeFromPayload name component new metadata = (graph.addressed name >>= fun _ =>
      match graph.nodes.tryInsert new ⟨afterSlash component, graphNodeMetadataFromPayload metadata, metadata⟩ with
      | some nodes => .ok { graph with nodes }
      | none => .error (.error .alreadyExists "node with that name already exists")) := by
  unfold addNodeFromPayload addNode
  cases graph.addressed name with
  | error failure => rfl
  | ok _ =>
      unfold HashMap.tryInsert
      by_cases taken : new ∈ graph.nodes
      · simp only [if_pos taken]
        rfl
      · simp only [if_neg taken]
        exact congrArg (fun nodes => Except.ok { graph with nodes }) (adjust_insert _ _ _ _)

theorem Alike.addNode (relation : NodeRelation related) (alike : left.Alike related right)
    (name component new : String) (metadata : JsonMap) :
    Agree (Graph.Alike related) (left.addNodeFromPayload name component new metadata)
      (right.addNodeFromPayload name component new metadata) := by
  rw [addNodeFromPayload_eq, addNodeFromPayload_eq]
  apply alike.check
  rcases rel_cases (alike.nodes.tryInsert new (relation.added (afterSlash component) metadata)) with
    ⟨left, right⟩ | ⟨_, _, left, right, nodes⟩
  · simp only [left, right]
    exact .error _
  · simp only [left, right]
    exact .ok { alike with nodes }

theorem Alike.removeNode (alike : left.Alike related right) (name node : String) :
    Agree (fun left right : Graph × List GraphEdge => left.1.Alike related right.1 ∧ left.2 = right.2)
      (left.removeNode name node) (right.removeNode name node) := by
  apply alike.check
  by_cases present : node ∈ left.nodes
  · rw [if_pos present, if_pos ((alike.nodes.mem_iff node).mp present)]
    exact .ok ⟨{ alike with nodes := alike.nodes.erase node, edges := by simp only [alike.edges] }, by rw [alike.edges]⟩
  · rw [if_neg present, if_neg fun member => present ((alike.nodes.mem_iff node).mpr member)]
    exact .error _

theorem Alike.renameNode (alike : left.Alike related right) (name old new : String) :
    Agree (Graph.Alike related) (left.renameNode name old new) (right.renameNode name old new) := by
  apply alike.check
  by_cases taken : new ∈ left.nodes
  · rw [if_pos taken, if_pos ((alike.nodes.mem_iff new).mp taken)]
    exact .error _
  · rw [if_neg taken, if_neg fun member => taken ((alike.nodes.mem_iff new).mpr member)]
    rcases rel_cases (alike.nodes old) with ⟨left, right⟩ | ⟨_, _, left, right, node⟩
    · rw [left, right]
      exact .error _
    · rw [left, right]
      rcases rel_cases ((alike.nodes.erase old).tryInsert new node) with ⟨left, right⟩ | ⟨_, _, left, right, nodes⟩
      · simp only [left, right]
        exact .error _
      · simp only [left, right]
        exact .ok { alike with nodes, edges := by simp only [alike.edges] }

/-- The metadata that is answered is that of a pair of related nodes. -/
theorem Alike.changeNode (relation : NodeRelation related) (alike : left.Alike related right) (name node : String)
    (changes : JsonMap) :
    Agree (fun left right : Graph × JsonMap => left.1.Alike related right.1 ∧ ∃ leftNode rightNode,
        related leftNode rightNode ∧ left.2 = leftNode.protocolMetadata ∧ right.2 = rightNode.protocolMetadata)
      (left.changeNode name node changes) (right.changeNode name node changes) := by
  apply alike.check
  rcases rel_cases (alike.nodes node) with ⟨left, right⟩ | ⟨leftNode, rightNode, left, right, nodes⟩
  · rw [left, right]
    exact .error _
  · rw [left, right]
    have changed := relation.changed leftNode rightNode changes nodes
    exact .ok ⟨{ alike with nodes := alike.nodes.adjust node fun _ _ => relation.changed _ _ changes },
      _, _, changed, rfl, rfl⟩

/-! The edges and the groups. -/

theorem Alike.updateEdge (alike : left.Alike related right) (name : String) (source target : GraphNodeSpecNetwork)
    (update : GraphEdge → List GraphEdge) :
    Agree (Graph.Alike related) (left.updateEdge name source target update)
      (right.updateEdge name source target update) := by
  apply alike.check
  rw [alike.edges]
  cases updateFirst (·.joins source target) update right.edges with
  | none => exact .error _
  | some edges => exact .ok { alike with edges := rfl }

theorem Alike.updateGroup (alike : left.Alike related right) (name group : String)
    (update : GraphGroup → List GraphGroup) :
    Agree (Graph.Alike related) (left.updateGroup name group update) (right.updateGroup name group update) := by
  apply alike.check
  rw [alike.groups]
  cases updateFirst (·.name == group) update right.groups with
  | none => exact .error _
  | some groups => exact .ok { alike with groups := rfl }

theorem Alike.addEdge (alike : left.Alike related right) (name : String) (edge : GraphEdge) :
    Agree (Graph.Alike related) (left.addEdge name edge) (right.addEdge name edge) := by
  apply alike.check
  exact .ok { alike with edges := by simp only [alike.edges] }

theorem Alike.addGroup (alike : left.Alike related right) (name group : String) (nodes : List String)
    (metadata : GraphGroupMetadata) :
    Agree (Graph.Alike related) (left.addGroup name group nodes metadata)
      (right.addGroup name group nodes metadata) := by
  apply alike.check
  exact .ok { alike with groups := by simp only [alike.groups] }

theorem Alike.removeInitialip (alike : left.Alike related right) (data : Option String)
    (target : GraphNodeSpecNetwork) :
    Agree (fun left right : Graph × String => left.1.Alike related right.1 ∧ left.2 = right.2)
      (left.removeInitialip data target) (right.removeInitialip data target) := by
  unfold Graph.removeInitialip
  rw [alike.edges]
  split
  · exact .ok ⟨{ alike with edges := rfl }, rfl⟩
  · exact .error _

/-- A request that is answered the same way, once it has changed the graphs alike. -/
theorem respond {leftResult rightResult : Except Failure Graph} (agree : Agree (Graph.Alike related) leftResult rightResult)
    (responses : List GraphResponse) :
    Agree (ResultAlike related) (leftResult >>= fun next => .ok (next, responses))
      (rightResult >>= fun next => .ok (next, responses)) :=
  agree.bind fun _ _ alike => .ok ⟨alike, same_all responses⟩

theorem Alike.exports (alike : left.Alike related right) {leftPorts rightPorts : Except Failure (HashMap String GraphPort)}
    (ports : Agree (HashMap.Alike Eq) leftPorts rightPorts) :
    Agree (Graph.Alike related) (leftPorts.map fun inports => { left with inports })
        (rightPorts.map fun inports => { right with inports }) ∧
      Agree (Graph.Alike related) (leftPorts.map fun outports => { left with outports })
        (rightPorts.map fun outports => { right with outports }) :=
  ⟨ports.map fun _ _ inports => { alike with inports }, ports.map fun _ _ outports => { alike with outports }⟩

/-- One request keeps graphs alike. -/
theorem Alike.perform (relation : NodeRelation related) (alike : left.Alike related right) (running : Bool)
    (request : GraphRequest) :
    Agree (ResultAlike related) (left.perform running request) (right.perform running request) := by
  cases request with
  | clear id label library main icon description => exact respond (alike.clear running id description icon) _
  | addnode id component metadata graph icon =>
      cases graph with
      | none => exact .error _
      | some name => exact respond (alike.addNode relation name component id (withIcon metadata icon)) _
  | removenode id name =>
      apply (alike.removeNode name id).bind
      intro leftResult rightResult results
      obtain ⟨next, removed⟩ := leftResult
      obtain ⟨nextRight, removedRight⟩ := rightResult
      obtain ⟨graphs, same⟩ := results
      cases same
      exact .ok ⟨graphs, same_all _⟩
  | renamenode old new name => exact respond (alike.renameNode name old new) _
  | changenode id metadata name =>
      apply (alike.changeNode relation name id metadata).bind
      intro leftResult rightResult results
      obtain ⟨next, updated⟩ := leftResult
      obtain ⟨nextRight, updatedRight⟩ := rightResult
      obtain ⟨graphs, leftNode, rightNode, nodes, leftSame, rightSame⟩ := results
      cases leftSame
      cases rightSame
      exact .ok ⟨graphs, .cons (.changenode id name nodes) .nil⟩
  | addedge src tgt metadata name => exact respond (alike.addEdge name _) _
  | removeedge name src tgt => exact respond (alike.updateEdge name src tgt _) _
  | changeedge name metadata src tgt => exact respond (alike.updateEdge name src tgt _) _
  | addinitial name metadata data tgt =>
      exact .ok ⟨{ alike with edges := by simp only [Graph.addInitialip, alike.edges] }, same_all _⟩
  | removeinitial name data tgt =>
      apply (alike.removeInitialip data tgt).bind
      intro leftResult rightResult results
      obtain ⟨next, removed⟩ := leftResult
      obtain ⟨nextRight, removedRight⟩ := rightResult
      obtain ⟨graphs, same⟩ := results
      cases same
      exact .ok ⟨graphs, same_all _⟩
  | addinport name publicName node port metadata =>
      exact respond (alike.exports (addPort_alike "inport" alike.inports publicName _)).1 _
  | removeinport name publicName =>
      exact respond (alike.exports (removePort_alike "inport" alike.inports publicName)).1 _
  | renameinport name old new => exact respond (alike.exports (renamePort_alike "inport" alike.inports old new)).1 _
  | addoutport name publicName node port metadata =>
      exact respond (alike.exports (addPort_alike "outport" alike.outports publicName _)).2 _
  | removeoutport name publicName =>
      exact respond (alike.exports (removePort_alike "outport" alike.outports publicName)).2 _
  | renameoutport name old new => exact respond (alike.exports (renamePort_alike "outport" alike.outports old new)).2 _
  | addgroup group name nodes metadata => exact respond (alike.addGroup name group nodes metadata) _
  | removegroup name group => exact respond (alike.updateGroup name group _) _
  | renamegroup name old new => exact respond (alike.updateGroup name old _) _
  | changegroup name group metadata => exact respond (alike.updateGroup name group _) _

theorem Alike.handle (relation : NodeRelation related) (alike : left.Alike related right) (running : Bool)
    (request : GraphRequest) :
    Agree (ResultAlike related) (left.handle running request) (right.handle running request) := by
  have agree := alike.perform relation running request
  unfold Graph.handle
  generalize left.perform running request = leftResult at agree ⊢
  generalize right.perform running request = rightResult at agree ⊢
  cases agree with
  | ok results => exact .ok results
  | error failure =>
      cases failure with
      | error kind text => exact .ok ⟨alike, same_all _⟩
      | panicked text => exact .error text

end Graph

end Flowd.Stored
