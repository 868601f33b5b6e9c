import Flowd.Graph.Requests

namespace Flowd.Stored

/-! Only a graph:clear changes the properties of a graph. -/

/-- What a success comes with. -/
structure Ensures {α : Type} (result : Except Failure α) (holds : α → Prop) : Prop where
  of_ok : ∀ value, result = .ok value → holds value

namespace Ensures

variable {α β : Type} {result : Except Failure α} {holds : α → Prop}

theorem ok {value : α} (property : holds value) : Ensures (.ok value) holds := by
  constructor
  intro other same
  cases same
  exact property

theorem error (failure : Failure) : Ensures (.error failure : Except Failure α) holds := by
  constructor
  intro value impossible
  cases impossible

theorem bind {next : α → Except Failure β} {holdsNext : β → Prop} (first : Ensures result holds)
    (rest : ∀ value, holds value → Ensures (next value) holdsNext) : Ensures (result >>= next) holdsNext := by
  cases result with
  | ok value => exact rest value (first.of_ok value rfl)
  | error failure => exact error failure

theorem map {next : α → β} {holdsNext : β → Prop} (always : ∀ value, holdsNext (next value)) :
    Ensures (result.map next) holdsNext := by
  cases result with
  | ok value => exact ok (always value)
  | error failure => exact error failure

end Ensures

namespace Graph

variable (graph : Graph)

def SameProperties (next : Graph) : Prop := next.properties = graph.properties

/-- After the check of the graph's name. -/
theorem check_ensures {α : Type} {holds : α → Prop} (name : String) {next : Unit → Except Failure α}
    (rest : Ensures (next ()) holds) : Ensures (graph.addressed name >>= next) holds := by
  unfold addressed
  split
  · exact rest
  · exact .error _

theorem addNode_properties (name component new : String) (metadata : GraphNodeMetadata) :
    Ensures (graph.addNode name component new metadata) graph.SameProperties := by
  apply graph.check_ensures
  split
  · exact .ok rfl
  · exact .error _

theorem addNodeFromPayload_properties (name component new : String) (metadata : JsonMap) :
    Ensures (graph.addNodeFromPayload name component new metadata) graph.SameProperties :=
  (graph.addNode_properties _ _ _ _).bind fun _ same => .ok same

theorem removeNode_properties (name node : String) :
    Ensures (graph.removeNode name node) fun result => graph.SameProperties result.1 := by
  apply graph.check_ensures
  split
  · exact .ok rfl
  · exact .error _

theorem renameNode_properties (name old new : String) :
    Ensures (graph.renameNode name old new) graph.SameProperties := by
  apply graph.check_ensures
  split
  · exact .error _
  · split
    · split
      · exact .ok rfl
      · exact .error _
    · exact .error _

theorem changeNode_properties (name node : String) (changes : JsonMap) :
    Ensures (graph.changeNode name node changes) fun result => graph.SameProperties result.1 := by
  apply graph.check_ensures
  split
  · exact .ok rfl
  · exact .error _

theorem updateEdge_properties (name : String) (source target : GraphNodeSpecNetwork)
    (update : GraphEdge → List GraphEdge) : Ensures (graph.updateEdge name source target update) graph.SameProperties := by
  apply graph.check_ensures
  split
  · exact .ok rfl
  · exact .error _

theorem removeInitialip_properties (data : Option String) (target : GraphNodeSpecNetwork) :
    Ensures (graph.removeInitialip data target) fun result => graph.SameProperties result.1 := by
  unfold removeInitialip
  split
  · exact .ok rfl
  · exact .error _

theorem updateGroup_properties (name group : String) (update : GraphGroup → List GraphGroup) :
    Ensures (graph.updateGroup name group update) graph.SameProperties := by
  apply graph.check_ensures
  split
  · exact .ok rfl
  · exact .error _

theorem addEdge_properties (name : String) (edge : GraphEdge) :
    Ensures (graph.addEdge name edge) graph.SameProperties :=
  graph.check_ensures name (.ok rfl)

theorem addGroup_properties (name group : String) (nodes : List String) (metadata : GraphGroupMetadata) :
    Ensures (graph.addGroup name group nodes metadata) graph.SameProperties :=
  graph.check_ensures name (.ok rfl)

theorem inports_properties (ports : Except Failure (HashMap String GraphPort)) :
    Ensures (ports.map fun inports => { graph with inports }) graph.SameProperties :=
  .map fun _ => rfl

theorem outports_properties (ports : Except Failure (HashMap String GraphPort)) :
    Ensures (ports.map fun outports => { graph with outports }) graph.SameProperties :=
  .map fun _ => rfl

variable {graph}

theorem respond_properties {result : Except Failure Graph} (same : Ensures result graph.SameProperties)
    (responses : List GraphResponse) :
    Ensures (result >>= fun next => .ok (next, responses)) fun result => graph.SameProperties result.1 :=
  same.bind fun _ same => .ok same

variable (graph)

theorem perform_properties (running : Bool) (request : GraphRequest)
    (edits : ∀ id label library main icon description, request ≠ .clear id label library main icon description) :
    Ensures (graph.perform running request) fun result => graph.SameProperties result.1 := by
  cases request with
  | clear id label library main icon description => exact absurd rfl (edits id label library main icon description)
  | addnode id component metadata name icon =>
      cases name with
      | none => exact .error _
      | some name => exact respond_properties (graph.addNodeFromPayload_properties _ _ _ _) _
  | removenode id name => exact (graph.removeNode_properties _ _).bind fun _ same => .ok same
  | renamenode old new name => exact respond_properties (graph.renameNode_properties _ _ _) _
  | changenode id metadata name => exact (graph.changeNode_properties _ _ _).bind fun _ same => .ok same
  | addedge src tgt metadata name => exact respond_properties (graph.addEdge_properties _ _) _
  | removeedge name src tgt => exact respond_properties (graph.updateEdge_properties _ _ _ _) _
  | changeedge name metadata src tgt => exact respond_properties (graph.updateEdge_properties _ _ _ _) _
  | addinitial name metadata data tgt => exact .ok rfl
  | removeinitial name data tgt => exact (graph.removeInitialip_properties _ _).bind fun _ same => .ok same
  | addinport name publicName node port metadata => exact respond_properties (graph.inports_properties _) _
  | removeinport name publicName => exact respond_properties (graph.inports_properties _) _
  | renameinport name old new => exact respond_properties (graph.inports_properties _) _
  | addoutport name publicName node port metadata => exact respond_properties (graph.outports_properties _) _
  | removeoutport name publicName => exact respond_properties (graph.outports_properties _) _
  | renameoutport name old new => exact respond_properties (graph.outports_properties _) _
  | addgroup group name nodes metadata => exact respond_properties (graph.addGroup_properties _ _ _ _) _
  | removegroup name group => exact respond_properties (graph.updateGroup_properties _ _ _) _
  | renamegroup name old new => exact respond_properties (graph.updateGroup_properties _ _ _) _
  | changegroup name group metadata => exact respond_properties (graph.updateGroup_properties _ _ _) _

theorem handle_properties {running : Bool} {request : GraphRequest} {next : Graph} {responses : List GraphResponse}
    (edits : ∀ id label library main icon description, request ≠ .clear id label library main icon description)
    (done : graph.handle running request = .ok (next, responses)) : next.properties = graph.properties := by
  unfold handle at done
  split at done
  · next result performed =>
      cases done
      exact (graph.perform_properties running request edits).of_ok _ performed
  · cases done
    rfl
  · cases done

end Graph

end Flowd.Stored
