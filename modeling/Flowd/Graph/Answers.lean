import Flowd.Graph.Requests

namespace Flowd

/-! No `expect` of a graph operation fails. -/

/-- A result or an error, but no panic. -/
def Answers {α : Type} (result : Except StartFailure α) : Prop := ∀ text, result ≠ .error (.panicked text)

namespace Answers

variable {α β : Type} {result : Except StartFailure α}

theorem ok (value : α) : Answers (.ok value : Except StartFailure α) := by
  intro text same
  cases same

theorem error (kind : ErrorKind) (message : String) : Answers (.error (.error kind message) : Except StartFailure α) := by
  intro text same
  cases same

theorem bind {next : α → Except StartFailure β} (first : Answers result)
    (rest : ∀ value, result = .ok value → Answers (next value)) : Answers (result >>= next) := by
  cases result with
  | ok value => exact rest value rfl
  | error failure =>
      intro text same
      exact first text (congrArg Except.error (Except.error.inj same))

theorem map {next : α → β} (first : Answers result) : Answers (result.map next) := by
  cases result with
  | ok value => exact ok (next value)
  | error failure =>
      intro text same
      exact first text (congrArg Except.error (Except.error.inj same))

end Answers

namespace Stored.Graph

/-- A key that is free stays so when another key is removed. -/
theorem tryInsert_erase {V : Type} {map : HashMap String V} {new : String} (free : new ∉ map) (old : String)
    (value : V) : ∃ next, HashMap.tryInsert (AList.erase old map) new value = some next := by
  have absent : new ∉ AList.erase old map := fun member => free (AList.mem_erase.mp member).2
  exact ⟨_, if_neg absent⟩

theorem addPort_answers (what : String) (ports : HashMap String GraphPort) (name : String) (portdef : GraphPort) :
    Answers (addPort what ports name portdef) := by
  unfold addPort
  split
  · exact .ok _
  · exact .error _ _

theorem removePort_answers (what : String) (ports : HashMap String GraphPort) (name : String) :
    Answers (removePort what ports name) := by
  unfold removePort
  split
  · exact .ok _
  · exact .error _ _

theorem renamePort_answers (what : String) (ports : HashMap String GraphPort) (old new : String) :
    Answers (renamePort what ports old new) := by
  unfold renamePort
  split
  · exact .error _ _
  · next free =>
      split
      · next port found =>
          obtain ⟨next, inserted⟩ := tryInsert_erase free old port
          rw [inserted]
          exact .ok _
      · exact .error _ _

variable (graph : Graph)

/-- After the check of the graph's name. -/
theorem check_answers {α : Type} (name : String) {next : Unit → Except Failure α} (rest : Answers (next ())) :
    Answers (graph.addressed name >>= next) := by
  unfold addressed
  split
  · exact rest
  · exact .error _ _

theorem clear_answers (running : Bool) (name : String) (description icon : Option String) :
    Answers (graph.clear running name description icon) := by
  unfold clear
  split
  · exact .error _ _
  · exact .ok _

theorem addNodeFromPayload_answers (name component new : String) (metadata : JsonMap) :
    Answers (graph.addNodeFromPayload name component new metadata) := by
  apply Answers.bind
  · apply graph.check_answers
    split
    · exact .ok _
    · exact .error _ _
  · intro _ _
    exact .ok _

theorem removeNode_answers (name node : String) : Answers (graph.removeNode name node) := by
  apply graph.check_answers
  split
  · exact .ok _
  · exact .error _ _

theorem renameNode_answers (name old new : String) : Answers (graph.renameNode name old new) := by
  apply graph.check_answers
  split
  · exact .error _ _
  · next free =>
      split
      · next node found =>
          obtain ⟨next, inserted⟩ := tryInsert_erase free old node
          rw [inserted]
          exact .ok _
      · exact .error _ _

theorem changeNode_answers (name node : String) (changes : JsonMap) : Answers (graph.changeNode name node changes) := by
  apply graph.check_answers
  split
  · exact .ok _
  · exact .error _ _

theorem addEdge_answers (name : String) (edge : GraphEdge) : Answers (graph.addEdge name edge) :=
  graph.check_answers name (.ok _)

theorem addGroup_answers (name group : String) (nodes : List String) (metadata : GraphGroupMetadata) :
    Answers (graph.addGroup name group nodes metadata) :=
  graph.check_answers name (.ok _)

theorem updateEdge_answers (name : String) (source target : GraphNodeSpecNetwork)
    (update : GraphEdge → List GraphEdge) : Answers (graph.updateEdge name source target update) := by
  apply graph.check_answers
  split
  · exact .ok _
  · exact .error _ _

theorem removeInitialip_answers (data : Option String) (target : GraphNodeSpecNetwork) :
    Answers (graph.removeInitialip data target) := by
  unfold removeInitialip
  split
  · exact .ok _
  · exact .error _ _

theorem updateGroup_answers (name group : String) (update : GraphGroup → List GraphGroup) :
    Answers (graph.updateGroup name group update) := by
  apply graph.check_answers
  split
  · exact .ok _
  · exact .error _ _

theorem respond_answers {α : Type} {result : Except Failure α} (answers : Answers result)
    (response : α → Graph × List GraphResponse) : Answers (result >>= fun next => .ok (response next)) :=
  answers.bind fun _ _ => .ok _

theorem perform_answers (running : Bool) (request : GraphRequest) : Answers (graph.perform running request) := by
  cases request with
  | clear id label library main icon description => exact respond_answers (graph.clear_answers _ _ _ _) _
  | addnode id component metadata name icon =>
      cases name with
      | none => exact .error _ _
      | some name => exact respond_answers (graph.addNodeFromPayload_answers _ _ _ _) _
  | removenode id name => exact respond_answers (graph.removeNode_answers _ _) _
  | renamenode old new name => exact respond_answers (graph.renameNode_answers _ _ _) _
  | changenode id metadata name => exact respond_answers (graph.changeNode_answers _ _ _) _
  | addedge src tgt metadata name => exact respond_answers (graph.addEdge_answers _ _) _
  | removeedge name src tgt => exact respond_answers (graph.updateEdge_answers _ _ _ _) _
  | changeedge name metadata src tgt => exact respond_answers (graph.updateEdge_answers _ _ _ _) _
  | addinitial name metadata data tgt => exact .ok _
  | removeinitial name data tgt => exact respond_answers (graph.removeInitialip_answers _ _) _
  | addinport name publicName node port metadata => exact respond_answers (addPort_answers _ _ _ _).map _
  | removeinport name publicName => exact respond_answers (removePort_answers _ _ _).map _
  | renameinport name old new => exact respond_answers (renamePort_answers _ _ _ _).map _
  | addoutport name publicName node port metadata => exact respond_answers (addPort_answers _ _ _ _).map _
  | removeoutport name publicName => exact respond_answers (removePort_answers _ _ _).map _
  | renameoutport name old new => exact respond_answers (renamePort_answers _ _ _ _).map _
  | addgroup group name nodes metadata => exact respond_answers (graph.addGroup_answers _ _ _ _) _
  | removegroup name group => exact respond_answers (graph.updateGroup_answers _ _ _) _
  | renamegroup name old new => exact respond_answers (graph.updateGroup_answers _ _ _) _
  | changegroup name group metadata => exact respond_answers (graph.updateGroup_answers _ _ _) _

/-- Every request is answered. -/
theorem handle_ok (running : Bool) (request : GraphRequest) : ∃ result, graph.handle running request = .ok result := by
  have answers := graph.perform_answers running request
  unfold handle
  split
  · exact ⟨_, rfl⟩
  · exact ⟨_, rfl⟩
  · next text panicked => exact absurd panicked (answers text)

end Stored.Graph

end Flowd
