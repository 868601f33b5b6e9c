import Flowd.Graph.Persist
import Flowd.Server.State

namespace Flowd.Server

/-! Starting with a persisted graph set, and persisting again. -/

open Stored (PersistedGraphSet loadGraphSet activeOf cloneGraphs)

variable {components : List ComponentInfo} {secrets : HashMap String (String × AccessLevel)}
variable {loaded : HashMap String Stored.Graph} {active name : String}

namespace FlowdServer

/-- The registered graphs, as `Runtime::persist` reads them. -/
def graphSet (server : FlowdServer) : HashMap String Stored.Graph :=
  server.runtime.graphs.graphs.mapValues server.objects

/-- `Runtime::persist` with the graph of the server, as on SIGTERM. -/
def persist (server : FlowdServer) : Option JsonValue :=
  Stored.persist server.graphSet server.runtime.graph (server.objects server.graph)

/-- The graph of the runtime, that of its status and that of the manager are this one. -/
def Activates (server : FlowdServer) (active : String) : Prop :=
  server.runtime.graph = active ∧ server.runtime.status.graph = active ∧ server.runtime.graphs.activeGraph = active

end FlowdServer

/-! What is registered at start-up. -/

theorem mem_addGraphs (name : String) (entries : List (String × GraphRef)) (manager : MultiGraphManager) :
    name ∈ (entries.foldl (fun manager entry => manager.addGraph entry.1 (entry.2 + 1)) manager).graphs ↔
      name ∈ entries.map Prod.fst ∨ name ∈ manager.graphs := by
  induction entries generalizing manager with
  | nil => simp
  | cons entry rest ih =>
      rw [List.foldl_cons, ih]
      simp only [MultiGraphManager.addGraph, AList.mem_insert, List.map_cons, List.mem_cons]
      tauto

theorem setActiveGraph_graphs (manager : MultiGraphManager) (id : String) :
    (manager.setActiveGraph id).graphs = manager.graphs := by
  unfold MultiGraphManager.setActiveGraph
  split <;> rfl

/-- The graphs that were loaded are registered, and the one of `Runtime::new`. -/
theorem mem_load (components : List ComponentInfo) (secrets : HashMap String (String × AccessLevel))
    (loaded : HashMap String Stored.Graph) (active name : String) :
    name ∈ (load components secrets loaded active).runtime.graphs.graphs ↔ name ∈ loaded ∨ name = "main_graph" := by
  have added := mem_addGraphs name (loaded.entries.map Sigma.fst).zipIdx
    ⟨AList.singleton "main_graph" 0, "main_graph"⟩
  have own : name ∈ (AList.singleton "main_graph" 0 : HashMap String GraphRef) ↔ name = "main_graph" :=
    List.mem_singleton
  rw [List.zipIdx_map_fst, own] at added
  rw [load, setActiveGraph_graphs]
  exact added

/-- The manager's active graph is the one that was loaded, but `status.graph` keeps the name that `Runtime::new`
was given. -/
theorem activates_load (components : List ComponentInfo) (secrets : HashMap String (String × AccessLevel))
    (known : active ∈ loaded) :
    (load components secrets loaded active).Activates active ↔ active = "main_graph" := by
  have registered := (mem_load components secrets loaded active active).mpr (.inl known)
  have manager : (load components secrets loaded active).runtime.graphs.activeGraph = active := by
    rw [load, setActiveGraph_graphs] at registered
    rw [load, MultiGraphManager.setActiveGraph, if_pos registered]
  constructor
  · rintro ⟨-, status, -⟩
    exact status.symm
  · intro main
    exact ⟨rfl, main.symm, manager⟩

/-! What is written then. -/

/-- The set is loaded, the runtime agrees on its active graph, and what is persisted then has the same names
and the same active graph. -/
def Restarts (components : List ComponentInfo) (secrets : HashMap String (String × AccessLevel))
    (set : PersistedGraphSet) : Prop :=
  ∃ loaded active file written, loadGraphSet set.toJson = some (loaded, active) ∧
    (load components secrets loaded active).persist = some file ∧ PersistedGraphSet.ofJson file = some written ∧
    (∀ name, name ∈ written.graphs ↔ name ∈ set.graphs) ∧ written.activeGraph = set.activeGraph ∧
    (load components secrets loaded active).Activates set.activeGraph

/-- The server starts with the active graph of the set, and adds "main_graph" to the names that are persisted. -/
theorem restart (components : List ComponentInfo) (secrets : HashMap String (String × AccessLevel))
    (set : PersistedGraphSet) (home : set.activeGraph ∈ set.graphs) :
    ∃ loaded file written, loadGraphSet set.toJson = some (loaded, set.activeGraph) ∧ set.activeGraph ∈ loaded ∧
      (load components secrets loaded set.activeGraph).persist = some file ∧
      PersistedGraphSet.ofJson file = some written ∧
      (∀ name, name ∈ written.graphs ↔ name ∈ set.graphs ∨ name = "main_graph") ∧
      written.activeGraph = set.activeGraph := by
  obtain ⟨graph, stored⟩ := Option.isSome_iff_exists.mp (AList.lookup_isSome.mpr home)
  obtain ⟨loaded, read, sameLoaded⟩ := Stored.loadGraphSet_eq set stored
  have same := HashMap.mem_of_lookup_map sameLoaded
  have known := (same set.activeGraph).mpr home
  rw [activeOf, if_pos known] at read
  have members : ∀ name, name ∈ (load components secrets loaded set.activeGraph).graphSet ↔
      name ∈ loaded ∨ name = "main_graph" := by
    intro name
    rw [FlowdServer.graphSet, HashMap.mem_of_lookup_map (HashMap.lookup_mapValues _ _)]
    exact mem_load components secrets loaded set.activeGraph name
  obtain ⟨first, registered⟩ :=
    Option.isSome_iff_exists.mp (AList.lookup_isSome.mpr ((members set.activeGraph).mpr (.inl known)))
  obtain ⟨clones, file, sameClones⟩ := Stored.persist_eq registered set.activeGraph
    ((load components secrets loaded set.activeGraph).objects (load components secrets loaded set.activeGraph).graph)
  have cloned := HashMap.mem_of_lookup_map sameClones
  have clone : set.activeGraph ∈ clones := (cloned set.activeGraph).mpr ((members set.activeGraph).mpr (.inl known))
  rw [activeOf, if_pos clone] at file
  obtain ⟨written, again, sameWritten⟩ := PersistedGraphSet.ofJson_toJson ⟨set.activeGraph, clones⟩
  refine ⟨loaded, _, ⟨set.activeGraph, written⟩, read, known, file, again, ?_, rfl⟩
  intro name
  rw [HashMap.mem_of_lookup_map sameWritten, cloned, members, same]

/-- A restart preserves the graph set iff "main_graph" is its active graph. -/
theorem restarts_iff (components : List ComponentInfo) (secrets : HashMap String (String × AccessLevel))
    (set : PersistedGraphSet) (home : set.activeGraph ∈ set.graphs) :
    Restarts components secrets set ↔ set.activeGraph = "main_graph" := by
  obtain ⟨loaded, file, written, read, known, done, again, names, active⟩ := restart components secrets set home
  constructor
  · rintro ⟨loaded', active', _, _, read', -, -, -, -, activates⟩
    cases Option.some.inj (read.symm.trans read')
    exact (activates_load components secrets known).mp activates
  · intro main
    refine ⟨loaded, _, file, written, read, done, again, ?_, active,
      (activates_load components secrets known).mpr main⟩
    intro name
    rw [names, or_iff_left_iff_imp]
    rintro rfl
    exact main ▸ home

/-- "main_graph" with a node, and another graph. -/
def mainAndOther : PersistedGraphSet where
  activeGraph := "main_graph"
  graphs := AList.insert "other" (.new "other" "" "") (AList.singleton "main_graph"
    { Stored.Graph.new "main_graph" "" "" with nodes := AList.singleton "Repeat" ⟨"Repeat", .default, []⟩ })

theorem restarts_iff_mainAndOther : Restarts [] ∅ mainAndOther :=
  (restarts_iff [] ∅ mainAndOther (by decide)).mpr rfl

/-- A set with one graph "a" comes back with "main_graph" next to it. -/
theorem restart_adds_mainGraph :
    ¬ ∀ components secrets set, set.activeGraph ∈ set.graphs → Restarts components secrets set := by
  intro restarts
  have home : "a" ∈ (AList.singleton "a" (.new "a" "" "") : HashMap String Stored.Graph) := List.mem_singleton_self _
  obtain ⟨loaded, file, written, read, -, done, again, names, -⟩ := restart [] ∅ ⟨"a", _⟩ home
  obtain ⟨_, _, _, _, read', done', again', kept, -, -⟩ := restarts [] ∅ ⟨"a", _⟩ home
  cases Option.some.inj (read.symm.trans read')
  cases Option.some.inj (done.symm.trans done')
  cases Option.some.inj (again.symm.trans again')
  have extra := (kept "main_graph").mp ((names "main_graph").mpr (.inr rfl))
  simpa using List.mem_singleton.mp extra

end Flowd.Server
