import Flowd.Graph.Effects
import Flowd.Graph.Properties
import Flowd.Server.Lifecycle

namespace Flowd.Server

open Stored (Cleared GraphRequest clear_same_iff)
open Transition

/-! Which graphs a `graph:*` request touches. -/

/-- A section that only sets what is watched of a network. -/
def Section.watches : Section → Bool
  | .traceStart _ | .traceStop _ | .traceClear _ | .traceDump _ | .edges .. | .debug .. => true
  | _ => false

namespace FlowdServer

/-- The graphs under other names are registered and have the contents they had. -/
def Untouched (id : String) (before after : FlowdServer) : Prop :=
  ∀ name graph, name ≠ id → before.runtime.graphs.getGraph name = some graph →
    after.runtime.graphs.getGraph name = some graph ∧ after.objects graph = before.objects graph

variable (server : FlowdServer)

/-- Every graph is registered under its name, and no graph under two names. -/
structure Named : Prop where
  names : ∀ name graph, server.runtime.graphs.getGraph name = some graph →
    (server.objects graph).properties.name = name
  apart : ∀ name other graph, server.runtime.graphs.getGraph name = some graph →
    server.runtime.graphs.getGraph other = some graph → name = other

/-- What a request is to keep. -/
structure Apart (request : GraphRequest) (before after : FlowdServer) : Prop where
  clear : ∀ id label library main icon description, request = .clear id label library main icon description →
    Untouched id before after
  named : before.Named → after.Named
  addressed : before.Named → ∀ name, request.graph = some name → Untouched name before after

/-- The current graph and the graph of the server are not registered under another name. -/
structure ClearsOwn (id : String) (description icon : Option String) : Prop where
  current : server.runtime.graph = id ∨ server.runtime.graphs.getGraph server.runtime.graph = none
  object : ∀ name, name ≠ id → server.runtime.graphs.getGraph name = some server.graph →
    Cleared (server.objects server.graph) id description icon

def OwnSection : Section → Prop
  -- No handler asks for a graph:clear of another graph than the server's.
  | .edit _ (.clear ..) => False
  | .clear id _ _ _ icon description => server.runtime.status.running = false → server.ClearsOwn id description icon
  | _ => True

/-- The same graphs, registered under the same names. -/
structure SameGraphs (before after : FlowdServer) : Prop where
  objects : after.objects = before.objects
  graph : after.graph = before.graph
  graphs : after.runtime.graphs = before.runtime.graphs

/-- Nor has anything changed for the network that runs. -/
structure SameNetwork (before after : FlowdServer) : Prop extends SameGraphs before after where
  running : after.runtime.status.running = before.runtime.status.running
  started : after.started = before.started
  inports : after.inports = before.inports

variable {server} {next : FlowdServer} {instantiate : String → ProcPorts → Except StartFailure Unit}
  {responses : List Response}

theorem Named.of_names (names : ∀ name graph, server.runtime.graphs.getGraph name = some graph →
    (server.objects graph).properties.name = name) : server.Named :=
  ⟨names, fun name other graph found also => (names name graph found).symm.trans (names other graph also)⟩

theorem SameGraphs.untouched (same : SameGraphs server next) (id : String) : Untouched id server next := by
  intro name graph _ found
  rw [same.graphs, same.objects]
  exact ⟨found, rfl⟩

theorem SameGraphs.named (same : SameGraphs server next) (named : server.Named) : next.Named := by
  apply Named.of_names
  rw [same.graphs, same.objects]
  exact named.names

theorem withRuntime_same {protocol : String} {result : Except (ErrorKind × String) Runtime} {response : Response}
    (done : (.ok (server.withRuntime protocol result response) : Except Halt (FlowdServer × List Response)) =
      .ok (next, responses))
    (same : ∀ runtime, result = .ok runtime →
      runtime.graphs = server.runtime.graphs ∧ runtime.status.running = server.runtime.status.running) :
    SameNetwork server next := by
  cases result with
  | ok runtime =>
      cases done
      obtain ⟨graphs, running⟩ := same runtime rfl
      exact ⟨⟨rfl, rfl, graphs⟩, running, rfl, rfl⟩
  | error failure =>
      cases done
      exact ⟨⟨rfl, rfl, rfl⟩, rfl, rfl, rfl⟩

theorem pointAt_same {graph : String} {runtime : Runtime} {change : Runtime → Except (ErrorKind × String) Runtime}
    (done : (server.runtime.pointAt graph >>= change) = .ok runtime)
    (same : ∀ before after, change before = .ok after →
      after.graphs = before.graphs ∧ after.status.running = before.status.running) :
    runtime.graphs = server.runtime.graphs ∧ runtime.status.running = server.runtime.status.running := by
  obtain ⟨pointed, moved, changed⟩ := Except.bind_ok done
  obtain ⟨_, middle⟩ := pointAt_keeps moved
  subst middle
  have kept := same _ runtime changed
  exact kept

theorem watches_same {work : Section} (done : server.perform instantiate work = .ok (next, responses))
    (watches : work.watches = true) : SameNetwork server next := by
  cases work with
  | edit => cases watches
  | clear => cases watches
  | traceStart graph =>
      apply withRuntime_same done
      intro runtime started
      have started := isCurrent_keeps started
      split at started
      · cases started
      · cases started
        exact ⟨rfl, rfl⟩
  | traceStop graph =>
      apply withRuntime_same done
      intro runtime stopped
      have stopped := isCurrent_keeps stopped
      split at stopped
      · cases stopped
        exact ⟨rfl, rfl⟩
      · cases stopped
  | traceClear graph =>
      apply withRuntime_same done
      intro runtime cleared
      cases current : server.runtime.isCurrent graph with
      | error failure =>
          rw [current] at cleared
          cases cleared
      | ok _ =>
          rw [current] at cleared
          cases cleared
          exact ⟨rfl, rfl⟩
  | traceDump graph =>
      apply withRuntime_same done
      intro runtime dumped
      cases current : server.runtime.isCurrent graph with
      | error failure =>
          rw [current] at dumped
          cases dumped
      | ok _ =>
          rw [current] at dumped
          cases dumped
          exact ⟨rfl, rfl⟩
  | packet => cases watches
  | edges graph edges =>
      apply withRuntime_same done
      intro runtime pointed
      apply pointAt_same pointed
      intro before after set
      cases set
      exact ⟨rfl, rfl⟩
  | start => cases watches
  | acknowledge => cases watches
  | debug graph enable =>
      apply withRuntime_same done
      intro runtime pointed
      apply pointAt_same pointed
      intro before after set
      cases set
      exact ⟨rfl, rfl⟩

/-- `start_cases` for the handler of network:start. -/
theorem perform_start_cases {graph : String} {target : GraphRef}
    (done : server.perform instantiate (.start graph target) = .ok (next, responses)) :
    (server.runtime.refusesStart = true ∧ next = server.pointed graph ∧ ∃ text, responses = [.error "network" text]) ∨
      (server.runtime.refusesStart = false ∧ ¬ server.Starts instantiate target ∧
        (∃ text, responses = [.error "network" text]) ∧
        ∃ inports, next = { (server.pointed graph).begin (server.objects target).network.name with inports }) ∨
      (server.runtime.refusesStart = false ∧ server.Starts instantiate target ∧
        responses = [.started next.runtime.status] ∧ ∃ inports,
          next = ((server.pointed graph).begin (server.objects target).network.name).launch (server.objects target).network
            inports) := by
  obtain ⟨⟨after, failure⟩, started, answered⟩ := Except.bind_ok done
  rcases start_cases started with ⟨refused, same, failed⟩ | ⟨passes, failed, unwired, inports, same⟩ |
    ⟨passes, succeeded, wired, inports, same⟩
  · obtain ⟨problem, failed⟩ := Option.ne_none_iff_exists'.mp failed
    subst failed same
    cases answered
    exact .inl ⟨refused, rfl, _, rfl⟩
  · obtain ⟨problem, failed⟩ := Option.ne_none_iff_exists'.mp failed
    subst failed same
    cases answered
    refine .inr (.inl ⟨passes, ?_, ⟨_, rfl⟩, inports, rfl⟩)
    intro starts
    obtain ⟨_, ports, wired⟩ := starts
    exact unwired ports wired
  · subst succeeded same
    cases answered
    exact .inr (.inr ⟨passes, ⟨passes, wired⟩, rfl, inports, rfl⟩)

/-- A packet that is delivered changes the inports, and nothing else does. -/
theorem perform_packet {payload : RuntimePacketRequestPayload}
    (done : server.perform instantiate (.packet payload) = .ok (next, responses)) :
    ∃ failure, server.packet payload = .ok (next, failure) := by
  obtain ⟨⟨after, failure⟩, pushed, answered⟩ := Except.bind_ok done
  refine ⟨failure, ?_⟩
  cases failure with
  | none =>
      cases answered
      exact pushed
  | some failure =>
      cases answered
      exact pushed

theorem packet_same {payload : RuntimePacketRequestPayload} {failure : Option (ErrorKind × String)}
    (done : server.packet payload = .ok (next, failure)) : next = { server with inports := next.inports } := by
  unfold packet at done
  repeat' split at done
  all_goals cases done
  all_goals rfl

/-- Only an edit and a graph:clear change graphs. -/
theorem perform_graphs {work : Section} (done : server.perform instantiate work = .ok (next, responses))
    (noEdit : ∀ target request, work ≠ .edit target request)
    (noClear : ∀ id label library main icon description, work ≠ .clear id label library main icon description) :
    SameGraphs server next := by
  cases work with
  | edit target request => exact absurd rfl (noEdit target request)
  | clear id label library main icon description => exact absurd rfl (noClear id label library main icon description)
  | packet payload =>
      obtain ⟨_, pushed⟩ := perform_packet done
      rw [packet_same pushed]
      exact ⟨rfl, rfl, rfl⟩
  | start graph target =>
      rcases perform_start_cases done with ⟨_, same, _⟩ | ⟨_, _, _, inports, same⟩ | ⟨_, _, _, inports, same⟩
      · rw [same]
        exact ⟨rfl, rfl, rfl⟩
      · rw [same]
        exact ⟨rfl, rfl, rfl⟩
      · rw [same]
        exact ⟨rfl, rfl, rfl⟩
  | acknowledge graph teardown =>
      cases done
      exact ⟨rfl, rfl, rfl⟩
  | _ => exact (watches_same done rfl).toSameGraphs

/-- An edit keeps the name of the graph it works on. -/
theorem edit_keeps {target : GraphRef} {request : GraphRequest}
    (edits : ∀ id label library main icon description, request ≠ .clear id label library main icon description)
    (done : server.perform instantiate (.edit target request) = .ok (next, responses)) :
    next.runtime = server.runtime ∧
      ∀ graph, (next.objects graph).properties.name = (server.objects graph).properties.name ∧
        (graph ≠ target → next.objects graph = server.objects graph) := by
  simp only [perform] at done
  split at done
  · next changed responses handled =>
      cases done
      refine ⟨rfl, ?_⟩
      intro graph
      change (Function.update server.objects target changed graph).properties.name = _ ∧
        (_ → Function.update server.objects target changed graph = _)
      by_cases same : graph = target
      · subst same
        rw [Function.update_self, Stored.Graph.handle_properties _ edits handled]
        exact ⟨rfl, fun other => absurd rfl other⟩
      · rw [Function.update_of_ne same]
        exact ⟨rfl, fun _ => rfl⟩
  · cases done

theorem edit_named {target : GraphRef} {request : GraphRequest}
    (edits : ∀ id label library main icon description, request ≠ .clear id label library main icon description)
    (done : server.perform instantiate (.edit target request) = .ok (next, responses)) (named : server.Named) :
    next.Named := by
  obtain ⟨runtime, objects⟩ := edit_keeps edits done
  apply Named.of_names
  intro name graph found
  rw [runtime] at found
  rw [(objects graph).1]
  exact named.names name graph found

/-- The graph of a name is registered under no other name. -/
theorem Named.getGraphByName {name : String} {graph : GraphRef} (named : server.Named)
    (found : server.getGraphByName name = some graph) :
    (server.objects graph).properties.name = name := by
  unfold FlowdServer.getGraphByName at found
  split at found
  · next registered =>
      cases found
      exact named.names name _ registered
  · split at found
    · next same =>
        cases found
        exact same
    · cases found

theorem edit_untouched {name : String} {target : GraphRef} {request : GraphRequest}
    (edits : ∀ id label library main icon description, request ≠ .clear id label library main icon description)
    (done : server.perform instantiate (.edit target request) = .ok (next, responses)) (named : server.Named)
    (found : server.getGraphByName name = some target) : Untouched name server next := by
  obtain ⟨runtime, objects⟩ := edit_keeps edits done
  intro other graph different registered
  rw [runtime]
  refine ⟨registered, (objects graph).2 ?_⟩
  intro same
  subst same
  exact different ((named.names other graph registered).symm.trans (named.getGraphByName found))

theorem replaced_getGraph (manager : MultiGraphManager) (previous id : String) (graph : GraphRef) (name : String) :
    ((if previous ≠ id then (manager.addGraph id graph).removeGraph previous
        else manager.addGraph id graph).setActiveGraph id).getGraph name =
      if name = id then some graph else if name = previous then none else manager.getGraph name := by
  have active : ∀ (manager : MultiGraphManager), (manager.setActiveGraph id).getGraph name = manager.getGraph name := by
    intro manager
    unfold MultiGraphManager.setActiveGraph
    split <;> rfl
  have added : (manager.addGraph id graph).getGraph name = if name = id then some graph else manager.getGraph name :=
    HashMap.lookup_insert_ite manager.graphs id name graph
  rw [active]
  by_cases current : previous = id
  · rw [if_neg (not_not_intro current), added, current]
    split <;> rfl
  · rw [if_pos current]
    change (AList.erase previous (manager.addGraph id graph).graphs).lookup name = _
    by_cases gone : name = previous
    · subst gone
      rw [AList.lookup_erase, if_neg current, if_pos rfl]
    · rw [AList.lookup_erase_ne gone, if_neg gone]
      exact added

variable {id : String} {label library icon description : Option String} {main : Bool}

/-- A graph:clear fails while a network runs; else it empties and registers the graph of the
server, and the current graph goes. -/
theorem clear_cases (server : FlowdServer) (id : String) (label library : Option String) (main : Bool)
    (icon description : Option String) :
    (server.runtime.status.running = true ∧ (server.clear id label library main icon description).1 = server) ∨
      (server.runtime.status.running = false ∧
        ∃ cleared, (server.objects server.graph).clear false id description icon = .ok cleared ∧
          (server.clear id label library main icon description).1.objects =
            Function.update server.objects server.graph cleared ∧
          ∀ name, (server.clear id label library main icon description).1.runtime.graphs.getGraph name =
            if name = id then some server.graph
            else if name = server.runtime.graph then none else server.runtime.graphs.getGraph name) := by
  unfold FlowdServer.clear
  cases running : server.runtime.status.running with
  | true => exact .inl ⟨rfl, rfl⟩
  | false =>
      refine .inr ⟨rfl, _, rfl, rfl, ?_⟩
      exact replaced_getGraph server.runtime.graphs server.runtime.graph id server.graph

theorem clear_untouched_iff (stopped : server.runtime.status.running = false) :
    Untouched id server (server.clear id label library main icon description).1 ↔
      server.ClearsOwn id description icon := by
  rcases server.clear_cases id label library main icon description with ⟨runs, _⟩ | ⟨_, cleared, done, objects, graphs⟩
  · cases stopped.symm.trans runs
  · constructor
    · intro untouched
      constructor
      · by_contra lost
        rw [not_or] at lost
        obtain ⟨other, registered⟩ := lost
        obtain ⟨graph, found⟩ := Option.ne_none_iff_exists'.mp registered
        have still := (untouched _ graph other found).1
        rw [graphs, if_neg other, if_pos rfl] at still
        cases still
      · intro name other found
        have same := (untouched name server.graph other found).2
        rw [objects, Function.update_self] at same
        exact (clear_same_iff done).mp same
    · intro own name graph other found
      constructor
      · rw [graphs, if_neg other]
        split
        · next gone =>
            subst gone
            rcases own.current with same | missing
            · exact absurd same other
            · cases found.symm.trans missing
        · exact found
      · rw [objects]
        by_cases same : graph = server.graph
        · subst same
          rw [Function.update_self]
          exact (clear_same_iff done).mpr (own.object name other found)
        · exact Function.update_of_ne same _ _

theorem clear_named (named : server.Named) (own : server.ClearsOwn id description icon) :
    (server.clear id label library main icon description).1.Named := by
  rcases server.clear_cases id label library main icon description with ⟨_, same⟩ | ⟨stopped, cleared, done, objects, graphs⟩
  · rw [same]
    exact named
  · apply Named.of_names
    intro name graph found
    by_cases same : name = id
    · subst same
      rw [graphs, if_pos rfl] at found
      cases found
      rw [objects, Function.update_self]
      cases done
      rfl
    · have before : server.runtime.graphs.getGraph name = some graph := by
        rw [graphs, if_neg same] at found
        split at found
        · cases found
        · exact found
      have untouched : Untouched id server (server.clear id label library main icon description).1 :=
        (clear_untouched_iff stopped).mpr own
      have kept := (untouched name graph same before).2
      rw [kept]
      exact named.names name graph before

variable (server)

/-- A graph:clear that is let through takes nothing from other graphs. -/
def OwnRequest (secret : Option String) (request : GraphRequest) : Prop :=
  ∀ id label library main icon description, request = .clear id label library main icon description →
    server.forbids secret id .readWrite = false → server.runtime.status.running = false →
      server.ClearsOwn id description icon

variable {server} {secret : Option String} {request : GraphRequest}

theorem apart_self (server : FlowdServer) (request : GraphRequest) : Apart request server server :=
  have same : SameGraphs server server := ⟨rfl, rfl, rfl⟩
  ⟨fun id _ _ _ _ _ _ => same.untouched id, fun named => named, fun _ name _ => same.untouched name⟩

theorem clear_apart_iff (done : server.handle instantiate (.graph secret (.clear id label library main icon description)) =
    .ok (next, responses)) :
    Apart (.clear id label library main icon description) server next ↔
      server.OwnRequest secret (.clear id label library main icon description) := by
  unfold handle plan planGraph guarded at done
  dsimp only at done
  cases allowed : server.forbids secret id .readWrite with
  | true =>
      rw [allowed, if_pos rfl] at done
      cases done
      refine iff_of_true (apart_self server _) ?_
      intro id label library main icon description same passed
      cases same
      cases allowed.symm.trans passed
  | false =>
      rw [allowed, if_neg Bool.false_ne_true] at done
      have same : next = (server.clear id label library main icon description).1 :=
        congrArg Prod.fst (Except.ok.inj done).symm
      subst same
      cases running : server.runtime.status.running with
      | true =>
          have idle : (server.clear id label library main icon description).1 = server := by
            rcases server.clear_cases id label library main icon description with ⟨_, same⟩ | ⟨stopped, _⟩
            · exact same
            · cases stopped.symm.trans running
          rw [idle]
          refine iff_of_true (apart_self server _) ?_
          intro id label library main icon description _ _ stopped
          cases running.symm.trans stopped
      | false =>
          constructor
          · intro apart id label library main icon description same _ stopped
            cases same
            exact (clear_untouched_iff stopped).mp (apart.clear _ _ _ _ _ _ rfl)
          · intro own
            have own := own id label library main icon description rfl allowed running
            have untouched : Untouched id server (server.clear id label library main icon description).1 :=
              (clear_untouched_iff running).mpr own
            refine ⟨?_, fun named => clear_named named own, ?_⟩
            · intro id label library main icon description same
              cases same
              exact untouched
            · intro _ name same
              cases same
              exact untouched

theorem edit_apart (edits : ∀ id label library main icon description, request ≠ .clear id label library main icon description)
    (done : server.handle instantiate (.graph secret request) = .ok (next, responses)) : Apart request server next := by
  have planned : (∃ answer, server.planGraph secret request = .answer answer) ∨
      ∃ name target, request.graph = some name ∧ server.getGraphByName name = some target ∧
        server.planGraph secret request = .proceed (.edit target request) := by
    unfold planGraph
    split
    · next id label library main icon description => exact absurd rfl (edits id label library main icon description)
    · split
      · exact .inl ⟨_, rfl⟩
      · next name addressed =>
          unfold FlowdServer.addressed guarded
          split
          · exact .inl ⟨_, rfl⟩
          · split
            · exact .inl ⟨_, rfl⟩
            · next target found => exact .inr ⟨name, target, addressed, found, rfl⟩
  rw [handle, plan] at done
  rcases planned with ⟨answer, planned⟩ | ⟨name, target, addressed, found, planned⟩
  · rw [planned] at done
    cases done
    exact apart_self server request
  · rw [planned] at done
    refine ⟨?_, edit_named edits done, ?_⟩
    · intro id label library main icon description same
      exact absurd same (edits id label library main icon description)
    · intro named other same
      cases addressed.symm.trans same
      exact edit_untouched edits done named found

/-- A `graph:*` request touches no other graph just if it is no graph:clear that takes
something from one. -/
theorem request_apart_iff (done : server.handle instantiate (.graph secret request) = .ok (next, responses)) :
    Apart request server next ↔ server.OwnRequest secret request := by
  by_cases clears : ∃ id label library main icon description, request = .clear id label library main icon description
  · obtain ⟨id, label, library, main, icon, description, same⟩ := clears
    subst same
    exact clear_apart_iff done
  · have edits : ∀ id label library main icon description, request ≠ .clear id label library main icon description :=
      fun id label library main icon description same => clears ⟨id, label, library, main, icon, description, same⟩
    refine iff_of_true (edit_apart edits done) ?_
    intro id label library main icon description same
    exact absurd same (edits id label library main icon description)

theorem section_named {work : Section} (done : server.perform instantiate work = .ok (next, responses))
    (own : server.OwnSection work) (named : server.Named) : next.Named := by
  by_cases edit : ∃ target request, work = .edit target request
  · obtain ⟨target, request, same⟩ := edit
    subst same
    apply edit_named _ done named
    intro id label library main icon description same
    subst same
    exact own
  · by_cases clears : ∃ id label library main icon description, work = .clear id label library main icon description
    · obtain ⟨id, label, library, main, icon, description, same⟩ := clears
      subst same
      have same : next = (server.clear id label library main icon description).1 :=
        congrArg Prod.fst (Except.ok.inj done).symm
      subst same
      rcases server.clear_cases id label library main icon description with ⟨_, same⟩ | ⟨stopped, _⟩
      · rw [same]
        exact named
      · exact clear_named named (own stopped)
    · apply (perform_graphs done _ _).named named
      · intro target request same
        exact edit ⟨target, request, same⟩
      · intro id label library main icon description same
        exact clears ⟨id, label, library, main, icon, description, same⟩

end FlowdServer

namespace Life

variable {instantiate : String → ProcPorts → Except StartFailure Unit} {life after : Life} {events trace : List Event}

def OwnMove (life : Life) (move : Move) : Prop := ∀ work, life.task move = some work → life.server.OwnSection work

theorem step_named {move : Move} (named : life.server.Named) (own : life.OwnMove move)
    (done : life.step instantiate move = some (after, events)) : after.server.Named := by
  rcases step_cases done with ⟨_, _, same, _⟩ | ⟨work, asked, worked⟩ | ⟨number, late, _, _, stopped⟩ |
    ⟨late, _, stopped⟩ | ⟨attempt, _, same, _⟩
  · rw [same]
    exact named
  · rcases work_server worked with same | ⟨responses, performed⟩
    · rw [same]
      exact named
    · exact FlowdServer.section_named performed (own work asked) named
  · obtain ⟨_, same, _⟩ := stop_cases stopped
    have graphs : FlowdServer.SameGraphs life.server after.server := by
      rw [same]
      exact ⟨rfl, rfl, life.server.runtime.stop_graphs late false⟩
    exact graphs.named named
  · obtain ⟨_, same, _⟩ := stop_cases stopped
    have graphs : FlowdServer.SameGraphs life.server after.server := by
      rw [same]
      exact ⟨rfl, rfl, life.server.runtime.stop_graphs late true⟩
    exact graphs.named named
  · rw [same]
    exact named

/-- As long as no graph:clear takes anything from other graphs, every graph is registered
under its name.  In whatever state, a request touches other graphs only by such a graph:clear. -/
theorem graphs_apart {first : FlowdServer} (named : first.Named)
    (run : (machine instantiate).Run OwnMove (fresh first) trace life) :
    life.server.Named ∧ ∀ (server next : FlowdServer) secret request responses,
      server.handle instantiate (.graph secret request) = .ok (next, responses) →
        (FlowdServer.Apart request server next ↔ server.OwnRequest secret request) := by
  constructor
  · apply run.invariant fun life => life.server.Named
    · exact named
    · intro life move after events own named step
      exact step_named named own step
  · intro server next secret request responses done
    exact FlowdServer.request_apart_iff done

theorem twoGraphs_named : twoGraphs.Named := by
  apply FlowdServer.Named.of_names
  intro name graph found
  have member : ⟨name, graph⟩ ∈ twoGraphs.runtime.graphs.graphs.entries := AList.mem_lookup_iff.mp found
  have entries : twoGraphs.runtime.graphs.graphs.entries = [⟨"other", 2⟩, ⟨"main", 1⟩, ⟨"main_graph", 0⟩] := by decide
  rw [entries] at member
  simp only [List.mem_cons, List.not_mem_nil, or_false] at member
  rcases member with same | same | same <;> cases same <;> rfl

theorem graphs_apart_cleared :
    let clear : Move := .request (.graph none (.clear "main" none none true none none))
    ((machine constructAny).played (fresh twoGraphs) [clear]).server.Named ∧
      ∀ (server next : FlowdServer) secret request responses,
        server.handle constructAny (.graph secret request) = .ok (next, responses) →
          (FlowdServer.Apart request server next ↔ server.OwnRequest secret request) := by
  intro clear
  have own : (fresh twoGraphs).OwnMove clear := by
    intro work asked
    cases asked
    intro _
    refine ⟨.inl rfl, ?_⟩
    intro name other found
    exact absurd (twoGraphs_named.apart name "main" _ found rfl) other
  exact graphs_apart twoGraphs_named ((machine constructAny).run_played ⟨own, trivial⟩ rfl)

/-- Debug mode has been turned on for "other".  A graph:clear of a new graph removes "other"
and makes "main" a second name of what it registers. -/
theorem clear_takes : ∃ trace life, (machine constructAny).Run anyMove (fresh twoGraphs) trace life ∧ life.server.Named ∧
    ∃ next responses,
      life.server.handle constructAny (.graph none (.clear "new" none none true none none)) = .ok (next, responses) ∧
      ¬ FlowdServer.Untouched "new" life.server next ∧ ¬ next.Named := by
  have run := (machine constructAny).run_played (Machine.permits_any (fresh twoGraphs)
    [.request (.debug none "other" true)]) rfl
  refine ⟨_, _, run, ?_, _, _, rfl, ?_, ?_⟩
  · exact ⟨twoGraphs_named.names, twoGraphs_named.apart⟩
  · intro untouched
    exact absurd (untouched "other" 2 (by decide) rfl).1 (by decide)
  · intro named
    exact absurd (named.apart "main" "new" 1 rfl rfl) (by decide)

end Life

end Flowd.Server
