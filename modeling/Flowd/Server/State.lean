import Flowd.Graph.Requests

namespace Flowd.Server

/-! The state of the server, and what its handlers look up in it. -/

/-- Which graph object: an `Arc<RwLock<Graph>>`. -/
abbrev GraphRef := Nat

/-- Which call of `Runtime::start` has made a scheduler, a thread or a channel. -/
abbrev Attempt := Nat

inductive AccessLevel where
  | readOnly
  | readWrite
deriving DecidableEq, Repr

structure RuntimeStatus where
  graph : String
  started : Bool
  running : Bool
  debug : Option Bool
deriving DecidableEq, Repr

structure GraphEdgeSpec where
  src : GraphNodeSpecNetwork
  tgt : GraphNodeSpecNetwork

structure MultiGraphManager where
  graphs : HashMap String GraphRef
  activeGraph : String

namespace MultiGraphManager

variable (manager : MultiGraphManager)

def getGraph (id : String) : Option GraphRef := manager.graphs.lookup id

def addGraph (id : String) (graph : GraphRef) : MultiGraphManager :=
  { manager with graphs := AList.insert id graph manager.graphs }

def removeGraph (id : String) : MultiGraphManager := { manager with graphs := AList.erase id manager.graphs }

/-- Without an error for a graph that is not registered: no caller looks at it. -/
def setActiveGraph (id : String) : MultiGraphManager :=
  if id ∈ manager.graphs then { manager with activeGraph := id } else manager

end MultiGraphManager

structure Runtime where
  graph : String
  status : RuntimeStatus
  tracing : Bool
  traceSender : Option Attempt
  boundaryThreads : HashMap String Attempt
  watchdogThread : Option Attempt
  watchdogChannel : Option Attempt
  schedulerThreads : HashMap String Attempt
  schedulers : HashMap String Attempt
  secrets : HashMap String (String × AccessLevel)
  graphs : MultiGraphManager
  debugEdges : HashMap String (List GraphEdgeSpec)

namespace Runtime

variable (runtime : Runtime)

/-- No secret, or the right one with enough access. -/
def validateSecretWithAccess (secret : Option String) (graph : String) (required : AccessLevel) :
    Except (ErrorKind × String) Unit :=
  match secret with
  | none => .ok ()
  | some secret =>
      if secret.isEmpty then .ok ()
      else
        match runtime.secrets.lookup graph with
        | none => .error (.permissionDenied, "no secret configured for graph")
        | some (expected, access) =>
            if secret ≠ expected then .error (.permissionDenied, "invalid secret token")
            else if access = .readOnly ∧ required = .readWrite then
              .error (.permissionDenied, "readonly access not sufficient for write operation")
            else .ok ()

def validateSecret (secret : Option String) (graph : String) : Except (ErrorKind × String) Unit :=
  runtime.validateSecretWithAccess secret graph .readWrite

/-- What `Runtime::start` begins with. -/
def refusesStart : Bool :=
  runtime.status.running || !runtime.boundaryThreads.entries.isEmpty || runtime.watchdogThread.isSome

end Runtime

/-- `inports` is that of `graph_inout`.  `attempts` counts the calls of `Runtime::start`
that were not refused, and `started` names the graph that was last started with success. -/
structure FlowdServer where
  objects : GraphRef → Stored.Graph
  graph : GraphRef
  runtime : Runtime
  components : List ComponentInfo
  inports : Option (HashMap String (Ring FbpMessage))
  attempts : Nat
  started : Option String

namespace FlowdServer

variable (server : FlowdServer)

/-- `get_graph_by_name` -/
def getGraphByName (name : String) : Option GraphRef :=
  match server.runtime.graphs.getGraph name with
  | some graph => some graph
  | none => if (server.objects server.graph).properties.name = name then some server.graph else none

def setObject (graph : GraphRef) (content : Stored.Graph) : FlowdServer :=
  { server with objects := Function.update server.objects graph content }

/-- The secret is refused, as far as the helpers of `handle_client` can tell. -/
def forbids (secret : Option String) (graph : String) (required : AccessLevel) : Bool :=
  match server.runtime.validateSecretWithAccess secret graph required with
  | .ok _ => false
  | .error _ => true

end FlowdServer

/-- `run`: a runtime with the graphs that were loaded, next to its own "main_graph". -/
def load (components : List ComponentInfo) (secrets : HashMap String (String × AccessLevel))
    (loaded : HashMap String Stored.Graph) (active : String) : FlowdServer :=
  let own : Stored.Graph := .new "main_graph" "Initial graph" "default"
  let names := loaded.entries.map Sigma.fst
  let objects : GraphRef → Stored.Graph := fun graph => ((own :: loaded.entries.map Sigma.snd)[graph]?).getD own
  let manager : MultiGraphManager := ⟨AList.singleton "main_graph" 0, "main_graph"⟩
  let manager := names.zipIdx.foldl (fun manager entry => manager.addGraph entry.1 (entry.2 + 1)) manager
  { objects
    graph := (manager.getGraph active).getD 0
    runtime :=
      { graph := active
        status := ⟨"main_graph", false, false, none⟩
        tracing := false
        traceSender := none
        boundaryThreads := ∅
        watchdogThread := none
        watchdogChannel := none
        schedulerThreads := ∅
        schedulers := ∅
        secrets
        graphs := manager.setActiveGraph active
        debugEdges := ∅ }
    components
    inports := none
    attempts := 0
    started := none }

end Flowd.Server
