import Flowd.Server.Runtime

namespace Flowd.Server

open Stored (GraphRequest GraphResponse)

/-! The handlers of `handle_client`.

A handler makes its checks one lock after the other.  They either lead to an answer
at once or to the one section that changes something; other threads may come between.
-/

inductive Request where
  | getruntime (secret : Option String)
  /-- `client` is the graph that the client's `ClientCapabilityHolder` remembers. -/
  | list (secret client : Option String)
  | getstatus (secret : Option String) (graph : String)
  | persist (secret : Option String)
  | getsource (secret : Option String) (name : String)
  | graph (secret : Option String) (request : GraphRequest)
  | traceStart (secret : Option String) (graph : String) (bufferSize : UInt32)
  | traceStop (secret : Option String) (graph : String)
  | traceClear (secret : Option String) (graph : String)
  | traceDump (secret : Option String) (graph : String)
  | packet (payload : RuntimePacketRequestPayload)
  | packetsent
  | edges (secret : Option String) (graph : String) (edges : List GraphEdgeSpec)
  | start (secret : Option String) (graph : String)
  | stop (secret : Option String) (graph : String)
  | debug (secret : Option String) (graph : String) (enable : Bool)

/-- Errors other than graph:error carry their protocol. -/
inductive Response where
  | graph (response : GraphResponse)
  | error (protocol message : String)
  | runtime (graph : String) (readonly : Bool)
  | status (graph : String) (started running : Bool) (debug : Option Bool)
  | ports (graph : String) (inports outports : List String)
  | component (name : String)
  | componentsready (count : Nat)
  | source (name : String)
  | persist
  | traceStart (graph : String)
  | traceStop (graph : String)
  | traceClear (graph : String)
  | traceDump (graph flowtrace : String)
  | packetsent (port : String) (event : RuntimePacketEvent) (typ schema : Option String) (graph : String)
      (payload : Option String)
  | edges (graph : String) (edges : List GraphEdgeSpec)
  | started (status : RuntimeStatus)
  | stopped (status : RuntimeStatus)
  | debug (graph : String) (enable : Bool)

/-- The section of a handler that changes something, with what the checks have found.
`acknowledge` belongs to network:stop; `teardown` tells whether a thread is sent to call
`Runtime::stop`. -/
inductive Section where
  | edit (target : GraphRef) (request : GraphRequest)
  | clear (id : String) (label library : Option String) (main : Bool) (icon description : Option String)
  | traceStart (graph : String)
  | traceStop (graph : String)
  | traceClear (graph : String)
  | traceDump (graph : String)
  | packet (payload : RuntimePacketRequestPayload)
  | edges (graph : String) (edges : List GraphEdgeSpec)
  | start (graph : String) (target : GraphRef)
  | acknowledge (graph : String) (teardown : Bool)
  | debug (graph : String) (enable : Bool)

/-- What the checks of a handler lead to. -/
inductive Plan where
  | answer (responses : List Response)
  | proceed (work : Section)

namespace FlowdServer

variable (server : FlowdServer)

/-- A handler that checks the secret for a graph first. -/
def guarded (secret : Option String) (graph : String) (required : AccessLevel) (refusal : Response) (plan : Plan) :
    Plan :=
  if server.forbids secret graph required then .answer [refusal] else plan

/-- The handlers that also look the graph up. -/
def addressed (secret : Option String) (graph : String) (required : AccessLevel) (refusal missing : Response)
    (plan : GraphRef → Plan) : Plan :=
  server.guarded secret graph required refusal <|
    match server.getGraphByName graph with
    | none => .answer [missing]
    | some target => plan target

def invalidSecret (protocol : String) : Response := .error protocol "invalid secret token"

def networkMissing : Response := .error "network" "Requested graph not found"

def hasReadonlySecretForGraph (secret : Option String) (graph : String) : Bool :=
  match secret with
  | none => false
  | some secret => !secret.isEmpty && server.runtime.secrets.lookup graph = some (secret, .readOnly)

def statusResponse (status : RuntimeStatus) : Response :=
  .status status.graph status.started status.running status.debug

/-- The answer to network:getstatus.  A network that has just been started is reported as
finished. -/
def getstatus (graph : String) : Response :=
  let status := server.runtime.status
  if status.graph = graph then
    .status status.graph status.started (status.running && !status.started) status.debug
  else .status graph false false status.debug

/-- The answers to runtime:getruntime. -/
def getruntime (secret : Option String) : List Response :=
  let runtime := server.runtime
  let graph := server.objects server.graph
  [.runtime runtime.graph (server.hasReadonlySecretForGraph secret runtime.graph),
    .status runtime.graph runtime.status.started runtime.status.running runtime.status.debug,
    .ports runtime.graph (graph.inports.entries.map Sigma.fst) (graph.outports.entries.map Sigma.fst)]

/-- The answers to component:list. -/
def listComponents (client : Option String) : List Response :=
  server.components.map (fun component => .component component.name) ++
    .componentsready server.components.length ::
    if client = some server.runtime.graph then [.debug server.runtime.graph (server.runtime.status.debug.getD false)]
    else []

/-- The answer to component:getsource. -/
def getsource (name : String) : Response :=
  if (server.objects server.graph).properties.name = name then .source name
  else if server.components.any fun component => component.name == name then .source name
  else .graph (.error "component not found")

def notFound (graph : String) : GraphRequest → String
  | .addnode .. => "Requested graph not found"
  | _ => "Graph '" ++ graph ++ "' not found"

/-- The checks of a `graph:*` handler. -/
def planGraph (secret : Option String) (request : GraphRequest) : Plan :=
  match request with
  | .clear id label library main icon description =>
      server.guarded secret id .readWrite (.graph (.error "invalid secret token"))
        (.proceed (.clear id label library main icon description))
  | request =>
      match request.graph with
      | none => .answer [.graph (.error "No graph specified")]
      | some graph =>
          server.addressed secret graph .readWrite (.graph (.error "invalid secret token"))
            (.graph (.error (notFound graph request))) fun target => .proceed (.edit target request)

/-- The checks of the handler of network:stop. -/
def planStop (secret : Option String) (graph : String) : Plan :=
  server.addressed secret graph .readWrite (invalidSecret "network") networkMissing fun _ =>
    if server.runtime.status.graph ≠ graph then
      .answer [.error "network" "requested graph is not the running network"]
    else .proceed (.acknowledge graph server.runtime.status.running)

def plan : Request → Plan
  | .getruntime secret =>
      server.guarded secret server.runtime.graph .readOnly (invalidSecret "runtime") (.answer (server.getruntime secret))
  | .list secret client =>
      server.guarded secret server.runtime.graph .readOnly (.graph (.error "invalid secret token"))
        (.answer (server.listComponents client))
  | .getstatus secret graph =>
      server.addressed secret graph .readOnly (invalidSecret "network") networkMissing
        fun _ => .answer [server.getstatus graph]
  | .persist secret =>
      server.guarded secret server.runtime.graph .readWrite (invalidSecret "network") (.answer [.persist])
  | .getsource secret name =>
      server.guarded secret server.runtime.graph .readOnly (.graph (.error "invalid secret token"))
        (.answer [server.getsource name])
  | .graph secret request => server.planGraph secret request
  | .traceStart secret graph _ =>
      server.guarded secret graph .readWrite (invalidSecret "trace") (.proceed (.traceStart graph))
  | .traceStop secret graph =>
      server.guarded secret graph .readWrite (invalidSecret "trace") (.proceed (.traceStop graph))
  | .traceClear secret graph =>
      server.guarded secret graph .readWrite (invalidSecret "trace") (.proceed (.traceClear graph))
  | .traceDump secret graph =>
      server.guarded secret graph .readOnly (invalidSecret "trace") (.proceed (.traceDump graph))
  | .packet payload =>
      server.guarded payload.secret server.runtime.graph .readWrite (invalidSecret "runtime") (.proceed (.packet payload))
  | .packetsent => .answer [.error "runtime" "runtime:packetsent from client is an error"]
  | .edges secret graph edges =>
      server.addressed secret graph .readWrite (invalidSecret "network") networkMissing
        fun _ => .proceed (.edges graph edges)
  | .start secret graph =>
      server.addressed secret graph .readWrite (invalidSecret "network") networkMissing
        fun target => .proceed (.start graph target)
  | .stop secret graph => server.planStop secret graph
  | .debug secret graph enable =>
      server.addressed secret graph .readWrite (invalidSecret "network") networkMissing
        fun _ => .proceed (.debug graph enable)

/-- A graph:clear works on the graph of the server, whatever it is called, and registers
it under the requested name in place of the current graph. -/
def clear (id : String) (label library : Option String) (main : Bool) (icon description : Option String) :
    FlowdServer × List Response :=
  match (server.objects server.graph).clear server.runtime.status.running id description icon with
  | .error (.error _ text) => (server, [.graph (.error text)])
  | .error (.panicked text) => (server, [.graph (.error text)])
  | .ok cleared =>
      let previous := server.runtime.graph
      let graphs := server.runtime.graphs.addGraph id server.graph
      let graphs := if previous ≠ id then graphs.removeGraph previous else graphs
      ({ server.setObject server.graph cleared with
          runtime := { server.runtime with graph := id, graphs := graphs.setActiveGraph id } },
        [.graph (.clear id (label.getD id) library main icon description)])

/-- Takes over what an operation of the runtime makes of it. -/
def withRuntime (protocol : String) (result : Except (ErrorKind × String) Runtime) (response : Response) :
    FlowdServer × List Response :=
  match result with
  | .ok runtime => ({ server with runtime }, [response])
  | .error (_, text) => (server, [.error protocol text])

variable (instantiate : String → ProcPorts → Except StartFailure Unit)

def perform : Section → Except Halt (FlowdServer × List Response)
  | .edit target request =>
      match (server.objects target).handle server.runtime.status.running request with
      | .ok (next, responses) => .ok (server.setObject target next, responses.map .graph)
      | .error text => .error (.panicked text)
  | .clear id label library main icon description => .ok (server.clear id label library main icon description)
  | .traceStart graph => .ok (server.withRuntime "trace" (server.runtime.startTrace graph) (.traceStart graph))
  | .traceStop graph => .ok (server.withRuntime "trace" (server.runtime.stopTrace graph) (.traceStop graph))
  | .traceClear graph =>
      .ok (server.withRuntime "trace" ((server.runtime.isCurrent graph).map fun _ => server.runtime) (.traceClear graph))
  | .traceDump graph =>
      .ok (server.withRuntime "trace" ((server.runtime.isCurrent graph).map fun _ => server.runtime) (.traceDump graph ""))
  | .packet payload => do
      let (next, failure) ← server.packet payload
      match failure with
      | none =>
          return (next, [.packetsent payload.port payload.event payload.typ payload.schema payload.graph payload.payload])
      | some (_, text) => return (next, [.error "runtime" text])
  | .edges graph edges =>
      .ok (server.withRuntime "network" (server.runtime.setDebugEdges graph edges) (.edges graph edges))
  | .start graph target => do
      let pointed := { server with runtime := { server.runtime with graph } }
      let (next, failure) ← pointed.start instantiate (server.objects target)
      match failure with
      | none => return (next, [.started next.runtime.status])
      | some (_, text) => return (next, [.error "network" text])
  | .acknowledge graph _ =>
      let status := { server.runtime.status with graph, started := false, running := false }
      .ok ({ server with runtime := { server.runtime with status } }, [.stopped status])
  | .debug graph enable =>
      .ok (server.withRuntime "network" (server.runtime.debugMode graph enable) (.debug graph enable))

/-- A request that no other thread comes between. -/
def handle (request : Request) : Except Halt (FlowdServer × List Response) :=
  match server.plan request with
  | .answer responses => .ok (server, responses)
  | .proceed work => server.perform instantiate work

end FlowdServer

end Flowd.Server
