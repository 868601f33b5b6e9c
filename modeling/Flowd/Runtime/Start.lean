import Flowd.Api.Message
import Flowd.Lib.MultiMap
import Flowd.Lib.Ring

namespace Flowd

/-! How `Runtime::start` lays the channels of a graph. -/

def PROCESSEDGE_BUFSIZE : Nat := 7 * 7 * 7 * 7

def PROCESSEDGE_IIP_BUFSIZE : Nat := 1

structure GraphNodeSpec where
  process : String
  port : String
deriving DecidableEq, Repr

/-- With `data` the edge is an initial packet (IIP). -/
structure GraphEdge where
  source : GraphNodeSpec
  data : Option String
  target : GraphNodeSpec
deriving DecidableEq, Repr

structure GraphNode where
  component : String

structure GraphPort where
  process : String
  port : String

structure Graph where
  /-- `properties.name` -/
  name : String
  inports : HashMap String GraphPort
  outports : HashMap String GraphPort
  nodes : HashMap String GraphNode
  edges : List GraphEdge

structure ComponentPort where
  name : String
  isArrayport : Bool

/-- An entry of the component library. -/
structure ComponentInfo where
  name : String
  inPorts : List ComponentPort
  outPorts : List ComponentPort

inductive ErrorKind where
  | invalidInput
  | notFound
  | invalidData
  | alreadyExists
  | resourceBusy
  | timedOut
  | permissionDenied
deriving DecidableEq, Repr

inductive StartFailure where
  | error (kind : ErrorKind) (text : String)
  | panicked (text : String)
deriving DecidableEq, Repr

/-- What a channel was created for; every channel is created for something else. -/
inductive Origin where
  | edge (index : Nat)
  | iip (index : Nat)
  | graphInport (publicName : String)
  | graphOutport (publicName : String)
deriving DecidableEq, Repr

/-- The receiving end of a channel, with what the channel holds. -/
structure ProcessEdgeSource where
  origin : Origin
  ring : Ring FbpMessage

/-- The sending end of a channel, with the process it signals. -/
structure ProcessEdgeSink where
  origin : Origin
  procName : Option String
  signalReady : Option String
deriving DecidableEq, Repr

structure ProcPorts where
  inports : MultiMap String ProcessEdgeSource
  outports : MultiMap String ProcessEdgeSink

namespace ProcPorts

def default : ProcPorts := ⟨[], []⟩

def bindIn (ports : ProcPorts) (key : String) (source : ProcessEdgeSource) : ProcPorts :=
  { ports with inports := ports.inports.insert key source }

def bindOut (ports : ProcPorts) (key : String) (sink : ProcessEdgeSink) : ProcPorts :=
  { ports with outports := ports.outports.insert key sink }

end ProcPorts

abbrev AllPorts := HashMap String ProcPorts

namespace Graph

variable (graph : Graph)

def inName : String := graph.name ++ "-IN"

def outName : String := graph.name ++ "-OUT"

/-- Whether two edges meet at one endpoint, as far as the endpoint's port is no array
port.  `seen` has the endpoints of the earlier edges. -/
def checkEndpoints (components : List ComponentInfo) (skips : GraphEdge → Bool) (endpoint : GraphEdge → GraphNodeSpec)
    (ports : ComponentInfo → List ComponentPort) (missing text : String) :
    List GraphNodeSpec → List GraphEdge → Except StartFailure Unit
  | _, [] => .ok ()
  | seen, edge :: rest =>
      if skips edge then checkEndpoints components skips endpoint ports missing text seen rest
      else if endpoint edge ∈ seen then
        match graph.nodes.lookup (endpoint edge).process with
        | none => .error (.panicked missing)
        | some node =>
            if components.any fun component => component.name == node.component &&
                (ports component).any fun port => port.name == (endpoint edge).port && !port.isArrayport then
              .error (.error .invalidInput text)
            else checkEndpoints components skips endpoint ports missing text seen rest
      else checkEndpoints components skips endpoint ports missing text (endpoint edge :: seen) rest

def checkSources (components : List ComponentInfo) : Except StartFailure Unit :=
  graph.checkEndpoints components (fun edge => edge.data.isSome && edge.source.process.isEmpty) GraphEdge.source
    ComponentInfo.outPorts "source process not found"
    "multiple edges from source process port which is not an array port" [] graph.edges

def checkTargets (components : List ComponentInfo) : Except StartFailure Unit :=
  graph.checkEndpoints components (fun edge => edge.data.isSome) GraphEdge.target
    ComponentInfo.inPorts "target process not found"
    "multiple edges to target process port which is not an array port" [] graph.edges

/-- `iips_per_target` -/
def iipsPerTarget : List GraphEdge → HashMap GraphNodeSpec (List String) → HashMap GraphNodeSpec (List String)
  | [], iips => iips
  | edge :: rest, iips =>
      match edge.data with
      | none => iipsPerTarget rest iips
      | some iip => iipsPerTarget rest (iips.pushTo edge.target iip)

/-- A key for a boundary handler, if the graph has such ports. -/
def prepare (exports : HashMap String GraphPort) (ports : AllPorts) (name text : String) :
    Except StartFailure AllPorts :=
  if exports.entries.isEmpty then .ok ports
  else if name ∈ ports then .error (.panicked text)
  else .ok (AList.insert name .default ports)

/-- The keys of `ports_all`. -/
def preparePorts : Except StartFailure AllPorts := do
  let ports := graph.nodes.entries.foldl (fun ports node => AList.insert node.1 .default ports) ∅
  let ports ← prepare graph.inports ports graph.inName
    "preparing inport edges for graph failed: process name already exists"
  prepare graph.outports ports graph.outName
    "preparing outport edges for graph failed: process name already exists"

end Graph

/-- `ports_all.get_mut(process).expect(text)` -/
def AllPorts.require (ports : AllPorts) (process text : String) : Except StartFailure Unit :=
  if process ∈ ports then .ok () else .error (.panicked text)

/-- The same and an insertion. -/
def AllPorts.change (ports : AllPorts) (process text : String) (change : ProcPorts → ProcPorts) :
    Except StartFailure AllPorts :=
  if process ∈ ports then .ok (ports.adjust process change) else .error (.panicked text)

/-- Pushes the texts one after the other. -/
def injectIips (text : String) : Ring FbpMessage → List String → Except StartFailure (Ring FbpMessage)
  | ring, [] => .ok ring
  | ring, iip :: rest =>
      match ring.push (.text iip) with
      | some next => injectIips text next rest
      | none => .error (.panicked text)

/-- An edge that is no IIP.  It takes the IIPs that name its target in the same spelling, unless an earlier edge
has taken them; both processes are looked up before they are pushed. -/
def connectEdge (index : Nat) (edge : GraphEdge) (ports : AllPorts) (iips : HashMap GraphNodeSpec (List String)) :
    Except StartFailure (AllPorts × HashMap GraphNodeSpec (List String)) := do
  ports.require edge.target.process "process IIP target assignment process not found"
  ports.require edge.source.process "process source assignment process not found"
  let ring ← injectIips "failed to inject IIP into process edge channel" (.empty PROCESSEDGE_BUFSIZE)
    ((iips.lookup edge.target).getD [])
  let ports := ports.adjust edge.target.process
    fun target => target.bindIn (toAsciiUppercase edge.target.port) ⟨.edge index, ring⟩
  let ports := ports.adjust edge.source.process
    fun source => source.bindOut (toAsciiUppercase edge.source.port)
      ⟨.edge index, some edge.target.process, some edge.target.process⟩
  return (ports, AList.erase edge.target iips)

def connectEdges : Nat → List GraphEdge → AllPorts → HashMap GraphNodeSpec (List String) →
    Except StartFailure (AllPorts × HashMap GraphNodeSpec (List String))
  | _, [], ports, iips => .ok (ports, iips)
  | index, edge :: rest, ports, iips =>
      if edge.data.isSome then connectEdges (index + 1) rest ports iips
      else do
        let (ports, iips) ← connectEdge index edge ports iips
        connectEdges (index + 1) rest ports iips

/-- The IIPs that no edge has taken get a channel each. -/
def connectIips : Nat → MultiMap GraphNodeSpec String → AllPorts → Except StartFailure AllPorts
  | _, [], ports => .ok ports
  | index, (target, iip) :: rest, ports => do
      let ring ← injectIips "failed to send IIP into process channel" (.empty PROCESSEDGE_IIP_BUFSIZE) [iip]
      let ports ← ports.change target.process "process IIP target assignment process not found"
        fun process => process.bindIn (toAsciiUppercase target.port) ⟨.iip index, ring⟩
      connectIips (index + 1) rest ports

def connectInports (inName : String) : List (Sigma fun _ : String => GraphPort) → AllPorts →
    Except StartFailure AllPorts
  | [], ports => .ok ports
  | ⟨publicName, edge⟩ :: rest, ports => do
      let ports ← ports.change edge.process "graph target assignment process not found"
        fun target => target.bindIn (toAsciiUppercase edge.port)
          ⟨.graphInport publicName, .empty PROCESSEDGE_BUFSIZE⟩
      let ports ← ports.change inName "graph source assignment process not found"
        fun source => source.bindOut publicName ⟨.graphInport publicName, some edge.process, some edge.process⟩
      connectInports inName rest ports

def connectOutports (outName : String) : List (Sigma fun _ : String => GraphPort) → AllPorts →
    Except StartFailure AllPorts
  | [], ports => .ok ports
  | ⟨publicName, edge⟩ :: rest, ports => do
      let ports ← ports.change outName "graph target assignment process not found"
        fun target => target.bindIn publicName ⟨.graphOutport publicName, .empty PROCESSEDGE_BUFSIZE⟩
      let ports ← ports.change edge.process "graph source assignment process not found"
        fun source => source.bindOut (toAsciiUppercase edge.port) ⟨.graphOutport publicName, some outName, none⟩
      connectOutports outName rest ports

/-- Whether something is bound for a declared port, or a graph port is exported from it. -/
def isConnected {V : Type} (bound : MultiMap String V) (exports : HashMap String GraphPort) (process name : String) :
    Bool :=
  bound.containsKey name || bound.containsKey (toAsciiLowercase name) ||
    exports.entries.any fun graphPort => graphPort.2.process == process && eqIgnoreAsciiCase graphPort.2.port name

/-- The first declared port that is not connected is an error. -/
def checkConnected {V : Type} (bound : MultiMap String V) (exports : HashMap String GraphPort) (process : String)
    (text : String → String) : List ComponentPort → Except StartFailure Unit
  | [] => .ok ()
  | port :: rest =>
      if isConnected bound exports process port.name then checkConnected bound exports process text rest
      else .error (.error .notFound (text port.name))

/-- The first entry of the library with the name. -/
def findComponent (components : List ComponentInfo) (name : String) : Option ComponentInfo :=
  components.find? fun component => component.name == name

/-- The set-up of one node.  `instantiate` is the generated `instantiate_component`. -/
def Graph.setUp (graph : Graph) (components : List ComponentInfo)
    (instantiate : String → ProcPorts → Except StartFailure Unit) (process : String) (node : GraphNode)
    (ports : ProcPorts) : Except StartFailure Unit :=
  match findComponent components node.component with
  | none => .error (.error .notFound "unconnected port checking could not find component in component library")
  | some component => do
      checkConnected ports.inports graph.inports process (fun port =>
        "unconnected port checking: process " ++ process ++ " is missing required port " ++ port ++
          " for component " ++ component.name) component.inPorts
      checkConnected ports.outports graph.outports process (fun port =>
        "unconnected port checking: process " ++ process ++ " is missing required outport " ++ port ++
          " on component " ++ component.name) component.outPorts
      instantiate node.component ports

/-- Takes the ports of every node out of `ports_all`. -/
def Graph.setUpAll (graph : Graph) (components : List ComponentInfo)
    (instantiate : String → ProcPorts → Except StartFailure Unit) :
    List (Sigma fun _ : String => GraphNode) → AllPorts → Except StartFailure AllPorts
  | [], ports => .ok ports
  | ⟨process, node⟩ :: rest, ports =>
      match ports.lookup process with
      | none => .error (.panicked "prepared connections for a node not found, source+target nodes in edges != nodes")
      | some bound => do
          graph.setUp components instantiate process node bound
          graph.setUpAll components instantiate rest (AList.erase process ports)

/-- Whether there is a NUL in the name. -/
def hasNul (name : String) : Bool := name.toList.contains (Char.ofNat 0)

/-- `thread::Builder::spawn` of a thread with this name. -/
def spawn (name : String) : Except StartFailure Unit :=
  if hasNul name then .error (.panicked "thread name may not contain interior null bytes") else .ok ()

/-- The graph inport handler and the graph outport handler, which is a thread, take the rest.  Every port of the
former has one sink. -/
def Graph.setUpBoundary (graph : Graph) (ports : AllPorts) : Except StartFailure Unit :=
  let handler := (ports.lookup graph.inName).getD .default
  if handler.outports.all fun entry => (handler.outports.values entry.1).length == 1 then do
    if graph.outName ∈ AList.erase graph.inName ports then spawn graph.outName
    if (AList.erase graph.outName (AList.erase graph.inName ports)).entries.isEmpty then .ok ()
    else .error (.error .invalidData
      "there are ports for processes left over, source+target nodes in edges != nodes")
  else .error (.error .invalidInput "multiple edges from graph inport")

/-- `Runtime::start`, as far as the ports are concerned: what is bound to each process.  The thread of the
scheduler is still to come. -/
def Graph.start (graph : Graph) (components : List ComponentInfo)
    (instantiate : String → ProcPorts → Except StartFailure Unit) : Except StartFailure AllPorts := do
  graph.checkSources components
  graph.checkTargets components
  let iips := Graph.iipsPerTarget graph.edges ∅
  let ports ← graph.preparePorts
  let (ports, iips) ← connectEdges 0 graph.edges ports iips
  let ports ← connectIips 0 iips.pairs ports
  let ports ← connectInports graph.inName graph.inports.entries ports
  let ports ← connectOutports graph.outName graph.outports.entries ports
  let rest ← graph.setUpAll components instantiate graph.nodes.entries ports
  graph.setUpBoundary rest
  return ports

end Flowd
