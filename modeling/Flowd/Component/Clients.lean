import Flowd.Component.Connecting

namespace Flowd

/-! The clients: TCPClient, WSClient, MQTTPublisher and RedisPublisher as connectors, and
UnixSocketClient and MQTTSubscriber, which do not try again. -/

/-- What `Url` offers; `queryPairs` are decoded. -/
structure Url where
  hostStr : Option String
  port : Option Nat
  path : String
  queryPairs : List (String × String)

/-- `Url::parse`, `SocketAddr::parse_ascii`, `UnixSocketAddr::from_abstract` and `from_path`,
and whether `tokio::spawn` finds a runtime. -/
structure NetEngine (SocketAddr UnixSocketAddr : Type) where
  parse : String → Option Url
  parseAscii : String → Option SocketAddr
  fromAbstract : String → Option UnixSocketAddr
  fromPath : String → Option UnixSocketAddr
  runtime : Bool

/-- No URL is read. -/
def NetEngine.offline : NetEngine Unit Unit := ⟨fun _ => none, fun _ => none, fun _ => none, fun _ => none, true⟩

variable {SocketAddr UnixSocketAddr : Type}

namespace TCPClient

/-- The kinds that are told apart. -/
inductive ErrorKind where
  | timedOut
  | interrupted
  | wouldBlock
  | connectionRefused
  | connectionReset
  | connectionAborted
  | networkUnreachable
  | hostUnreachable
  | notFound
  | permissionDenied
  | invalidInput
  | other
deriving DecidableEq, Repr

def classifyTcpError : ErrorKind → ErrorType
  | .timedOut | .interrupted | .wouldBlock => .transient
  | .connectionRefused | .connectionReset | .connectionAborted => .transient
  | .networkUnreachable | .hostUnreachable => .transient
  | .notFound | .permissionDenied | .invalidInput => .permanent
  | .other => .transient

def address (engine : NetEngine SocketAddr UnixSocketAddr) (urlMsg : FbpMessage) : Option SocketAddr := do
  let url ← engine.parse (← urlMsg.textOrUtf8)
  engine.parseAscii ((← url.hostStr) ++ ":" ++ toString (← url.port))

def connector (engine : NetEngine SocketAddr UnixSocketAddr) : Connector SocketAddr ErrorKind where
  configure urlMsg :=
    match address engine urlMsg with
    | some addr => .address addr
    | none => .panics
  classify := classifyTcpError
  looksAhead := true
  forwards := true
  runtime := engine.runtime

end TCPClient

namespace WSClient

/-- `tungstenite::Error` -/
inductive Error where
  | io
  | http (status : Nat)
  | tls
  | protocol
  | capacity
  | url
  | connectionClosed
  | alreadyClosed
  | utf8
  | other
deriving DecidableEq, Repr

def classifyWsError : Error → ErrorType
  | .io => .transient
  | .http status => if 500 ≤ status ∧ status < 600 then .transient else .permanent
  | .tls => .transient
  | .protocol => .permanent
  | .capacity | .url => .permanent
  | .connectionClosed | .alreadyClosed => .transient
  | .utf8 => .permanent
  | .other => .transient

def connector (engine : NetEngine SocketAddr UnixSocketAddr) : Connector String Error where
  configure urlMsg :=
    match urlMsg.textOrUtf8 with
    | some url => .address url
    | none => .panics
  classify := classifyWsError
  looksAhead := true
  forwards := true
  runtime := engine.runtime

end WSClient

/-- The URL and the topic in its path. -/
def mqttAddress (engine : NetEngine SocketAddr UnixSocketAddr) (urlMsg : FbpMessage) : Configured (String × String) :=
  match urlMsg.asText with
  | none => .panics
  | some urlStr =>
      match engine.parse urlStr with
      | none => .panics
      | some url =>
          if url.path = "" ∨ url.path = "/" then .invalid
          else .address (urlStr, .ofList (url.path.toList.dropWhile (· = '/')))

namespace MQTTPublisher

def classifyMqttError (error : String) : ErrorType :=
  if contains error "invalid" || contains error "malformed" || contains error "unauthorized" then .permanent
  else .transient

def connector (engine : NetEngine SocketAddr UnixSocketAddr) : Connector (String × String) String where
  configure := mqttAddress engine
  classify := classifyMqttError
  looksAhead := false
  forwards := false
  runtime := engine.runtime

end MQTTPublisher

namespace RedisPublisher

def classifyRedisError (error : String) : ErrorType :=
  if contains error "invalid" || contains error "auth" || contains error "unauthorized" then .permanent
  else .transient

def channel (url : Url) : Option String := (url.queryPairs.find? fun pair => pair.1 = "channel").map Prod.snd

def connector (engine : NetEngine SocketAddr UnixSocketAddr) : Connector (String × String) String where
  configure urlMsg :=
    match urlMsg.asText.bind fun urlStr => (engine.parse urlStr).bind fun url => (channel url).map (urlStr, ·) with
    | some address => .address address
    | none => .panics
  classify := classifyRedisError
  looksAhead := false
  forwards := false
  runtime := engine.runtime

end RedisPublisher

namespace UnixSocketClient

inductive SocketType where
  | datagram
  | stream
  | seqPacket
deriving DecidableEq, Repr

/-- The connection is used by spawned tasks only. -/
inductive State where
  | waitingForConfig
  | connecting
  | connected (pendingMessages : List FbpMessage)
  | finished

/-- The read timeout is only handed to the socket. -/
structure Client (UnixSocketAddr : Type) where
  state : State
  pendingOutbound : List FbpMessage
  channels : IoChannels (UnixSocketAddr × SocketType) (Except String Unit)

abbrev ClientTurn (UnixSocketAddr : Type) := Turn (Client UnixSocketAddr) ConfInPort OutPort Unit

def new : Client UnixSocketAddr := ⟨.waitingForConfig, [], .new⟩

def socketTypeNamed : String → Option SocketType
  | "seqpacket" => some .seqPacket
  | "stream" => some .stream
  | "dgram" => some .datagram
  | "datagram" => some .datagram
  | _ => none

/-- An abstract address is the host, any other is the path. -/
def configure (engine : NetEngine SocketAddr UnixSocketAddr) (urlMsg : FbpMessage) :
    Configured (UnixSocketAddr × SocketType) :=
  match engine.parse (urlMsg.textOrUtf8.getD "") with
  | none => .panics
  | some url =>
      if url.hostStr = none ∧ (url.path = "" ∨ url.path = "/") then .invalid
      else
        match (url.queryPairs.find? fun pair => pair.1 = "socket_type").bind fun pair => socketTypeNamed pair.2 with
        | none => .invalid
        | some socketType =>
            match url.hostStr.elim (engine.fromPath url.path) engine.fromAbstract with
            | none => .panics
            | some socketAddress => .address (socketAddress, socketType)

section
variable (client : Client UnixSocketAddr) (call : Call ConfInPort OutPort) (context : NodeContext) (clock : Clock)

def finish : ClientTurn UnixSocketAddr :=
  ⟨{ client with state := .finished }, call, context, clock, [], .result .finished⟩

def wait (state : State) : ClientTurn UnixSocketAddr :=
  ⟨{ client with state }, call, { context with wakeAt := some (clock.read.now + defaultIoPollInterval) },
    clock.read, [], .result .noWork⟩

def settle : ClientTurn UnixSocketAddr :=
  match client.channels.tryRecv with
  | (.received (.ok ()), channels) =>
      ⟨{ client with state := .connected [], channels }, call, context, clock, [], .result (.didWork 1)⟩
  | (.received (.error _), channels) => finish { client with channels } call context clock
  | _ => wait client call context clock .connecting

def configuration (engine : NetEngine SocketAddr UnixSocketAddr) : ClientTurn UnixSocketAddr :=
  match call.pop .conf with
  | some (urlMsg, call) =>
      match configure engine urlMsg with
      | .panics => ⟨{ client with state := .finished }, call, context, clock, [], .panicked⟩
      -- the state is not put back
      | .invalid => ⟨{ client with state := .finished }, call, context, clock, [], .result .noWork⟩
      | .address address =>
          match client.channels.trySend address with
          | (.sent, channels) =>
              ⟨{ client with state := .connecting, channels }, call, context, clock, [], .result (.didWork 1)⟩
          | (.full, _) => ⟨{ client with state := .waitingForConfig }, call, context, clock, [], .result .noWork⟩
          | (.disconnected, _) => finish client call context clock
  | none =>
      ⟨{ client with state := .finished }, call, { context with remainingBudget := context.remainingBudget - 1 },
        clock, [], .result .noWork⟩

def exchange (engine : NetEngine SocketAddr UnixSocketAddr) (pendingMessages : List FbpMessage) :
    ClientTurn UnixSocketAddr :=
  let transfer := Connector.transfer engine.runtime true context.remainingBudget pendingMessages client.pendingOutbound call
  let client := { client with pendingOutbound := transfer.pendingReceived }
  let context := { context with remainingBudget := transfer.remainingBudget }
  if transfer.panics then ⟨{ client with state := .finished }, transfer.call, context, clock, [], .panicked⟩
  else if transfer.call.isAbandoned .inn && transfer.pendingReceived.isEmpty then
    finish client transfer.call context clock
  else if 0 < transfer.call.workUnits then
    ⟨{ client with state := .connected transfer.pendingMessages }, transfer.call, context, clock, [],
      .result (.didWork transfer.call.workUnits)⟩
  else wait client transfer.call context clock (.connected transfer.pendingMessages)

/-- What follows the look at the signals. -/
def proceed (engine : NetEngine SocketAddr UnixSocketAddr) : ClientTurn UnixSocketAddr :=
  match client.state with
  | .waitingForConfig => configuration client call context clock engine
  | .connecting => settle client call context clock
  | .connected pendingMessages => exchange client call context clock engine pendingMessages
  | .finished => finish client call context clock

def process (engine : NetEngine SocketAddr UnixSocketAddr) : ClientTurn UnixSocketAddr :=
  let (call, stop) := call.begin.poll FbpMessage.textOrUtf8
  if stop then finish client call context clock else proceed client call context clock engine

def Idle : Prop :=
  call.signalsIn = [] ∧
    match client.state with
    | .waitingForConfig => call.inbox .conf = []
    | .connecting => client.channels.results = []
    | .connected pendingMessages =>
        call.inbox .inn = [] ∧ call.isAbandoned .inn = false ∧ pendingMessages = [] ∧ client.pendingOutbound = []
    | .finished => True

/-- The call finds no configuration it can use. -/
def Forgetful (engine : NetEngine SocketAddr UnixSocketAddr) : Prop :=
  client.state = .waitingForConfig ∧ ∀ urlMsg ∈ (call.inbox .conf).head?, configure engine urlMsg = .invalid

end

def Entitled (client : Client UnixSocketAddr) (before after : Call ConfInPort OutPort) : Prop :=
  after.Stopped FbpMessage.textOrUtf8 ∨
    match client.state with
    | .waitingForConfig => client.channels.alive = false
    | .connecting => ∃ result ∈ client.channels.results, ∃ failure, result.2 = .error failure
    | .connected _ => before.isAbandoned .inn = true
    | .finished => False

def component (engine : NetEngine SocketAddr UnixSocketAddr) : IoComponent where
  In := ConfInPort
  Out := OutPort
  State := Client UnixSocketAddr
  Event := Unit
  new := UnixSocketClient.new
  process client call context clock := UnixSocketClient.process client call context clock engine
  Move := WorkerMove (Except String Unit)
  work client move := (client.channels.work move).map fun channels => { client with channels }

def lifecycle (engine : NetEngine SocketAddr UnixSocketAddr) : Lifecycle (component engine) where
  Field := UnixSocketClient.State
  field := Client.state
  finished := .finished
  keepsField := by
    intro state move next worked
    obtain ⟨channels, _, same⟩ := Option.map_eq_some_iff.mp worked
    rw [← same]
  idle client call _ _ := Idle client call
  entitled := Entitled

variable {client : Client UnixSocketAddr} {call : Call ConfInPort OutPort} {context : NodeContext} {clock : Clock}
variable {engine : NetEngine SocketAddr UnixSocketAddr}

abbrev Sound (client : Client UnixSocketAddr) (idle entitled : Prop) (turn : ClientTurn UnixSocketAddr) : Prop :=
  turn.Survives Client.state .finished client idle entitled

theorem settle_sound (state : client.state = .connecting) :
    Sound client (client.channels.results = [])
      (∃ result ∈ client.channels.results, ∃ failure, result.2 = .error failure)
      (settle client call context clock) := by
  unfold settle
  rcases client.channels.tryRecv_cases with ⟨_, _, received⟩ | ⟨_, _, received⟩ | ⟨_, answer, _, results, received⟩
  · rw [received]
    exact .going (by simp [wait]) (fun _ => state.symm) (by simp [wait])
  · rw [received]
    exact .going (by simp [wait]) (fun _ => state.symm) (by simp [wait])
  · rw [received, results]
    cases answer with
    | ok connected => exact .going (by simp) (fun empty => by cases empty) (by simp)
    | error failure => exact .ending rfl (by simp) ⟨_, List.mem_cons_self, failure, rfl⟩

theorem configuration_sound {urlMsg : FbpMessage} (found : (call.inbox .conf).head? = some urlMsg)
    (valid : configure engine urlMsg ≠ .invalid) :
    Sound client (call.inbox .conf = []) (client.channels.alive = false)
      (configuration client call context clock engine) := by
  have busy : call.inbox .conf ≠ [] := fun empty => by simp [empty] at found
  unfold configuration
  rcases call.pop_cases .conf with ⟨empty, _⟩ | ⟨first, rest, next, queued, popped, _⟩
  · exact absurd empty busy
  · rw [queued, List.head?_cons, Option.some.injEq] at found
    rw [popped, found]
    dsimp only
    cases configured : configure engine urlMsg with
    | panics => exact .panicking rfl busy
    | invalid => exact absurd configured valid
    | address address =>
        dsimp only
        rcases client.channels.trySend_cases address with ⟨_, _, sent⟩ | ⟨_, _, sent⟩ | ⟨dead, sent⟩
        · rw [sent]
          exact .going (by simp) (fun empty => absurd empty busy) (by simp)
        · rw [sent]
          exact .going (by simp) (fun empty => absurd empty busy) (by simp)
        · rw [sent]
          exact .ending rfl busy dead

/-- Otherwise the state is lost. -/
theorem configuration_forgets (client : Client UnixSocketAddr) (context : NodeContext) (clock : Clock)
    (unusable : ∀ urlMsg ∈ (call.inbox .conf).head?, configure engine urlMsg = .invalid) :
    (configuration client call context clock engine).returned = .result .noWork ∧
      (configuration client call context clock engine).component.state = .finished := by
  unfold configuration
  rcases call.pop_cases .conf with ⟨_, popped⟩ | ⟨urlMsg, rest, next, queued, popped, _⟩
  · rw [popped]
    exact ⟨rfl, rfl⟩
  · rw [popped]
    dsimp only
    rw [unusable urlMsg (by rw [queued]; rfl)]
    exact ⟨rfl, rfl⟩

theorem exchange_sound {pendingMessages : List FbpMessage} (state : client.state = .connected pendingMessages) :
    Sound client
      (call.inbox .inn = [] ∧ call.isAbandoned .inn = false ∧ pendingMessages = [] ∧ client.pendingOutbound = [])
      (call.isAbandoned .inn = true) (exchange client call context clock engine pendingMessages) := by
  unfold exchange
  have abandoned := Connector.transfer_abandoned engine.runtime true context.remainingBudget pendingMessages
    client.pendingOutbound call
  have idling := Connector.transfer_idle engine.runtime true context.remainingBudget pendingMessages
    client.pendingOutbound call
  generalize Connector.transfer engine.runtime true context.remainingBudget pendingMessages
    client.pendingOutbound call = transfer at abandoned idling ⊢
  dsimp only
  split
  · next panics => exact .panicking rfl fun idle => by simp [(idling idle.1 idle.2.2.1).1] at panics
  · split
    · next ended =>
        rw [Bool.and_eq_true, abandoned] at ended
        exact .ending rfl (fun idle => by simp [ended.1] at idle) ended.1
    · have rests (idle : call.inbox .inn = [] ∧ call.isAbandoned .inn = false ∧ pendingMessages = [] ∧
          client.pendingOutbound = []) : State.connected transfer.pendingMessages = client.state := by
        rw [state, (idling idle.1 idle.2.2.1).2, idle.2.2.1]
      split
      · exact .going (by simp) rests (by simp)
      · exact .going (by simp [wait]) rests (by simp [wait])

def polling (engine : NetEngine SocketAddr UnixSocketAddr) :
    Polling (lifecycle engine) fun client call => Forgetful client call engine where
  opening := Call.begin
  stopping := finish
  body client call context clock := proceed client call context clock engine
  signals _ := rfl
  process _ _ _ _ := rfl
  stops _ _ _ _ := ⟨rfl, rfl⟩
  quiet _ _ _ _ idle := idle.1
  reason _ _ _ stopped := .inl stopped
  harmful := by
    rintro ⟨(client : Client UnixSocketAddr), (call : Call ConfInPort OutPort), context, clock⟩
      (listened : Call ConfInPort OutPort) heard ⟨waiting, unusable⟩ lives
    have turn : proceed client listened context clock engine = configuration client listened context clock engine := by
      unfold proceed
      rw [waiting]
    have inbox (port : ConfInPort) : listened.inbox port = call.inbox port := heard.inbox port
    have unusable : ∀ urlMsg ∈ (listened.inbox .conf).head?, configure engine urlMsg = .invalid := by
      rw [inbox]
      exact unusable
    obtain ⟨returned, lost⟩ := configuration_forgets client context clock unusable
    exact lives.goesOn .noWork ((congrArg Turn.returned turn).trans returned) (by simp)
      ((congrArg (Client.state ∘ Turn.component) turn).trans lost)
  harmless := by
    rintro ⟨(client : Client UnixSocketAddr), (call : Call ConfInPort OutPort), context, clock⟩
      (listened : Call ConfInPort OutPort) heard going remembers
    have remembers : ¬ Forgetful client call engine := remembers
    have inbox (port : ConfInPort) : listened.inbox port = call.inbox port := heard.inbox port
    have abandoned : listened.isAbandoned .inn = call.isAbandoned .inn := heard.isAbandoned .inn
    show Sound client (Idle client call) (Entitled client call (proceed client listened context clock engine).call)
      (proceed client listened context clock engine)
    unfold proceed Idle Entitled
    cases state : client.state with
    | waitingForConfig =>
        have usable : ∃ urlMsg, (call.inbox .conf).head? = some urlMsg ∧ configure engine urlMsg ≠ .invalid := by
          by_contra none
          refine remembers ⟨state, fun urlMsg found => ?_⟩
          by_contra valid
          exact none ⟨urlMsg, found, valid⟩
        obtain ⟨urlMsg, found, valid⟩ := usable
        refine (configuration_sound (inbox .conf ▸ found) valid).weaken (fun idle => ?_) .inr
        rw [inbox]
        exact idle.2
    | connecting => exact (settle_sound state).weaken And.right .inr
    | connected pendingMessages =>
        refine (exchange_sound state).weaken (fun idle => ?_) fun ended => .inr ?_
        · rw [inbox, abandoned]
          exact idle.2
        · rw [← abandoned]
          exact ended
    | finished => exact absurd state going

end UnixSocketClient

namespace MQTTSubscriber

inductive ConfPort where
  | conf
deriving DecidableEq, Repr

inductive State where
  | waitingForConfig
  | connecting (url topic : String)
  | listening (topic : String)
  | finished
deriving DecidableEq

/-- A component with the channels its two tasks send to, and whether these are running. -/
structure Subscriber where
  state : State
  connects : Bool
  results : List (Except String Unit)
  subscribes : Bool
  messages : List (Except String (List UInt8))

inductive Move where
  | connect (result : Except String Unit)
  | subscribe (message : Except String (List UInt8))

abbrev SubscriberTurn := Turn Subscriber ConfPort OutPort Unit

def new : Subscriber := ⟨.waitingForConfig, false, [], false, []⟩

/-- A task sends one result. -/
def work (subscriber : Subscriber) : Move → Option Subscriber
  | .connect result =>
      if subscriber.connects then
        some { subscriber with connects := false, results := subscriber.results ++ [result] }
      else none
  | .subscribe message =>
      if subscriber.subscribes then
        some { subscriber with subscribes := false, messages := subscriber.messages ++ [message] }
      else none

section
variable (engine : NetEngine SocketAddr UnixSocketAddr)
variable (subscriber : Subscriber) (call : Call ConfPort OutPort) (context : NodeContext) (clock : Clock)

def finish : SubscriberTurn :=
  ⟨{ subscriber with state := .finished }, call, context, clock, [], .result .finished⟩

/-- The state is not put back. -/
def lose (returned : Returned) : SubscriberTurn :=
  ⟨{ subscriber with state := .finished }, call, context, clock, [], returned⟩

def settle (url topic : String) : SubscriberTurn :=
  match subscriber.results with
  | .ok () :: results =>
      if engine.runtime then
        ⟨{ subscriber with state := .listening topic, results, subscribes := true }, call, context, clock, [],
          .result (.didWork 1)⟩
      else lose { subscriber with results } call context clock .panicked
  | .error _ :: results => finish { subscriber with results } call context clock
  | [] =>
      ⟨{ subscriber with state := .connecting url topic }, call,
        { context with wakeAt := some (clock.read.now + defaultIoPollInterval) }, clock.read, [], .result .noWork⟩

def configuration : SubscriberTurn :=
  match call.pop .conf with
  | some (urlMsg, call) =>
      match mqttAddress engine urlMsg with
      | .panics => lose subscriber call context clock .panicked
      | .invalid => finish subscriber call context clock
      | .address (url, topic) =>
          if engine.runtime then
            ⟨{ subscriber with state := .connecting url topic, connects := true }, call, context, clock, [],
              .result (.didWork 1)⟩
          else lose subscriber call context clock .panicked
  | none =>
      lose subscriber call { context with remainingBudget := context.remainingBudget - 1 } clock (.result .noWork)

/-- `Listening`: no way to go on puts the state back. -/
def listen : SubscriberTurn :=
  match subscriber.messages with
  | .ok messageData :: messages =>
      match call.push (.out, .bytes messageData) with
      | (call, true) => lose { subscriber with messages } call context clock (.result (.didWork 1))
      | (call, false) => lose { subscriber with messages } call context clock (.result .noWork)
  | .error _ :: messages => finish { subscriber with messages } call context clock
  | [] =>
      lose subscriber call { context with wakeAt := some (clock.read.now + defaultIoPollInterval) } clock.read
        (.result .noWork)

/-- What follows the look at the signals. -/
def proceed : SubscriberTurn :=
  match subscriber.state with
  | .waitingForConfig => configuration engine subscriber call context clock
  | .connecting url topic => settle engine subscriber call context clock url topic
  | .listening _ => listen subscriber call context clock
  | .finished => finish subscriber call context clock

def process : SubscriberTurn :=
  let (call, stop) := call.begin.poll FbpMessage.textOrUtf8
  if stop then finish subscriber call context clock else proceed engine subscriber call context clock

end

def Idle (subscriber : Subscriber) (call : Call ConfPort OutPort) : Prop :=
  call.signalsIn = [] ∧
    match subscriber.state with
    | .waitingForConfig => call.inbox .conf = []
    | .connecting _ _ => subscriber.results = []
    | .listening _ => subscriber.messages = []
    | .finished => True

def Entitled (engine : NetEngine SocketAddr UnixSocketAddr) (subscriber : Subscriber)
    (before after : Call ConfPort OutPort) : Prop :=
  after.Stopped FbpMessage.textOrUtf8 ∨
    match subscriber.state with
    | .waitingForConfig => ∃ urlMsg ∈ before.inbox .conf, mqttAddress engine urlMsg = .invalid
    | .connecting _ _ => ∃ failure, .error failure ∈ subscriber.results
    | .listening _ => ∃ failure, .error failure ∈ subscriber.messages
    | .finished => False

/-- The call finds no configuration, or the component is listening and finds no error. -/
def Forgetful (subscriber : Subscriber) (call : Call ConfPort OutPort) : Prop :=
  (subscriber.state = .waitingForConfig ∧ call.inbox .conf = []) ∨
    ∃ topic, subscriber.state = .listening topic ∧ ∀ failure, subscriber.messages.head? ≠ some (.error failure)

def component (engine : NetEngine SocketAddr UnixSocketAddr) : IoComponent where
  In := ConfPort
  Out := OutPort
  State := Subscriber
  Event := Unit
  new := MQTTSubscriber.new
  process := MQTTSubscriber.process engine
  Move := MQTTSubscriber.Move
  work := MQTTSubscriber.work

def lifecycle (engine : NetEngine SocketAddr UnixSocketAddr) : Lifecycle (component engine) where
  Field := MQTTSubscriber.State
  field := Subscriber.state
  finished := .finished
  keepsField := by
    intro subscriber move next worked
    cases move with
    | connect result =>
        obtain ⟨_, same⟩ := Option.ite_none_right_eq_some.mp worked
        rw [← Option.some_inj.mp same]
    | subscribe message =>
        obtain ⟨_, same⟩ := Option.ite_none_right_eq_some.mp worked
        rw [← Option.some_inj.mp same]
  idle subscriber call _ _ := Idle subscriber call
  entitled := Entitled engine

abbrev Sound (subscriber : Subscriber) (idle entitled : Prop) (turn : SubscriberTurn) : Prop :=
  turn.Survives Subscriber.state .finished subscriber idle entitled

variable {engine : NetEngine SocketAddr UnixSocketAddr} {subscriber : Subscriber} {call : Call ConfPort OutPort}
variable {context : NodeContext} {clock : Clock}

theorem settle_sound {url topic : String} (state : subscriber.state = .connecting url topic) :
    Sound subscriber (subscriber.results = []) (∃ failure, .error failure ∈ subscriber.results)
      (settle engine subscriber call context clock url topic) := by
  unfold settle
  cases received : subscriber.results with
  | nil => exact .going (by simp) (fun _ => state.symm) (by simp)
  | cons result results =>
      cases result with
      | error failure => exact .ending rfl (by simp) ⟨failure, List.mem_cons_self⟩
      | ok connected =>
          dsimp only
          split
          · exact .going (by simp) (fun empty => by cases empty) (by simp)
          · exact .panicking rfl (by simp)

theorem configuration_sound (found : call.inbox .conf ≠ []) :
    Sound subscriber (call.inbox .conf = []) (∃ urlMsg ∈ call.inbox .conf, mqttAddress engine urlMsg = .invalid)
      (configuration engine subscriber call context clock) := by
  unfold configuration
  rcases call.pop_cases .conf with ⟨empty, _⟩ | ⟨urlMsg, rest, next, queued, popped, _⟩
  · exact absurd empty found
  · rw [popped]
    dsimp only
    cases configured : mqttAddress engine urlMsg with
    | panics => exact .panicking rfl found
    | invalid => exact .ending rfl found ⟨urlMsg, queued ▸ List.mem_cons_self, configured⟩
    | address address =>
        dsimp only
        split
        · exact .going (by simp) (fun empty => absurd empty found) (by simp)
        · exact .panicking rfl found

theorem configuration_forgets (engine : NetEngine SocketAddr UnixSocketAddr) (subscriber : Subscriber)
    (context : NodeContext) (clock : Clock) (empty : call.inbox .conf = []) :
    (configuration engine subscriber call context clock).returned = .result .noWork ∧
      (configuration engine subscriber call context clock).component.state = .finished := by
  unfold configuration
  rcases call.pop_cases .conf with ⟨_, popped⟩ | ⟨_, _, _, queued, _⟩
  · rw [popped]
    exact ⟨rfl, rfl⟩
  · rw [empty] at queued
    cases queued

theorem listen_sound {failure : String} (failed : subscriber.messages.head? = some (.error failure)) :
    Sound subscriber (subscriber.messages = []) (∃ failure, .error failure ∈ subscriber.messages)
      (listen subscriber call context clock) := by
  unfold listen
  cases received : subscriber.messages with
  | nil => simp [received] at failed
  | cons message messages =>
      rw [received, List.head?_cons, Option.some.injEq] at failed
      rw [failed]
      exact .ending rfl (by simp) ⟨failure, List.mem_cons_self⟩

/-- Without an error, a listening component loses its state. -/
theorem listen_forgets (call : Call ConfPort OutPort) (context : NodeContext) (clock : Clock)
    (calm : ∀ failure, subscriber.messages.head? ≠ some (.error failure)) :
    ∃ result, (listen subscriber call context clock).returned = .result result ∧ result ≠ .finished ∧
      (listen subscriber call context clock).component.state = .finished := by
  unfold listen
  cases received : subscriber.messages with
  | nil => exact ⟨.noWork, rfl, by simp, rfl⟩
  | cons message messages =>
      cases message with
      | error failure =>
          rw [received] at calm
          exact absurd rfl (calm failure)
      | ok messageData =>
          dsimp only
          rcases call.push_cases (.out, .bytes messageData) with ⟨_, pushed, _⟩ | ⟨_, refused, _⟩
          · rw [pushed]
            exact ⟨.didWork 1, rfl, by simp, rfl⟩
          · rw [refused]
            exact ⟨.noWork, rfl, by simp, rfl⟩

def polling (engine : NetEngine SocketAddr UnixSocketAddr) : Polling (lifecycle engine) Forgetful where
  opening := Call.begin
  stopping := finish
  body := proceed engine
  signals _ := rfl
  process _ _ _ _ := rfl
  stops _ _ _ _ := ⟨rfl, rfl⟩
  quiet _ _ _ _ idle := idle.1
  reason _ _ _ stopped := .inl stopped
  harmful := by
    rintro ⟨(subscriber : Subscriber), (call : Call ConfPort OutPort), context, clock⟩
      (listened : Call ConfPort OutPort) heard forgetful lives
    rcases forgetful with ⟨waiting, empty⟩ | ⟨topic, listening, calm⟩
    · have turn : proceed engine subscriber listened context clock =
          configuration engine subscriber listened context clock := by
        unfold proceed
        rw [show subscriber.state = .waitingForConfig from waiting]
      obtain ⟨returned, lost⟩ :=
        configuration_forgets engine subscriber context clock ((heard.inbox .conf).trans empty)
      exact lives.goesOn .noWork ((congrArg Turn.returned turn).trans returned) (by simp)
        ((congrArg (Subscriber.state ∘ Turn.component) turn).trans lost)
    · have turn : proceed engine subscriber listened context clock = listen subscriber listened context clock := by
        unfold proceed
        rw [show subscriber.state = .listening topic from listening]
      obtain ⟨result, returned, different, lost⟩ := listen_forgets listened context clock calm
      exact lives.goesOn result ((congrArg Turn.returned turn).trans returned) different
        ((congrArg (Subscriber.state ∘ Turn.component) turn).trans lost)
  harmless := by
    rintro ⟨(subscriber : Subscriber), (call : Call ConfPort OutPort), context, clock⟩
      (listened : Call ConfPort OutPort) heard going remembers
    have remembers : ¬ Forgetful subscriber call := remembers
    have inbox (port : ConfPort) : listened.inbox port = call.inbox port := heard.inbox port
    show Sound subscriber (Idle subscriber call)
      (Entitled engine subscriber call (proceed engine subscriber listened context clock).call)
      (proceed engine subscriber listened context clock)
    unfold proceed Idle Entitled
    cases state : subscriber.state with
    | waitingForConfig =>
        refine (configuration_sound fun empty => ?_).weaken (fun idle => ?_) fun reason => .inr ?_
        · rw [inbox] at empty
          exact remembers (.inl ⟨state, empty⟩)
        · rw [inbox]
          exact idle.2
        · rw [inbox] at reason
          exact reason
    | connecting url topic => exact (settle_sound state).weaken And.right .inr
    | listening topic =>
        have failed : ∃ failure, subscriber.messages.head? = some (.error failure) := by
          by_contra calm
          exact remembers (.inr ⟨topic, state, fun failure failed => calm ⟨failure, failed⟩⟩)
        obtain ⟨failure, failed⟩ := failed
        exact (listen_sound failed).weaken And.right .inr
    | finished => exact absurd state going

end MQTTSubscriber

end Flowd
