import Flowd.Component.Clients
import Flowd.Component.Requests

namespace Flowd

/-! Whether a client survives being called with nothing to do. -/

open Transition

inductive IoClient where
  | httpClient
  | tcpClient
  | wsClient
  | unixSocketClient
  | mqttPublisher
  | mqttSubscriber
  | redisPublisher
deriving DecidableEq, Repr

namespace IoClient

variable {SocketAddr UnixSocketAddr : Type} (engine : NetEngine SocketAddr UnixSocketAddr)

def component : IoClient → IoComponent
  | .httpClient => HTTPClient.component
  | .tcpClient => (TCPClient.connector engine).component
  | .wsClient => (WSClient.connector engine).component
  | .unixSocketClient => UnixSocketClient.component engine
  | .mqttPublisher => (MQTTPublisher.connector engine).component
  | .mqttSubscriber => MQTTSubscriber.component engine
  | .redisPublisher => (RedisPublisher.connector engine).component

def lifecycle : (client : IoClient) → Lifecycle (client.component engine)
  | .httpClient => HTTPClient.lifecycle
  | .tcpClient => (TCPClient.connector engine).lifecycle
  | .wsClient => (WSClient.connector engine).lifecycle
  | .unixSocketClient => UnixSocketClient.lifecycle engine
  | .mqttPublisher => (MQTTPublisher.connector engine).lifecycle
  | .mqttSubscriber => MQTTSubscriber.lifecycle engine
  | .redisPublisher => (RedisPublisher.connector engine).lifecycle

def new (now : Instant) : (client : IoClient) → (client.component engine).State
  | .httpClient => HTTPClient.new
  | .tcpClient | .wsClient | .mqttPublisher | .redisPublisher => Connector.new .default now
  | .unixSocketClient => UnixSocketClient.new
  | .mqttSubscriber => MQTTSubscriber.new

/-- What finds nothing there and does not put the state back, or meets a request in progress. -/
def Forgetful : (client : IoClient) → (client.component engine).State →
    Call (client.component engine).In (client.component engine).Out → Prop
  | .httpClient => HTTPClient.Forgetful
  | .tcpClient => (TCPClient.connector engine).Forgetful
  | .wsClient => (WSClient.connector engine).Forgetful
  | .unixSocketClient => fun client call => UnixSocketClient.Forgetful client call engine
  | .mqttPublisher => (MQTTPublisher.connector engine).Forgetful
  | .mqttSubscriber => MQTTSubscriber.Forgetful
  | .redisPublisher => (RedisPublisher.connector engine).Forgetful

def polling : (client : IoClient) → Polling (client.lifecycle engine) (client.Forgetful engine)
  | .httpClient => HTTPClient.polling
  | .tcpClient => (TCPClient.connector engine).polling
  | .wsClient => (WSClient.connector engine).polling
  | .unixSocketClient => UnixSocketClient.polling engine
  | .mqttPublisher => (MQTTPublisher.connector engine).polling
  | .mqttSubscriber => MQTTSubscriber.polling engine
  | .redisPublisher => (RedisPublisher.connector engine).polling

theorem new_alive (now : Instant) (client : IoClient) :
    (client.lifecycle engine).field (client.new engine now) ≠ (client.lifecycle engine).finished := by
  cases client <;> exact fun same => by cases same

/-- Every call of a run keeps the client going, and finishes it for a reason only, exactly if
none forgets the state. -/
theorem survives_iff (client : IoClient) (inCapacity : (client.component engine).In → Nat)
    (outCapacity : (client.component engine).Out → Nat) (now : Instant) (outpost : Outpost (client.component engine))
    (trace : List (client.component engine).Event)
    (run : (outpostMachine (client.component engine)).Run anyMove
      (.start (client.new engine now) inCapacity outCapacity now) trace outpost) :
    (∀ visit ∈ outpost.history, visit.Lives (client.lifecycle engine)) ↔
      ∀ visit ∈ outpost.history, ¬ (visit.Unstopped ∧ client.Forgetful engine visit.state visit.call) :=
  (client.polling engine).forgets.lives_iff _ (client.new_alive engine now) run

/-- WSClient gets its address and a connection, and is called twice more with nothing to do. -/
def wsConnected : List (Affair (WSClient.connector .offline).component) :=
  [.feed ConfInPort.conf (.text "ws://localhost/"),
    .process { NodeContext.new "client" .normal 0 0 with remainingBudget := 10 } (fun _ => []) [],
    .work .take, .work (.report (.ok ())),
    .process { NodeContext.new "client" .normal 0 0 with remainingBudget := 10 } (fun _ => []) [],
    .process { NodeContext.new "client" .normal 0 0 with remainingBudget := 10 } (fun _ => []) [],
    .process { NodeContext.new "client" .normal 0 0 with remainingBudget := 10 } (fun _ => []) []]

/-- Where it ends. -/
def wsIdle : Outpost (WSClient.connector .offline).component :=
  (outpostMachine _).played (.start (Connector.new .default 0) (fun _ => 1) (fun _ => 1) 0) wsConnected

theorem survives_iff_idle :
    wsIdle.history.map (fun visit => visit.turn.returned) =
        [.result (.didWork 1), .result (.didWork 1), .result .noWork, .result .noWork] ∧
      ∀ visit ∈ wsIdle.history, visit.Lives (IoClient.wsClient.lifecycle .offline) := by
  have run := Machine.run_played (outpostMachine (IoClient.wsClient.component .offline))
    (Machine.permits_any (.start (IoClient.wsClient.new .offline 0) (fun _ => 1) (fun _ => 1) 0) wsConnected)
    (by decide +kernel)
  have kept : ∀ visit ∈ wsIdle.history, (Call.inbox visit.call ConfInPort.conf).isEmpty = true →
      (visit.state.state matches .waitingForConfig) = false := by decide +kernel
  refine ⟨by decide +kernel, (survives_iff .offline .wsClient _ _ _ _ _ run).mpr fun visit member forgotten => ?_⟩
  obtain ⟨_, waiting, empty, _⟩ := forgotten
  have here := kept visit member (List.isEmpty_iff.mpr empty)
  rw [waiting] at here
  cases here

/-- TCPClient before any call. -/
def tcpStart : Outpost (IoClient.tcpClient.component .offline) :=
  .start (IoClient.tcpClient.new .offline 0) (fun _ => 1) (fun _ => 1) 0

/-- A call under a budget of ten. -/
def dispatch : Affair (IoClient.tcpClient.component .offline) :=
  .process { NodeContext.new "client" .normal 0 0 with remainingBudget := 10 } (fun _ => []) []

/-- TCPClient is called before its configuration has arrived. -/
theorem idle_call_finishes :
    ¬ ∀ (client : IoClient) (inCapacity : (client.component .offline).In → Nat)
      (outCapacity : (client.component .offline).Out → Nat) (now : Instant) outpost trace,
      (outpostMachine (client.component .offline)).Run anyMove
        (.start (client.new .offline now) inCapacity outCapacity now) trace outpost →
      ∀ visit ∈ outpost.history, visit.Lives (client.lifecycle .offline) := by
  intro survives
  have run := Machine.run_played (outpostMachine (IoClient.tcpClient.component .offline))
    (Machine.permits_any tcpStart [dispatch]) (by decide +kernel)
  have lives := survives .tcpClient _ _ _ _ _ run _ (List.mem_cons_self (l := []))
  refine (IoClient.tcpClient.polling .offline).forgets.harmful _ ⟨?_, ?_⟩ lives
  · show (none : Option String) ≠ some "stop"
    decide
  · exact ⟨rfl, rfl, fun _ => ⟨rfl, rfl⟩⟩

end IoClient

end Flowd
