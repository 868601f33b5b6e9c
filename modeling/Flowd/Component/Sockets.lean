import Flowd.Component.Framing
import Flowd.Component.Outpost

namespace Flowd

/-! TCPServer and UnixSocketServer, which forward what their clients send and write to each
client what is addressed to it. -/

open Transition

/-- The bytes in a message that is bytes or text. -/
def contents : FbpMessage → List UInt8
  | .bytes data => data
  | .text data => intoBytes data
  | _ => []

/-- `as_bytes().unwrap_or(&[])` -/
def bytesOrEmpty (message : FbpMessage) : List UInt8 := message.asBytes.getD []

namespace SocketServer

inductive ServerPort where
  | conf
  | resp
deriving DecidableEq, Repr

/-- What `read` comes to: the first of the bytes that are there, none of them if the client has closed
the connection. -/
inductive Read where
  | available (bytes : List UInt8)
  | wouldBlock
  | failed
deriving DecidableEq, Repr

/-- Whether `write_all` is stopped, and after how many bytes. -/
inductive Write where
  | all
  | blocks (count : Nat)
  | fails (count : Nat)
deriving DecidableEq, Repr

inductive WriteResult where
  | ok
  | wouldBlock
  | error
deriving DecidableEq, Repr

/-- The bytes that are transferred, and what is returned. -/
def Write.writeAll : Write → List UInt8 → List UInt8 × WriteResult
  | .all, buf => (buf, .ok)
  | .blocks count, buf => if buf.length ≤ count then (buf, .ok) else (buf.take count, .wouldBlock)
  | .fails count, buf => if buf.length ≤ count then (buf, .ok) else (buf.take count, .error)

/-- What the system calls of the next call come to, and in which order the hash maps iterate.
`bind` and `accept` may fail, and so may the `set_nonblocking` that follows. -/
structure Sockets where
  bind : Option Bool
  accept : Option Bool
  reads : List (Nat × Read)
  respond : Write
  retries : List (Nat × Write)
  connectionOrder : List Nat
  responseOrder : List Nat

namespace Sockets

variable (sockets : Sockets)

def new : Sockets := ⟨none, none, [], .all, [], [], []⟩

def read (clientId : Nat) : Read := (sockets.reads.lookup clientId).getD .wouldBlock

def retry (clientId : Nat) : Write := (sockets.retries.lookup clientId).getD (.blocks 0)

end Sockets

/-- The keys of a hash map as it iterates over them. -/
def arrange (order keys : List Nat) : List Nat :=
  keys.insertionSort fun first second => order.idxOf first ≤ order.idxOf second

/-- A socket.  For the history: how many packets RESP had delivered when the client was accepted,
and what has been written. -/
structure Connection where
  since : Nat
  written : List UInt8
deriving DecidableEq, Repr

/-- `sockets` is what the next call meets with.  The last three fields are for the history: the
numbers given to clients, what has been read, and the connections that have been removed. -/
structure SocketServerComponent where
  listening : Bool
  connections : HashMap Nat Connection
  nextClientId : Nat
  pendingResponses : HashMap Nat (List UInt8)
  pendingOutbound : List FbpMessage
  sockets : Sockets
  accepted : List Nat
  received : List (Nat × List UInt8)
  closed : List (Nat × Connection)

def new : SocketServerComponent where
  listening := false
  connections := ∅
  nextClientId := 0
  pendingResponses := ∅
  pendingOutbound := []
  sockets := .new
  accepted := []
  received := []
  closed := []

/-- Where the two servers differ: `expects` tells whether a failure panics. -/
structure Variant where
  expects : Bool
  paysForListening : Bool
  readBuffer : Nat
  message : String → FbpMessage
  countsBlocked : Bool
  finishes : Bool
  contents_message : ∀ text, contents (message text) = intoBytes text

inductive Move where
  | sockets (sockets : Sockets)

def work (component : SocketServerComponent) : Move → Option SocketServerComponent
  | .sockets sockets => some { component with sockets }

abbrev ServerTurn := Turn SocketServerComponent ServerPort OutPort Unit

/-- What a call has come to so far; `leaving` is `connections_to_remove`. -/
structure Round where
  component : SocketServerComponent
  call : Call ServerPort OutPort
  context : NodeContext
  leaving : List Nat

namespace Round

variable (round : Round)

/-- `work_units += 1; context.remaining_budget -= 1` behind a look at the budget. -/
def paid : Round :=
  { round with
    call := round.call.worked
    context := { round.context with remainingBudget := round.context.remainingBudget - 1 } }

def turn (clock : Clock) (returned : Returned) : ServerTurn :=
  ⟨round.component, round.call, round.context, clock, [], returned⟩

end Round

section
variable (variant : Variant) (overflowChecks : Bool)

/-- What a failing `set_nonblocking` leads to. -/
def Variant.failure : Returned := if variant.expects then .panicked else .result .noWork

/-- Whether there is a listener now, or what the call returns without one. -/
def listen (round : Round) : Round × Option Returned :=
  if round.component.listening then (round, none)
  else
    match round.call.pop .conf with
    | none => (round, some (.result .noWork))
    | some (listenAddrMsg, call) =>
        let round := { round with call }
        if variant.expects ∧ listenAddrMsg.textOrUtf8 = none then (round, some .panicked)
        else
          match round.component.sockets.bind with
          | none => (round, some (.result .noWork))
          | some false => (round, some variant.failure)
          | some true =>
              let round := { round with component := { round.component with listening := true }, call := call.worked }
              if variant.paysForListening then
                match round.context.spend overflowChecks with
                | none => (round, some .panicked)
                | some context => ({ round with context }, none)
              else (round, none)

/-- `while context.remaining_budget > 0 && !self.pending_outbound.is_empty()` -/
def drain : List FbpMessage → Round → Round
  | [], round => { round with component := { round.component with pendingOutbound := [] } }
  | data :: rest, round =>
      if 0 < round.context.remainingBudget then
        let pushed := round.call.push (.out, data)
        let round := { round with call := pushed.1 }
        if pushed.2 then drain rest round.paid
        else { round with component := { round.component with pendingOutbound := data :: rest } }
      else { round with component := { round.component with pendingOutbound := data :: rest } }

/-- A client is accepted, or what the call returns if that fails.  The connection of a client
that has the same number is dropped. -/
def accept (round : Round) : Round × Option Returned :=
  if 0 < round.context.remainingBudget then
    match round.component.sockets.accept with
    | none => (round, none)
    | some false => (round, some variant.failure)
    | some true =>
        let { connections, nextClientId, accepted, closed, .. } := round.component
        if overflowChecks ∧ 2 ^ 32 ≤ nextClientId + 1 then (round, some .panicked)
        else
          ({ round with
              component := { round.component with
                connections := AList.insert nextClientId ⟨(round.call.taken .resp).length, []⟩ connections
                nextClientId := (nextClientId + 1) % 2 ^ 32
                accepted := accepted ++ [nextClientId]
                closed := closed ++ ((connections.lookup nextClientId).map (nextClientId, ·)).toList } }.paid, none)
  else (round, none)

/-- The body of the loop over the clients. -/
def readClient (round : Round) (clientId : Nat) : Round :=
  match round.component.sockets.read clientId with
  | .available bytes =>
      let data := bytes.take variant.readBuffer
      if data.isEmpty then { round with leaving := round.leaving ++ [clientId] }
      else
        let message := variant.message (framed clientId data)
        let pushed := round.call.push (.out, message)
        let received := round.component.received ++ [(clientId, data)]
        let pendingOutbound :=
          if pushed.2 then round.component.pendingOutbound else round.component.pendingOutbound ++ [message]
        { round with component := { round.component with received, pendingOutbound }, call := pushed.1 }.paid
  | .wouldBlock => round
  | .failed => { round with leaving := round.leaving ++ [clientId] }

/-- `for (client_id, connection) in self.connections.iter_mut()` -/
def readClients : List Nat → Round → Round
  | [], round => round
  | clientId :: rest, round =>
      if 0 < round.context.remainingBudget then readClients rest (readClient variant round clientId) else round

/-- `write_all` to a client. -/
def writeTo (round : Round) (clientId : Nat) (connection : Connection) (response : List UInt8) (write : Write) :
    Round × WriteResult :=
  let written := write.writeAll response
  let connections := AList.insert clientId { connection with written := connection.written ++ written.1 }
    round.component.connections
  ({ round with component := { round.component with connections } }, written.2)

/-- The response that a packet holds is written, or kept if the socket would block. -/
def route (packet : FbpMessage) (round : Round) : Round :=
  match parseFrame (bytesOrEmpty packet) with
  | none => round
  | some (targetClientId, actualResponse) =>
      match round.component.connections.lookup targetClientId with
      | none => round
      | some connection =>
          let (round, result) := writeTo round targetClientId connection actualResponse round.component.sockets.respond
          match result with
          | .ok => round.paid
          | .wouldBlock =>
              let pendingResponses := AList.insert targetClientId actualResponse round.component.pendingResponses
              let round := { round with component := { round.component with pendingResponses } }
              if variant.countsBlocked then round.paid else round
          | .error => { round with leaving := round.leaving ++ [targetClientId] }

def respond (round : Round) : Round :=
  if 0 < round.context.remainingBudget then
    match round.call.pop .resp with
    | none => round
    | some (packet, call) => route variant packet { round with call }
  else round

/-- `self.pending_responses.remove(&client_id)` -/
def settle (round : Round) (clientId : Nat) : Round :=
  let pendingResponses := AList.erase clientId round.component.pendingResponses
  { round with component := { round.component with pendingResponses } }

/-- The body of the loop over the pending responses.  It removes at once what `responses_to_remove`
has removed after the loop, which comes to each client once. -/
def retryClient (round : Round) (clientId : Nat) : Round :=
  let response := (round.component.pendingResponses.lookup clientId).getD []
  match round.component.connections.lookup clientId with
  | none => settle round clientId
  | some connection =>
      let (round, result) := writeTo round clientId connection response (round.component.sockets.retry clientId)
      match result with
      | .ok => (settle round clientId).paid
      | .wouldBlock => round
      | .error => { settle round clientId with leaving := round.leaving ++ [clientId] }

/-- `for (client_id, response_data) in &self.pending_responses` -/
def retryClients : List Nat → Round → Round
  | [], round => round
  | clientId :: rest, round =>
      if 0 < round.context.remainingBudget then retryClients rest (retryClient round clientId) else round

/-- `for client_id in connections_to_remove` -/
def cleanUp : List Nat → Round → Round
  | [], round => { round with leaving := [] }
  | clientId :: rest, round =>
      let { connections, pendingResponses, closed, .. } := round.component
      cleanUp rest { round with
        component := { round.component with
          connections := AList.erase clientId connections
          pendingResponses := AList.erase clientId pendingResponses
          closed := closed ++ ((connections.lookup clientId).map (clientId, ·)).toList }
        call := round.call.worked }

def readAll (round : Round) : Round :=
  readClients variant (arrange round.component.sockets.connectionOrder round.component.connections.keys) round

def retryAll (round : Round) : Round :=
  retryClients (arrange round.component.sockets.responseOrder round.component.pendingResponses.keys) round

/-- `self.resp.is_abandoned() && self.pending_responses.is_empty() && self.pending_outbound.is_empty()` -/
def Variant.isDone (round : Round) : Bool :=
  variant.finishes && round.call.isAbandoned .resp && round.component.pendingResponses.entries.isEmpty &&
    round.component.pendingOutbound.isEmpty

/-- All up to the clients, or what the call returns before it comes to them. -/
def enter (round : Round) : Round × Option Returned :=
  match listen variant overflowChecks round with
  | (round, some returned) => (round, some returned)
  | (round, none) =>
      let (call, stop) := round.call.poll FbpMessage.textOrUtf8
      let round := { round with call }
      if stop then (round, some (.result .finished))
      else accept variant overflowChecks (drain round.component.pendingOutbound round)

def serve (round : Round) : Round :=
  let round := retryAll (respond variant (readAll variant round))
  cleanUp round.leaving round

def conclude (round : Round) (clock : Clock) : ServerTurn :=
  if variant.isDone round then round.turn clock (.result .finished)
  else if 0 < round.call.workUnits then round.turn clock round.call.didWork
  else
    let clock := clock.read
    { round with context := { round.context with wakeAt := some (clock.now + defaultIoPollInterval) } }.turn clock
      round.call.didWork

def begin (component : SocketServerComponent) (call : Call ServerPort OutPort) (context : NodeContext) : Round :=
  ⟨component, call.begin, context, []⟩

def process (component : SocketServerComponent) (call : Call ServerPort OutPort) (context : NodeContext)
    (clock : Clock) : ServerTurn :=
  match enter variant overflowChecks (begin component call context) with
  | (round, some returned) => round.turn clock returned
  | (round, none) => conclude variant (serve variant round) clock

def component : IoComponent where
  In := ServerPort
  Out := OutPort
  State := SocketServerComponent
  Event := Unit
  new := SocketServer.new
  process := SocketServer.process variant overflowChecks
  Move := SocketServer.Move
  work := SocketServer.work

end

/-! What a call does. -/

section
variable {variant : Variant} {overflowChecks : Bool}

/-- Until there is a listener, only that and what comes from CONF and the signals change. -/
structure Listened (round next : Round) : Prop where
  component : ∃ listening, next.component = { round.component with listening }
  outs : next.call.outs = round.call.outs
  taken : next.call.taken .resp = round.call.taken .resp
  inbox : next.call.inbox .resp = round.call.inbox .resp

theorem listen_listened (round : Round) : Listened round (listen variant overflowChecks round).1 := by
  unfold listen
  split
  · exact ⟨⟨_, rfl⟩, rfl, rfl, rfl⟩
  · rcases round.call.pop_cases .conf with ⟨_, popped⟩ | ⟨packet, _, taken, _, popped, took, _, outs, _⟩
    · rw [popped]
      exact ⟨⟨_, rfl⟩, rfl, rfl, rfl⟩
    · have same : taken.ins .resp = round.call.ins .resp := took.others .resp (by decide)
      have resp : taken.taken .resp = round.call.taken .resp := congrArg Inlet.taken same
      have waiting : taken.inbox .resp = round.call.inbox .resp := congrArg (fun inlet => inlet.ring.buffer) same
      rw [popped]
      dsimp only
      split
      · exact ⟨⟨_, rfl⟩, outs, resp, waiting⟩
      · split
        · exact ⟨⟨_, rfl⟩, outs, resp, waiting⟩
        · exact ⟨⟨_, rfl⟩, outs, resp, waiting⟩
        · split
          · split <;> exact ⟨⟨_, rfl⟩, outs, resp, waiting⟩
          · exact ⟨⟨_, rfl⟩, outs, resp, waiting⟩

theorem failure_ne_finished (variant : Variant) : some variant.failure ≠ some (.result .finished) := by
  unfold Variant.failure
  split <;> simp

theorem listen_unfinished (round : Round) : (listen variant overflowChecks round).2 ≠ some (.result .finished) := by
  unfold listen
  split
  · simp
  · split
    · simp
    · dsimp only
      split
      · simp
      · split
        · simp
        · exact failure_ne_finished variant
        · split
          · split <;> simp
          · simp

theorem accept_unfinished (round : Round) : (accept variant overflowChecks round).2 ≠ some (.result .finished) := by
  unfold accept
  split
  · split
    · simp
    · exact failure_ne_finished variant
    · dsimp only
      split <;> simp
  · simp

/-- What leaves the buffer goes to OUT. -/
structure Drained (pending : List FbpMessage) (round next : Round) : Prop where
  component : ∃ pendingOutbound, next.component = { round.component with pendingOutbound } ∧
    (next.call.outs .out).sent ++ pendingOutbound = (round.call.outs .out).sent ++ pending
  ins : next.call.ins = round.call.ins

theorem drain_drained (pending : List FbpMessage) (round : Round) : Drained pending round (drain pending round) := by
  induction pending generalizing round with
  | nil => exact ⟨⟨_, rfl, rfl⟩, rfl⟩
  | cons data rest ih =>
      unfold drain
      split
      · rcases round.call.push_cases (.out, data) with ⟨outs, pushed, sent, _⟩ | ⟨outs, pushed, sent, _⟩
        · rw [pushed]
          obtain ⟨⟨left, same, forwards⟩, ins⟩ := ih (Round.paid { round with call := { round.call with outs } })
          refine ⟨⟨left, same, forwards.trans ?_⟩, ins⟩
          show (outs .out).sent ++ rest = (round.call.outs .out).sent ++ data :: rest
          rw [sent, addressed_singleton_self, List.append_assoc]
          rfl
        · rw [pushed]
          exact ⟨⟨_, rfl, congrArg (· ++ data :: rest) (sent .out)⟩, rfl⟩
      · exact ⟨⟨_, rfl, rfl⟩, rfl⟩

/-- What each of the first steps of a call keeps, they keep together. -/
theorem enter_rule (before after : Round → Prop)
    (listens : ∀ first second, Listened first second → before first → before second)
    (drains : ∀ first second, Drained first.component.pendingOutbound first second → before first → before second)
    (accepts : ∀ round, before round → after (accept variant overflowChecks round).1)
    (onwards : ∀ round, before round → after round) {round : Round} (start : before round) :
    after (enter variant overflowChecks round).1 := by
  have listening := listens round (listen variant overflowChecks round).1 (listen_listened round) start
  unfold enter
  generalize listen variant overflowChecks round = listened at listening ⊢
  obtain ⟨heard, returned⟩ := listened
  cases returned with
  | some returned => exact onwards heard listening
  | none =>
      have polls := Call.Heard.of_poll heard.call
      dsimp only
      generalize heard.call.poll FbpMessage.textOrUtf8 = polled at polls ⊢
      obtain ⟨call, stop⟩ := polled
      have polled : Listened heard { heard with call } :=
        ⟨⟨_, rfl⟩, polls.outs, by rw [Call.taken, Call.taken, polls.ins], by rw [Call.inbox, Call.inbox, polls.ins]⟩
      have polling := listens _ _ polled listening
      cases stop with
      | true => exact onwards _ polling
      | false => exact accepts _ (drains _ _ (drain_drained _ _) polling)

/-- Only a stop finishes before it comes to the clients. -/
theorem enter_stopped {round : Round} (finished : (enter variant overflowChecks round).2 = some (.result .finished)) :
    (enter variant overflowChecks round).1.call.Stopped FbpMessage.textOrUtf8 := by
  have unfinished : (listen variant overflowChecks round).2 ≠ some (.result .finished) := listen_unfinished round
  unfold enter at finished ⊢
  generalize listen variant overflowChecks round = listened at unfinished finished ⊢
  obtain ⟨heard, returned⟩ := listened
  cases returned with
  | some returned => exact absurd finished unfinished
  | none =>
      have polls := Call.Heard.of_poll heard.call
      dsimp only at finished ⊢
      generalize heard.call.poll FbpMessage.textOrUtf8 = polled at polls finished ⊢
      obtain ⟨call, stop⟩ := polled
      cases stop with
      | true => exact polls.stopped rfl
      | false => exact absurd finished (accept_unfinished _)

theorem retryClient_sockets (round : Round) (clientId : Nat) :
    (retryClient round clientId).component.sockets = round.component.sockets := by
  unfold retryClient writeTo
  dsimp only
  split
  · rfl
  · split <;> rfl

theorem route_sockets (packet : FbpMessage) (round : Round) :
    (route variant packet round).component.sockets = round.component.sockets := by
  unfold route writeTo
  dsimp only
  split
  · rfl
  · split
    · rfl
    · split
      · rfl
      · split <;> rfl
      · rfl

theorem conclude_cases (variant : Variant) (round : Round) (clock : Clock) :
    (conclude variant round clock).component = round.component ∧ (conclude variant round clock).call = round.call ∧
      ((conclude variant round clock).returned = .result .finished → variant.isDone round = true) := by
  unfold conclude
  split
  · next done => exact ⟨rfl, rfl, fun _ => done⟩
  · split
    · exact ⟨rfl, rfl, fun finished => absurd finished (Call.didWork_ne_finished _)⟩
    · exact ⟨rfl, rfl, fun finished => absurd finished (Call.didWork_ne_finished _)⟩

end

end SocketServer

namespace TCPServer

def variant : SocketServer.Variant := ⟨true, true, 4096, .text, true, true, fun _ => rfl⟩

def process (overflowChecks : Bool) :
    SocketServer.SocketServerComponent → Call SocketServer.ServerPort OutPort → NodeContext → Clock →
      SocketServer.ServerTurn := SocketServer.process variant overflowChecks

end TCPServer

namespace UnixSocketServer

def variant : SocketServer.Variant :=
  ⟨false, false, 65536, fun text => .bytes (intoBytes text), false, false, fun _ => rfl⟩

def process (overflowChecks : Bool) :
    SocketServer.SocketServerComponent → Call SocketServer.ServerPort OutPort → NodeContext → Clock →
      SocketServer.ServerTurn := SocketServer.process variant overflowChecks

end UnixSocketServer

end Flowd
