import Flowd.Component.Droppers
import Flowd.Component.Outpost

namespace Flowd

/-! HTTPClient: its requests pass through the thread, and what becomes of them. -/

namespace HTTPClient

inductive RequestPort where
  | conf
  | req
deriving DecidableEq, Repr

inductive ReplyPort where
  | resp
  | err
deriving DecidableEq, Repr

inductive State where
  | waitingForRequests
  | processing
  | finished
deriving DecidableEq, Repr

/-- The retry parameters that CONF sets are read nowhere. -/
structure Client where
  state : State
  pendingResponses : List (List UInt8)
  pendingErrors : List (List UInt8)
  channels : IoChannels String (Except String (List UInt8))

abbrev ClientTurn := Turn Client RequestPort ReplyPort Unit

def new : Client := ⟨.waitingForRequests, [], [], .new⟩

section
variable (client : Client) (call : Call RequestPort ReplyPort) (context : NodeContext) (clock : Clock)

def finish : ClientTurn := ⟨{ client with state := .finished }, call, context, clock, [], .result .finished⟩

/-- A result that OUT does not take is put in a queue that nothing empties. -/
def deliver : Except String (List UInt8) → ClientTurn
  | .ok body =>
      match call.push (.resp, .bytes body) with
      | (call, true) =>
          ⟨{ client with state := .waitingForRequests }, call, context, clock, [], .result (.didWork 1)⟩
      | (call, false) =>
          ⟨{ client with state := .waitingForRequests, pendingResponses := client.pendingResponses ++ [body] }, call,
            context, clock, [], .result (.didWork 1)⟩
  | .error errorMsg =>
      match call.push (.err, .bytes (intoBytes errorMsg)) with
      | (call, true) =>
          ⟨{ client with state := .waitingForRequests }, call, context, clock, [], .result (.didWork 1)⟩
      | (call, false) =>
          ⟨{ client with state := .waitingForRequests, pendingErrors := client.pendingErrors ++ [intoBytes errorMsg] },
            call, context, clock, [], .result (.didWork 1)⟩

def await : ClientTurn :=
  match call.pop .req with
  | some (urlMsg, call) =>
      match urlMsg.textOrUtf8 with
      | none => ⟨{ client with state := .finished }, call, context, clock, [], .panicked⟩
      | some url =>
          match client.channels.trySend url with
          | (.sent, channels) =>
              ⟨{ client with state := .processing, channels }, call, context, clock, [], .result (.didWork 1)⟩
          -- the request is dropped
          | (.full, _) =>
              ⟨{ client with state := .waitingForRequests }, call, context, clock, [], .result .noWork⟩
          | (.disconnected, _) => finish client call context clock
  | none =>
      match client.channels.tryRecv with
      | (.received answer, channels) => deliver { client with channels } call context clock answer
      -- the state is not put back
      | (.empty, _) =>
          ⟨{ client with state := .finished }, call,
            { context with remainingBudget := context.remainingBudget - 1 }, clock, [], .result .noWork⟩
      | (.disconnected, _) => finish client call context clock

/-- What follows the look at the signals. -/
def proceed : ClientTurn :=
  match client.state with
  | .waitingForRequests => await client call context clock
  | .processing => finish client call context clock
  | .finished => finish client call context clock

/-- A configuration is taken before the signals are looked at. -/
def configured : Call RequestPort ReplyPort :=
  match call.begin.pop .conf with
  | some (_, call) => call
  | none => call.begin

def process : ClientTurn :=
  let (call, stop) := (configured call).poll FbpMessage.textOrUtf8
  if stop then finish client call context clock else proceed client call context clock

end

def Idle (client : Client) (call : Call RequestPort ReplyPort) : Prop :=
  call.signalsIn = [] ∧ call.inbox .conf = [] ∧
    match client.state with
    | .waitingForRequests =>
        call.inbox .req = [] ∧ client.channels.results = [] ∧ client.channels.alive = true
    | .processing => client.channels.results = [] ∧ client.channels.alive = true
    | .finished => True

def Entitled (client : Client) (after : Call RequestPort ReplyPort) : Prop :=
  after.Stopped FbpMessage.textOrUtf8 ∨
    match client.state with
    | .waitingForRequests | .processing => client.channels.alive = false
    | .finished => False

/-- The call finds no request and no result, or it falls into the processing of one. -/
def Forgetful (client : Client) (call : Call RequestPort ReplyPort) : Prop :=
  client.channels.alive = true ∧
    ((client.state = .waitingForRequests ∧ call.inbox .req = [] ∧ client.channels.results = []) ∨
      client.state = .processing)

def component : IoComponent where
  In := RequestPort
  Out := ReplyPort
  State := Client
  Event := Unit
  new := HTTPClient.new
  process := HTTPClient.process
  Move := WorkerMove (Except String (List UInt8))
  work client move := (client.channels.work move).map fun channels => { client with channels }

def lifecycle : Lifecycle component where
  Field := HTTPClient.State
  field := Client.state
  finished := .finished
  keepsField := by
    intro client move next worked
    obtain ⟨channels, _, same⟩ := Option.map_eq_some_iff.mp worked
    rw [← same]
  idle client call _ _ := Idle client call
  entitled client _ := Entitled client

abbrev Sound (client : Client) (idle entitled : Prop) (turn : ClientTurn) : Prop :=
  turn.Survives Client.state .finished client idle entitled

variable {client : Client} {call : Call RequestPort ReplyPort} {context : NodeContext} {clock : Clock}

/-- What the look at CONF leaves alone. -/
theorem configured_cases (call : Call RequestPort ReplyPort) :
    (configured call).signalsIn = call.signalsIn ∧ (configured call).outs = call.outs ∧
      (configured call).heard = [] ∧ (configured call).ins .req = call.ins .req := by
  unfold configured
  rcases call.begin.pop_cases .conf with ⟨_, popped⟩ | ⟨packet, rest, next, _, popped, took, _, outs, heard, _⟩
  · rw [popped]
    exact ⟨rfl, rfl, rfl, rfl⟩
  · rw [popped]
    exact ⟨(Call.pop_keeps popped).1, outs, heard, took.others .req (by decide)⟩

theorem deliver_state (client : Client) (call : Call RequestPort ReplyPort) (context : NodeContext) (clock : Clock)
    (answer : Except String (List UInt8)) :
    (deliver client call context clock answer).component.state = .waitingForRequests ∧
      (deliver client call context clock answer).returned = .result (.didWork 1) := by
  cases answer with
  | ok body =>
      unfold deliver
      dsimp only
      rcases call.push_cases (.resp, .bytes body) with ⟨_, pushed, _⟩ | ⟨_, refused, _⟩
      · rw [pushed]
        exact ⟨rfl, rfl⟩
      · rw [refused]
        exact ⟨rfl, rfl⟩
  | error errorMsg =>
      unfold deliver
      dsimp only
      rcases call.push_cases (.err, .bytes (intoBytes errorMsg)) with ⟨_, pushed, _⟩ | ⟨_, refused, _⟩
      · rw [pushed]
        exact ⟨rfl, rfl⟩
      · rw [refused]
        exact ⟨rfl, rfl⟩

theorem await_sound
    (busy : ¬ (call.inbox .req = [] ∧ client.channels.results = [] ∧ client.channels.alive = true)) :
    Sound client (call.inbox .req = [] ∧ client.channels.results = [] ∧ client.channels.alive = true)
      (client.channels.alive = false) (await client call context clock) := by
  unfold await
  rcases call.pop_cases .req with ⟨empty, popped⟩ | ⟨urlMsg, rest, next, found, popped, _⟩
  · rw [popped]
    dsimp only
    rcases client.channels.tryRecv_cases with ⟨none, alive, received⟩ | ⟨_, dead, received⟩ | ⟨_, answer, rest, _, received⟩
    · exact absurd ⟨empty, none, alive⟩ busy
    · rw [received]
      exact .ending rfl busy dead
    · rw [received]
      obtain ⟨state, returned⟩ :=
        deliver_state { client with channels := { client.channels with results := rest } } call context clock answer
      exact .going (by simp [state]) (fun idle => absurd idle busy) (by simp [returned])
  · rw [popped]
    dsimp only
    cases read : urlMsg.textOrUtf8 with
    | none => exact .panicking rfl busy
    | some url =>
        dsimp only
        rcases client.channels.trySend_cases url with ⟨_, _, sent⟩ | ⟨_, _, sent⟩ | ⟨dead, sent⟩
        · rw [sent]
          exact .going (by simp) (fun idle => absurd idle busy) (by simp)
        · rw [sent]
          exact .going (by simp) (fun idle => absurd idle busy) (by simp)
        · rw [sent]
          exact .ending rfl busy dead

theorem await_forgets (client : Client) (context : NodeContext) (clock : Clock) (empty : call.inbox .req = [])
    (unanswered : client.channels.results = []) (alive : client.channels.alive = true) :
    (await client call context clock).returned = .result .noWork ∧
      (await client call context clock).component = { client with state := .finished } ∧
        (await client call context clock).call = call := by
  unfold await
  rcases call.pop_cases .req with ⟨_, popped⟩ | ⟨_, _, _, found, _⟩
  · rw [popped]
    dsimp only
    rcases client.channels.tryRecv_cases with ⟨_, _, received⟩ | ⟨_, dead, _⟩ | ⟨_, _, _, found, _⟩
    · rw [received]
      exact ⟨rfl, rfl, rfl⟩
    · rw [alive] at dead
      cases dead
    · rw [unanswered] at found
      cases found
  · rw [empty] at found
    cases found

def polling : Polling lifecycle Forgetful where
  opening := configured
  stopping := finish
  body := proceed
  signals call := (configured_cases call).1
  process _ _ _ _ := rfl
  stops _ _ _ _ := ⟨rfl, rfl⟩
  quiet _ _ _ _ idle := idle.1
  reason _ _ _ stopped := .inl stopped
  harmful := by
    rintro ⟨(client : Client), (call : Call RequestPort ReplyPort), context, clock⟩
      (listened : Call RequestPort ReplyPort) heard ⟨alive, forgetful⟩ lives
    obtain ⟨_, _, fresh, requests⟩ := configured_cases call
    have alive : client.channels.alive = true := alive
    rcases forgetful with ⟨waiting, empty, unanswered⟩ | processing
    · have turn : proceed client listened context clock = await client listened context clock := by
        unfold proceed
        rw [show client.state = .waitingForRequests from waiting]
      have empty : listened.inbox .req = [] :=
        (heard.inbox .req).trans
          ((congrArg (fun inlet : Inlet FbpMessage => inlet.ring.buffer) requests).trans empty)
      obtain ⟨returned, lost, _⟩ := await_forgets client context clock empty unanswered alive
      exact lives.goesOn .noWork ((congrArg Turn.returned turn).trans returned) (by simp)
        (congrArg Client.state ((congrArg Turn.component turn).trans lost))
    · have processing : client.state = .processing := processing
      have turn : proceed client listened context clock = finish client listened context clock := by
        unfold proceed
        rw [processing]
      rcases lives.entitled (congrArg Turn.returned turn) with stopped | dead
      · apply heard.unstopped rfl fresh
        have same : (proceed client listened context clock).call = listened := congrArg Turn.call turn
        exact same ▸ stopped
      · have dead : client.channels.alive = false := by simpa only [processing] using dead
        rw [alive] at dead
        cases dead
  harmless := by
    rintro ⟨(client : Client), (call : Call RequestPort ReplyPort), context, clock⟩
      (listened : Call RequestPort ReplyPort) heard going remembers
    have remembers : ¬ Forgetful client call := remembers
    have inbox : listened.inbox .req = call.inbox .req :=
      (heard.inbox .req).trans
        (congrArg (fun inlet : Inlet FbpMessage => inlet.ring.buffer) (configured_cases call).2.2.2)
    show Sound client (Idle client call) (Entitled client (proceed client listened context clock).call)
      (proceed client listened context clock)
    unfold proceed Idle Entitled
    cases state : client.state with
    | waitingForRequests =>
        refine (await_sound fun nothing => ?_).weaken (fun idle => ?_) .inr
        · rw [inbox] at nothing
          exact remembers ⟨nothing.2.2, .inl ⟨state, nothing.1, nothing.2.1⟩⟩
        · rw [inbox]
          exact idle.2.2
    | processing =>
        have dead : client.channels.alive = false := by
          by_contra alive
          exact remembers ⟨by simpa using alive, .inr state⟩
        exact .ending rfl (fun idle => by simp [dead] at idle) (.inr dead)
    | finished => exact absurd state going

end HTTPClient

end Flowd
