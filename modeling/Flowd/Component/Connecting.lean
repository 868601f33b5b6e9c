import Flowd.Component.Outpost

namespace Flowd

/-! The components that have a thread open a connection and try again: TCPClient, WSClient,
MQTTPublisher and RedisPublisher. -/

inductive Configured (Address : Type) where
  | address (address : Address)
  | invalid
  | panics

/-- The connection itself and its names are used by spawned tasks only. -/
inductive ClientState (Address : Type) where
  | waitingForConfig
  | connecting (address : Address)
  | retryingConnection (address : Address) (retryState : RetryState)
  | connected (pendingMessages : List FbpMessage)
  | finished

/-- An attempt is handed to the thread, or it is seen that one has failed. -/
inductive Attempt where
  | handed (now : Instant)
  | failed (errorType : ErrorType) (now : Instant)
deriving DecidableEq, Repr

/-- Where the four differ: how they read their configuration and sort their errors, whether
they look for results before they are configured, and whether they have an outport.
`runtime` is whether `tokio::spawn` finds a runtime. -/
structure Connector (Address Failure : Type) where
  configure : FbpMessage → Configured Address
  classify : Failure → ErrorType
  looksAhead : Bool
  forwards : Bool
  runtime : Bool

structure ClientComponent (Address Failure : Type) where
  state : ClientState Address
  pendingReceived : List FbpMessage
  channels : IoChannels Address (Except Failure Unit)
  retryConfig : RetryConfig
  retryState : RetryState

namespace Connector

variable {Address Failure : Type}

abbrev ClientTurn (Address Failure : Type) := Turn (ClientComponent Address Failure) ConfInPort OutPort Attempt

def new (retryConfig : RetryConfig) (now : Instant) : ClientComponent Address Failure :=
  ⟨.waitingForConfig, [], .new, retryConfig, .new now⟩

/-- `while context.remaining_budget > 0 && !self.inn.is_empty()` -/
def collect : Nat → List FbpMessage → Call ConfInPort OutPort → Nat × List FbpMessage × Call ConfInPort OutPort
  | 0, pendingMessages, call => (0, pendingMessages, call)
  | budget + 1, pendingMessages, call =>
      match call.pop .inn with
      | none => (budget + 1, pendingMessages, call)
      | some (ip, call) => collect budget (pendingMessages ++ [ip]) call.worked

/-- `while context.remaining_budget > 0 && !self.pending_received.is_empty()` -/
def forward : Nat → List FbpMessage → Call ConfInPort OutPort → Nat × List FbpMessage × Call ConfInPort OutPort
  | 0, pendingReceived, call => (0, pendingReceived, call)
  | budget + 1, [], call => (budget + 1, [], call)
  | budget + 1, ip :: rest, call =>
      match call.push (.out, ip) with
      | (call, true) => forward budget rest call.worked
      | (call, false) => (budget + 1, ip :: rest, call)

/-- What a connected client makes of its queues. -/
structure Transfer where
  pendingMessages : List FbpMessage
  pendingReceived : List FbpMessage
  call : Call ConfInPort OutPort
  remainingBudget : Nat
  panics : Bool

/-- Spawned tasks are handed what came in, and what was received is forwarded. -/
def transfer (runtime forwards : Bool) (budget : Nat) (pendingMessages pendingReceived : List FbpMessage)
    (call : Call ConfInPort OutPort) : Transfer :=
  let (budget, pendingMessages, call) := collect budget pendingMessages call
  let spawns := !pendingMessages.isEmpty && decide (0 < budget)
  if spawns && !runtime then ⟨pendingMessages, pendingReceived, call, budget, true⟩
  else
    let pendingMessages := if spawns then [] else pendingMessages
    let call := if spawns then call.worked else call
    let budget := if spawns then budget - 1 else budget
    let (budget, pendingReceived, call) :=
      if forwards then forward budget pendingReceived call else (budget, pendingReceived, call)
    ⟨pendingMessages, pendingReceived, call, budget, false⟩

variable (connector : Connector Address Failure)

section
variable (component : ClientComponent Address Failure) (call : Call ConfInPort OutPort)
variable (context : NodeContext) (clock : Clock)

def finish : ClientTurn Address Failure :=
  ⟨{ component with state := .finished }, call, context, clock, [], .result .finished⟩

/-- `context.wake_at(Instant::now() + DEFAULT_IO_POLL_INTERVAL)` -/
def wait (state : ClientState Address) : ClientTurn Address Failure :=
  ⟨{ component with state }, call, { context with wakeAt := some (clock.read.now + defaultIoPollInterval) },
    clock.read, [], .result .noWork⟩

/-- `Connecting`: the result of the attempt is awaited. -/
def settle (address : Address) : ClientTurn Address Failure :=
  match component.channels.tryRecv with
  | (.received (.ok ()), channels) =>
      ⟨{ component with state := .connected [], channels }, call, context, clock, [], .result (.didWork 1)⟩
  | (.received (.error failure), channels) =>
      let errorType := connector.classify failure
      if component.retryState.shouldRetry component.retryConfig errorType then
        -- `mem::take` leaves a fresh counter behind
        let fresh := clock.read
        let clock := fresh.read
        let retryState :=
          { component.retryState.calculateNextRetry component.retryConfig clock.now with lastErrorType := errorType }
        ⟨{ component with state := .retryingConnection address retryState, channels, retryState := .new fresh.now },
          call, context, clock, [.failed errorType clock.now], .result (.didWork 1)⟩
      else
        ⟨{ component with state := .finished, channels }, call, context, clock, [.failed errorType clock.now],
          .result .finished⟩
  | _ => wait component call context clock (.connecting address)

/-- The end of `WaitingForConfig`; the state is not put back. -/
def unconfigured : ClientTurn Address Failure :=
  ⟨{ component with state := .finished }, call,
    { context with remainingBudget := context.remainingBudget - 1 }, clock, [], .result .noWork⟩

def configuration : ClientTurn Address Failure :=
  match call.pop .conf with
  | some (urlMsg, call) =>
      match connector.configure urlMsg with
      | .panics => ⟨{ component with state := .finished }, call, context, clock, [], .panicked⟩
      | .invalid => finish component call context clock
      | .address address =>
          match component.channels.trySend address with
          | (.sent, channels) =>
              ⟨{ component with state := .connecting address, channels }, call, context, clock, [.handed clock.now],
                .result (.didWork 1)⟩
          | (.full, _) => ⟨{ component with state := .waitingForConfig }, call, context, clock, [], .result .noWork⟩
          | (.disconnected, _) => finish component call context clock
  | none =>
      if connector.looksAhead then
        match component.channels.tryRecv with
        | (.received (.ok ()), channels) =>
            ⟨{ component with state := .connected [], channels }, call, context, clock, [], .result (.didWork 1)⟩
        | (.received (.error _), channels) => finish { component with channels } call context clock
        | (.empty, _) => unconfigured component call context clock
        | (.disconnected, _) => finish component call context clock
      else unconfigured component call context clock

/-- `RetryingConnection`: the attempt is repeated when its time has come. -/
def retry (address : Address) (retryState : RetryState) : ClientTurn Address Failure :=
  let clock := clock.read
  if retryState.isReadyToRetry clock.now then
    match component.channels.trySend address with
    | (.sent, channels) =>
        ⟨{ component with state := .connecting address, channels }, call, context, clock, [.handed clock.now],
          .result (.didWork 1)⟩
    | (.full, _) => wait component call context clock (.retryingConnection address retryState)
    | (.disconnected, _) => finish component call context clock
  else
    ⟨{ component with state := .retryingConnection address retryState }, call,
      { context with wakeAt := some retryState.nextRetryAt }, clock, [], .result .noWork⟩

/-- `Connected` -/
def exchange (pendingMessages : List FbpMessage) : ClientTurn Address Failure :=
  let transfer := transfer connector.runtime connector.forwards context.remainingBudget pendingMessages
    component.pendingReceived call
  let component := { component with pendingReceived := transfer.pendingReceived }
  let context := { context with remainingBudget := transfer.remainingBudget }
  if transfer.panics then
    ⟨{ component with state := .finished }, transfer.call, context, clock, [], .panicked⟩
  else if transfer.call.isAbandoned .inn then finish component transfer.call context clock
  else if 0 < transfer.call.workUnits then
    ⟨{ component with state := .connected transfer.pendingMessages }, transfer.call, context, clock, [],
      .result (.didWork transfer.call.workUnits)⟩
  else wait component transfer.call context clock (.connected transfer.pendingMessages)

/-- What follows the look at the signals. -/
def proceed : ClientTurn Address Failure :=
  match component.state with
  | .waitingForConfig => connector.configuration component call context clock
  | .connecting address => connector.settle component call context clock address
  | .retryingConnection address retryState => retry component call context clock address retryState
  | .connected pendingMessages => connector.exchange component call context clock pendingMessages
  | .finished => finish component call context clock

def process : ClientTurn Address Failure :=
  let (call, stop) := call.begin.poll FbpMessage.textOrUtf8
  if stop then finish component call context clock else connector.proceed component call context clock

/-- What the call looks at is not there. -/
def Idle : Prop :=
  call.signalsIn = [] ∧
    match component.state with
    | .waitingForConfig =>
        call.inbox .conf = [] ∧ (connector.looksAhead = true → component.channels.results = [] ∧ component.channels.alive = true)
    | .connecting _ => component.channels.results = []
    | .retryingConnection _ retryState => clock.read.now < retryState.nextRetryAt
    | .connected pendingMessages =>
        call.inbox .inn = [] ∧ call.isAbandoned .inn = false ∧ pendingMessages = [] ∧ component.pendingReceived = []
    | .finished => True

end

/-- A stop, an error or the end of the input. -/
def Entitled (component : ClientComponent Address Failure) (before after : Call ConfInPort OutPort) : Prop :=
  after.Stopped FbpMessage.textOrUtf8 ∨
    match component.state with
    | .waitingForConfig =>
        (∃ urlMsg ∈ before.inbox .conf, connector.configure urlMsg = .invalid) ∨ component.channels.alive = false ∨
          ∃ result ∈ component.channels.results, ∃ failure, result.2 = .error failure
    | .connecting _ => ∃ result ∈ component.channels.results, ∃ failure, result.2 = .error failure
    | .retryingConnection _ _ => component.channels.alive = false
    | .connected _ => before.isAbandoned .inn = true
    | .finished => False

/-- The call finds no configuration, nor anything else it looks for. -/
def Forgetful (component : ClientComponent Address Failure) (call : Call ConfInPort OutPort) : Prop :=
  component.state = .waitingForConfig ∧ call.inbox .conf = [] ∧
    (connector.looksAhead = true → component.channels.results = [] ∧ component.channels.alive = true)

def component : IoComponent where
  In := ConfInPort
  Out := OutPort
  State := ClientComponent Address Failure
  Event := Attempt
  new := Connector.new .default 0
  process := connector.process
  Move := WorkerMove (Except Failure Unit)
  work component move := (component.channels.work move).map fun channels => { component with channels }

def lifecycle : Lifecycle connector.component where
  Field := ClientState Address
  field := ClientComponent.state
  finished := .finished
  keepsField := by
    intro state move next worked
    obtain ⟨channels, _, same⟩ := Option.map_eq_some_iff.mp worked
    rw [← same]
  idle component call _ clock := connector.Idle component call clock
  entitled := connector.Entitled

/-! Which calls forget the state. -/

theorem collect_abandoned (budget : Nat) (pendingMessages : List FbpMessage) (call : Call ConfInPort OutPort) :
    (collect budget pendingMessages call).2.2.isAbandoned .inn = call.isAbandoned .inn := by
  induction budget generalizing pendingMessages call with
  | zero => rfl
  | succ budget ih =>
      unfold collect
      rcases call.pop_cases .inn with ⟨_, popped⟩ | ⟨ip, _, next, _, popped, took, _⟩
      · rw [popped]
      · rw [popped]
        exact (ih _ next.worked).trans (took.abandoned .inn)

theorem forward_abandoned (budget : Nat) (pendingReceived : List FbpMessage) (call : Call ConfInPort OutPort) :
    (forward budget pendingReceived call).2.2.isAbandoned .inn = call.isAbandoned .inn := by
  induction budget generalizing pendingReceived call with
  | zero => rfl
  | succ budget ih =>
      cases pendingReceived with
      | nil => rfl
      | cons ip rest =>
          unfold forward
          rcases call.push_cases (.out, ip) with ⟨outs, pushed, _⟩ | ⟨outs, refused, _⟩
          · rw [pushed]
            exact ih rest ({ call with outs } : Call ConfInPort OutPort).worked
          · rw [refused]
            rfl

theorem collect_empty (budget : Nat) (pendingMessages : List FbpMessage) {call : Call ConfInPort OutPort}
    (empty : call.inbox .inn = []) : collect budget pendingMessages call = (budget, pendingMessages, call) := by
  cases budget with
  | zero => rfl
  | succ budget =>
      unfold collect
      rcases call.pop_cases .inn with ⟨_, popped⟩ | ⟨_, _, _, found, _⟩
      · rw [popped]
      · rw [empty] at found
        cases found

theorem transfer_abandoned (runtime forwards : Bool) (budget : Nat) (pendingMessages pendingReceived : List FbpMessage)
    (call : Call ConfInPort OutPort) :
    (transfer runtime forwards budget pendingMessages pendingReceived call).call.isAbandoned .inn =
      call.isAbandoned .inn := by
  rw [← collect_abandoned budget pendingMessages call]
  unfold transfer
  generalize collect budget pendingMessages call = gathered
  obtain ⟨budget, collected, next⟩ := gathered
  dsimp only
  generalize (!collected.isEmpty && decide (0 < budget)) = spawns
  split
  · rfl
  · have same : (if spawns = true then next.worked else next).isAbandoned .inn = next.isAbandoned .inn := by
      split <;> rfl
    rw [← same]
    cases forwards with
    | false => rfl
    | true => exact forward_abandoned _ pendingReceived _

/-- Without anything to send, nothing is spawned. -/
theorem transfer_idle (runtime forwards : Bool) (budget : Nat) (pendingMessages pendingReceived : List FbpMessage)
    (call : Call ConfInPort OutPort) (empty : call.inbox .inn = []) (sent : pendingMessages = []) :
    (transfer runtime forwards budget pendingMessages pendingReceived call).panics = false ∧
      (transfer runtime forwards budget pendingMessages pendingReceived call).pendingMessages = [] := by
  unfold transfer
  rw [collect_empty _ _ empty, sent]
  exact ⟨rfl, rfl⟩

abbrev Sound (component : ClientComponent Address Failure) (idle entitled : Prop) (turn : ClientTurn Address Failure) :
    Prop := turn.Survives ClientComponent.state .finished component idle entitled

variable {connector} {component : ClientComponent Address Failure} {call : Call ConfInPort OutPort}
variable {context : NodeContext} {clock : Clock} {address : Address}

theorem settle_sound (state : component.state = .connecting address) :
    Sound component (component.channels.results = [])
      (∃ result ∈ component.channels.results, ∃ failure, result.2 = .error failure)
      (connector.settle component call context clock address) := by
  unfold settle
  rcases component.channels.tryRecv_cases with ⟨_, _, received⟩ | ⟨_, _, received⟩ | ⟨_, answer, _, results, received⟩
  · rw [received]
    exact .going (by simp [wait]) (fun _ => state.symm) (by simp [wait])
  · rw [received]
    exact .going (by simp [wait]) (fun _ => state.symm) (by simp [wait])
  · rw [received, results]
    cases answer with
    | ok connected => exact .going (by simp) (fun empty => by cases empty) (by simp)
    | error failure =>
        dsimp only
        split
        · exact .going (by simp) (fun empty => by cases empty) (by simp)
        · exact .ending rfl (by simp) ⟨_, List.mem_cons_self, failure, rfl⟩

theorem retry_sound {retryState : RetryState} (state : component.state = .retryingConnection address retryState) :
    Sound component (clock.read.now < retryState.nextRetryAt) (component.channels.alive = false)
      (retry component call context clock address retryState) := by
  unfold retry RetryState.isReadyToRetry
  dsimp only
  split
  · next ready =>
      have late : ¬ clock.read.now < retryState.nextRetryAt := Nat.not_lt.mpr (by simpa using ready)
      rcases component.channels.trySend_cases address with ⟨_, _, sent⟩ | ⟨_, _, sent⟩ | ⟨dead, sent⟩
      · rw [sent]
        exact .going (by simp) (fun early => absurd early late) (by simp)
      · rw [sent]
        exact .going (by simp [wait]) (fun early => absurd early late) (by simp [wait])
      · rw [sent]
        exact .ending rfl late dead
  · exact .going (by simp) (fun _ => state.symm) (by simp)

theorem configuration_sound
    (remembers : ¬ (call.inbox .conf = [] ∧
      (connector.looksAhead = true → component.channels.results = [] ∧ component.channels.alive = true))) :
    Sound component (call.inbox .conf = [] ∧
        (connector.looksAhead = true → component.channels.results = [] ∧ component.channels.alive = true))
      ((∃ urlMsg ∈ call.inbox .conf, connector.configure urlMsg = .invalid) ∨ component.channels.alive = false ∨
        ∃ result ∈ component.channels.results, ∃ failure, result.2 = .error failure)
      (connector.configuration component call context clock) := by
  unfold configuration
  rcases call.pop_cases .conf with ⟨empty, popped⟩ | ⟨urlMsg, rest, next, found, popped, _⟩
  · rw [popped]
    dsimp only
    split
    · rcases component.channels.tryRecv_cases with ⟨none, alive, received⟩ | ⟨_, dead, received⟩ | ⟨_, answer, _, results, received⟩
      · exact absurd ⟨empty, fun _ => ⟨none, alive⟩⟩ remembers
      · rw [received]
        exact .ending rfl remembers (.inr (.inl dead))
      · rw [received]
        cases answer with
        | ok connected => exact .going (by simp) (fun idle => absurd idle remembers) (by simp)
        | error failure =>
            exact .ending rfl remembers (.inr (.inr ⟨_, results ▸ List.mem_cons_self, failure, rfl⟩))
    · next blind => exact absurd ⟨empty, fun ahead => absurd ahead blind⟩ remembers
  · rw [popped]
    dsimp only
    cases configured : connector.configure urlMsg with
    | panics => exact .panicking rfl remembers
    | invalid => exact .ending rfl remembers (.inl ⟨urlMsg, found ▸ List.mem_cons_self, configured⟩)
    | address address =>
        dsimp only
        rcases component.channels.trySend_cases address with ⟨_, _, sent⟩ | ⟨_, _, sent⟩ | ⟨dead, sent⟩
        · rw [sent]
          exact .going (by simp) (fun idle => absurd idle remembers) (by simp)
        · rw [sent]
          exact .going (by simp) (fun idle => absurd idle remembers) (by simp)
        · rw [sent]
          exact .ending rfl remembers (.inr (.inl dead))

/-- The state is lost exactly in a call that finds nothing. -/
theorem configuration_forgets (empty : call.inbox .conf = [])
    (unanswered : connector.looksAhead = true → component.channels.results = [] ∧ component.channels.alive = true) :
    connector.configuration component call context clock = unconfigured component call context clock := by
  unfold configuration
  rcases call.pop_cases .conf with ⟨_, popped⟩ | ⟨_, _, _, found, _⟩
  · rw [popped]
    dsimp only
    split
    · next ahead =>
        obtain ⟨results, alive⟩ := unanswered ahead
        rcases component.channels.tryRecv_cases with ⟨_, _, received⟩ | ⟨_, dead, _⟩ | ⟨_, _, _, found, _⟩
        · rw [received]
        · rw [alive] at dead
          cases dead
        · rw [results] at found
          cases found
    · rfl
  · rw [empty] at found
    cases found

theorem exchange_sound {pendingMessages : List FbpMessage} (state : component.state = .connected pendingMessages) :
    Sound component
      (call.inbox .inn = [] ∧ call.isAbandoned .inn = false ∧ pendingMessages = [] ∧ component.pendingReceived = [])
      (call.isAbandoned .inn = true) (connector.exchange component call context clock pendingMessages) := by
  unfold exchange
  have abandoned := transfer_abandoned connector.runtime connector.forwards context.remainingBudget pendingMessages
    component.pendingReceived call
  have idling := transfer_idle connector.runtime connector.forwards context.remainingBudget pendingMessages
    component.pendingReceived call
  generalize transfer connector.runtime connector.forwards context.remainingBudget pendingMessages
    component.pendingReceived call = transfer at abandoned idling ⊢
  dsimp only
  split
  · next panics => exact .panicking rfl fun idle => by simp [(idling idle.1 idle.2.2.1).1] at panics
  · split
    · next ended =>
        rw [abandoned] at ended
        exact .ending rfl (fun idle => by simp [ended] at idle) ended
    · have rests (idle : call.inbox .inn = [] ∧ call.isAbandoned .inn = false ∧ pendingMessages = [] ∧
          component.pendingReceived = []) : ClientState.connected transfer.pendingMessages = component.state := by
        rw [state, (idling idle.1 idle.2.2.1).2, idle.2.2.1]
      split
      · exact .going (by simp) rests (by simp)
      · exact .going (by simp [wait]) rests (by simp [wait])

/-- The clients forget their state exactly in the calls that find nothing before they are
configured. -/
def polling (connector : Connector Address Failure) : Polling connector.lifecycle connector.Forgetful where
  opening := Call.begin
  stopping := finish
  body := connector.proceed
  signals _ := rfl
  process _ _ _ _ := rfl
  stops _ _ _ _ := ⟨rfl, rfl⟩
  quiet _ _ _ _ idle := idle.1
  reason _ _ _ stopped := .inl stopped
  harmful := by
    rintro ⟨(component : ClientComponent Address Failure), (call : Call ConfInPort OutPort), context, clock⟩
      (listened : Call ConfInPort OutPort) heard ⟨waiting, empty, unanswered⟩ lives
    have turn : connector.proceed component listened context clock = unconfigured component listened context clock := by
      unfold proceed
      rw [waiting]
      exact configuration_forgets ((heard.inbox .conf).trans empty) unanswered
    exact lives.goesOn .noWork (congrArg Turn.returned turn) (by simp)
      (congrArg (ClientComponent.state ∘ Turn.component) turn)
  harmless := by
    rintro ⟨(component : ClientComponent Address Failure), (call : Call ConfInPort OutPort), context, clock⟩
      (listened : Call ConfInPort OutPort) heard going remembers
    have remembers : ¬ connector.Forgetful component call := remembers
    have inbox (port : ConfInPort) : listened.inbox port = call.inbox port := heard.inbox port
    have abandoned : listened.isAbandoned .inn = call.isAbandoned .inn := heard.isAbandoned .inn
    show Sound component (connector.Idle component call clock)
      (connector.Entitled component call (connector.proceed component listened context clock).call)
      (connector.proceed component listened context clock)
    unfold proceed Idle Entitled
    cases state : component.state with
    | waitingForConfig =>
        refine (configuration_sound fun nothing => ?_).weaken (fun idle => ?_) fun reason => .inr ?_
        · rw [inbox] at nothing
          exact remembers ⟨state, nothing⟩
        · rw [inbox]
          exact idle.2
        · rw [inbox] at reason
          exact reason
    | connecting address => exact (settle_sound state).weaken And.right .inr
    | retryingConnection address retryState => exact (retry_sound state).weaken And.right .inr
    | connected pendingMessages =>
        refine (exchange_sound state).weaken (fun idle => ?_) fun ended => .inr ?_
        · rw [inbox, abandoned]
          exact idle.2
        · rw [← abandoned]
          exact ended
    | finished => exact absurd state going

end Connector

end Flowd
