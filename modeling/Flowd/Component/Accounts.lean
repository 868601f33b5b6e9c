import Flowd.Component.Requests

namespace Flowd

/-! What becomes of the URLs that HTTPClient takes from REQ. -/

open Transition

namespace HTTPClient

abbrev Settled := String × Except String (List UInt8)

def Settled.response (settled : Settled) : Option (List UInt8) := settled.2.toOption

def Settled.error (settled : Settled) : Option (List UInt8) :=
  match settled.2 with
  | .ok _ => none
  | .error errorMsg => some (intoBytes errorMsg)

/-- The URLs taken from REQ. -/
def taken (call : Call RequestPort ReplyPort) : List String := (call.taken .req).filterMap FbpMessage.textOrUtf8

/-- Every URL is with the thread, or the thread has reported on it; each report is in the
result channel, pending or delivered. -/
structure Accounts (client : Client) (call : Call RequestPort ReplyPort) (pending delivered : List Settled) : Prop where
  taken : taken call =
    client.channels.reported.map Prod.fst ++ client.channels.working.toList ++ client.channels.commands
  reported : client.channels.reported.Perm (delivered ++ pending ++ client.channels.results)
  pendingResponses : client.pendingResponses = pending.filterMap Settled.response
  pendingErrors : client.pendingErrors = pending.filterMap Settled.error
  responses : (call.outs .resp).sent = (delivered.filterMap Settled.response).map .bytes
  errors : (call.outs .err).sent = (delivered.filterMap Settled.error).map .bytes

def Conserves (client : Client) (call : Call RequestPort ReplyPort) : Prop :=
  ∃ pending delivered, Accounts client call pending delivered

def WorkerIdle (client : Client) : Prop := client.channels.working = none ∧ client.channels.commands = []

instance decidableWorkerIdle (client : Client) : Decidable (WorkerIdle client) := inferInstanceAs (Decidable (_ ∧ _))

/-- RESP and ERR have space. -/
def HasSpace (call : Call RequestPort ReplyPort) : Prop := ∀ port, (call.outs port).ring.isFull = false

instance decidableHasSpace (call : Call RequestPort ReplyPort) : Decidable (HasSpace call) :=
  decidable_of_iff ((call.outs .resp).ring.isFull = false ∧ (call.outs .err).ring.isFull = false)
    ⟨fun space port => by cases port; exacts [space.1, space.2], fun space => ⟨space .resp, space .err⟩⟩

def AllDelivered (client : Client) (call : Call RequestPort ReplyPort) : Prop :=
  WorkerIdle client ∧ client.channels.results = [] ∧ ∃ delivered, Accounts client call [] delivered

/-- Without a stop, and unless the thread or a full edge is waited for, a call that does not
go on has delivered everything. -/
def Delivers (visit : Visit component) : Prop :=
  visit.turn.returned = .result .noWork ∨ visit.turn.returned = .result .finished →
    ¬ visit.turn.call.Stopped FbpMessage.textOrUtf8 → WorkerIdle visit.turn.component → HasSpace visit.turn.call →
      AllDelivered visit.turn.component visit.turn.call

/-- The call falls into the processing of a request whose answer could be delivered. -/
def Abandons (visit : Visit component) : Prop :=
  visit.Unstopped ∧ Client.state visit.state = .processing ∧ WorkerIdle visit.state ∧ HasSpace visit.call

instance decidableAbandons (visit : Visit component) : Decidable (Abandons visit) :=
  have : Decidable (WorkerIdle visit.state) := decidableWorkerIdle visit.state
  have : Decidable (HasSpace visit.call) := decidableHasSpace visit.call
  inferInstanceAs (Decidable (¬ visit.call.signalsIn.head?.bind FbpMessage.textOrUtf8 = some "stop" ∧
    Client.state visit.state = State.processing ∧ WorkerIdle visit.state ∧ HasSpace visit.call))

def endsThread : Affair component → Bool
  | .work .die => true
  | _ => false

/-- The thread does not end. -/
def Working (_ : Outpost component) (affair : Affair component) : Prop := endsThread affair = false

instance decidableWorking (outpost : Outpost component) : DecidablePred (Working outpost) :=
  fun affair => inferInstanceAs (Decidable (endsThread affair = false))

variable {client : Client} {call : Call RequestPort ReplyPort} {context : NodeContext} {clock : Clock}

/-- At most one URL has ever been taken, and nothing has been delivered. -/
structure Standing (client : Client) (call : Call RequestPort ReplyPort) : Prop where
  accounts : Accounts client call [] []
  alive : client.channels.alive = true
  single : (taken call).length ≤ 1

/-- A client that is still called is processing as soon as it has taken a URL. -/
def InPhase (client : Client) (call : Call RequestPort ReplyPort) : Prop :=
  taken call ≠ [] ↔ client.state = .processing

theorem Standing.congr {next : Client} {later : Call RequestPort ReplyPort} (standing : Standing client call)
    (channels : next.channels = client.channels) (pendingResponses : next.pendingResponses = client.pendingResponses)
    (pendingErrors : next.pendingErrors = client.pendingErrors) (same : taken later = taken call)
    (sent : ∀ port, (later.outs port).sent = (call.outs port).sent) : Standing next later := by
  have accounts := standing.accounts
  refine ⟨⟨?_, ?_, ?_, ?_, ?_, ?_⟩, channels ▸ standing.alive, same ▸ standing.single⟩
  · rw [same, channels, accounts.taken]
  · rw [channels]
    exact accounts.reported
  · rw [pendingResponses, accounts.pendingResponses]
  · rw [pendingErrors, accounts.pendingErrors]
  · rw [sent, accounts.responses]
  · rw [sent, accounts.errors]

theorem Accounts.results_of_unsent {pending delivered : List Settled} (accounts : Accounts client call pending delivered)
    (responses : (call.outs .resp).sent = []) (errors : (call.outs .err).sent = []) : delivered = [] := by
  rw [accounts.responses, List.map_eq_nil_iff, List.filterMap_eq_nil_iff] at responses
  rw [accounts.errors, List.map_eq_nil_iff, List.filterMap_eq_nil_iff] at errors
  cases delivered with
  | nil => rfl
  | cons settled rest =>
      have unanswered := responses settled List.mem_cons_self
      have unfailed := errors settled List.mem_cons_self
      unfold Settled.error at unfailed
      unfold Settled.response at unanswered
      cases answer : settled.2 with
      | ok body => simp [answer, Except.toOption] at unanswered
      | error errorMsg => simp [answer] at unfailed

/-- Where nothing has been taken, nothing is under way. -/
theorem Standing.untaken (standing : Standing client call) (untaken : taken call = []) :
    WorkerIdle client ∧ client.channels.results = [] := by
  have parts := standing.accounts.taken
  rw [untaken, eq_comm, List.append_eq_nil_iff, List.append_eq_nil_iff, List.map_eq_nil_iff, Option.toList_eq_nil_iff] at parts
  have kept := standing.accounts.reported
  rw [parts.1.1, List.append_nil, List.nil_append] at kept
  exact ⟨⟨parts.1.2, parts.2⟩, List.nil_perm.mp kept⟩

/-- Nothing is delivered as long as something has been taken. -/
theorem Standing.delivered_iff (standing : Standing client call) (idle : WorkerIdle client) :
    AllDelivered client call ↔ taken call = [] := by
  have unsent := standing.accounts
  constructor
  · rintro ⟨_, unanswered, delivered, accounts⟩
    have none : delivered = [] :=
      accounts.results_of_unsent (by simp [unsent.responses]) (by simp [unsent.errors])
    have unreported := accounts.reported
    rw [none, unanswered, List.append_nil, List.append_nil, List.perm_nil] at unreported
    rw [accounts.taken, unreported, idle.1, idle.2]
    rfl
  · intro untaken
    exact ⟨idle, (standing.untaken untaken).2, [], unsent⟩

/-- How a call can go while the thread lives and no answer is waiting for a waiting client. -/
inductive Served (client : Client) (call : Call RequestPort ReplyPort) (turn : ClientTurn) : Prop where
  | stopped (asked : call.signalsIn.head?.bind FbpMessage.textOrUtf8 = some "stop")
      (heard : turn.call.Stopped FbpMessage.textOrUtf8) (component : turn.component = { client with state := .finished })
      (taken : HTTPClient.taken turn.call = HTTPClient.taken call) (returned : turn.returned = .result .finished)
  | left (unasked : call.signalsIn.head?.bind FbpMessage.textOrUtf8 ≠ some "stop")
      (unheard : ¬ turn.call.Stopped FbpMessage.textOrUtf8) (component : turn.component = { client with state := .finished })
      (taken : HTTPClient.taken turn.call = HTTPClient.taken call)
      (returned : (client.state = .waitingForRequests ∧ turn.returned = .result .noWork) ∨
        turn.returned = .result .finished)
  | unreadable (waiting : client.state = .waitingForRequests)
      (component : turn.component = { client with state := .finished })
      (taken : HTTPClient.taken turn.call = HTTPClient.taken call) (returned : turn.returned = .panicked)
  | enqueued (url : String) (waiting : client.state = .waitingForRequests)
      (component : turn.component =
        { client with state := .processing, channels := { client.channels with commands := client.channels.commands ++ [url] } })
      (taken : HTTPClient.taken turn.call = HTTPClient.taken call ++ [url]) (returned : turn.returned = .result (.didWork 1))

theorem taken_configured (call : Call RequestPort ReplyPort) : taken (configured call) = taken call := by
  rw [taken, taken, Call.taken, Call.taken, (configured_cases call).2.2.2]

theorem process_served (client : Client) (call : Call RequestPort ReplyPort) (context : NodeContext) (clock : Clock)
    (alive : client.channels.alive = true)
    (room : client.state = .waitingForRequests → client.channels.results = [] ∧ client.channels.commands = []) :
    Served client call (process client call context clock) ∧ (process client call context clock).call.outs = call.outs := by
  obtain ⟨signals, outs, fresh, _⟩ := configured_cases call
  have heard := Call.Heard.of_poll (configured call)
  have kept := taken_configured call
  unfold process
  generalize (configured call).poll FbpMessage.textOrUtf8 = polled at heard ⊢
  obtain ⟨listened, stop⟩ := polled
  have same : taken listened = taken call := by rw [← kept, taken, taken, Call.taken, Call.taken, heard.ins]
  have unpushed : listened.outs = call.outs := heard.outs.trans outs
  cases stop with
  | true => exact ⟨.stopped (signals ▸ heard.asked.mp rfl) (heard.stopped rfl) rfl same rfl, unpushed⟩
  | false =>
      have unasked : call.signalsIn.head?.bind FbpMessage.textOrUtf8 ≠ some "stop" := by
        intro asked
        cases heard.asked.mpr (signals ▸ asked)
      have unheard := heard.unstopped rfl fresh
      dsimp only
      rw [if_neg Bool.false_ne_true]
      unfold proceed
      cases state : client.state with
      | processing => exact ⟨.left unasked unheard rfl same (.inr rfl), unpushed⟩
      | finished => exact ⟨.left unasked unheard rfl same (.inr rfl), unpushed⟩
      | waitingForRequests =>
          obtain ⟨unanswered, free⟩ := room state
          dsimp only
          rcases listened.pop_cases .req with ⟨empty, _⟩ | ⟨urlMsg, rest, next, _, popped, took, _, nextOuts, _⟩
          · obtain ⟨returned, component, still⟩ := await_forgets client context clock empty unanswered alive
            exact ⟨.left unasked (still.symm ▸ unheard) component (still.symm ▸ same) (.inl ⟨state, returned⟩),
              still.symm ▸ unpushed⟩
          · have added : taken next = taken call ++ (urlMsg.textOrUtf8).toList := by
              rw [← same, taken, took.taken, List.filterMap_append, taken]
              cases read : urlMsg.textOrUtf8 <;> simp [read]
            have unpushed : next.outs = call.outs := nextOuts.trans unpushed
            unfold await
            rw [popped]
            dsimp only
            cases read : urlMsg.textOrUtf8 with
            | none => exact ⟨.unreadable state rfl (by simpa [read] using added) rfl, unpushed⟩
            | some url =>
                dsimp only
                rcases client.channels.trySend_cases url with ⟨_, _, sent⟩ | ⟨_, full, _⟩ | ⟨dead, _⟩
                · rw [sent]
                  exact ⟨.enqueued url state rfl (by simpa [read] using added) rfl, unpushed⟩
                · simp [free, defaultMaxInflight] at full
                · rw [alive] at dead
                  cases dead

theorem InPhase.untaken (phase : InPhase client call) (waiting : client.state = .waitingForRequests) : taken call = [] := by
  by_contra some
  rw [phase.mp some] at waiting
  cases waiting

theorem Standing.room (standing : Standing client call) (phase : InPhase client call)
    (waiting : client.state = .waitingForRequests) : client.channels.results = [] ∧ client.channels.commands = [] := by
  obtain ⟨idle, unanswered⟩ := standing.untaken (phase.untaken waiting)
  exact ⟨unanswered, idle.2⟩

/-- What a call leaves behind. -/
theorem Standing.served {turn : ClientTurn} (standing : Standing client call) (phase : InPhase client call)
    (served : Served client call turn) (unpushed : turn.call.outs = call.outs) :
    Standing turn.component turn.call ∧
      (turn.returned ≠ .panicked → turn.returned ≠ .result .finished → InPhase turn.component turn.call) := by
  have sent : ∀ port, (turn.call.outs port).sent = (call.outs port).sent := fun port => by rw [unpushed]
  cases served with
  | stopped _ _ component same returned =>
      exact ⟨standing.congr (by rw [component]) (by rw [component]) (by rw [component]) same sent,
        fun _ going => absurd returned going⟩
  | left _ _ component same returned =>
      refine ⟨standing.congr (by rw [component]) (by rw [component]) (by rw [component]) same sent, fun _ going => ?_⟩
      rcases returned with ⟨waiting, _⟩ | finished
      · rw [InPhase, same, component, phase.untaken waiting]
        simp
      · exact absurd finished going
  | unreadable _ component same returned =>
      exact ⟨standing.congr (by rw [component]) (by rw [component]) (by rw [component]) same sent,
        fun panicked => absurd returned panicked⟩
  | enqueued url waiting component same returned =>
      obtain ⟨_, free⟩ := standing.room phase waiting
      have untaken := phase.untaken waiting
      have accounts := standing.accounts
      refine ⟨⟨⟨?_, ?_, ?_, ?_, ?_, ?_⟩, ?_, ?_⟩, fun _ _ => ?_⟩
      · rw [same, component, accounts.taken]
        simp
      · rw [component]
        exact accounts.reported
      · rw [component]
        exact accounts.pendingResponses
      · rw [component]
        exact accounts.pendingErrors
      · rw [sent, accounts.responses]
      · rw [sent, accounts.errors]
      · rw [component]
        exact standing.alive
      · simp [same, untaken]
      · rw [InPhase, same, component]
        simp

theorem Standing.work {move : WorkerMove (Except String (List UInt8))} {channels : IoChannels String (Except String (List UInt8))}
    (standing : Standing client call) (worked : client.channels.work move = some channels) (lives : move ≠ .die) :
    Standing { client with channels } call := by
  have accounts := standing.accounts
  have parts := accounts.taken
  have kept : client.channels.reported.Perm client.channels.results := by simpa using accounts.reported
  rcases IoChannels.work_cases worked with ⟨url, rest, _, working, commands, rfl⟩ |
    ⟨url, answer, _, working, resting, commands, alive, reported, results, _⟩ | ⟨dies, _⟩
  · rw [working, commands] at parts
    refine ⟨⟨?_, accounts.reported, accounts.pendingResponses, accounts.pendingErrors, accounts.responses,
      accounts.errors⟩, standing.alive, standing.single⟩
    simpa using parts
  · have room : client.channels.results.length < defaultMaxPending := by
      have bound := standing.single
      rw [parts, List.length_append, List.length_append, List.length_map, kept.length_eq] at bound
      exact Nat.lt_of_le_of_lt (Nat.le_trans (Nat.le_add_right _ _) (Nat.le_trans (Nat.le_add_right _ _) bound)) (by decide)
    refine ⟨⟨?_, ?_, accounts.pendingResponses, accounts.pendingErrors, accounts.responses, accounts.errors⟩,
      alive.trans standing.alive, standing.single⟩
    · rw [working] at parts
      rw [parts, reported, resting, commands]
      simp
    · rw [reported, results room]
      exact kept.append_right _
  · exact absurd dies lives

/-- A call delivers everything exactly if it does not abandon a request. -/
theorem delivers_iff (visit : Visit component) (standing : Standing visit.state visit.call)
    (phase : InPhase visit.state visit.call) : Delivers visit ↔ ¬ Abandons visit := by
  obtain ⟨(client : Client), (call : Call RequestPort ReplyPort), context, clock⟩ := visit
  have standing : Standing client call := standing
  have phase : InPhase client call := phase
  obtain ⟨served, unpushed⟩ := process_served client call context clock standing.alive (standing.room phase)
  obtain ⟨after, _⟩ := standing.served phase served unpushed
  show ((process client call context clock).returned = .result .noWork ∨
      (process client call context clock).returned = .result .finished →
    ¬ (process client call context clock).call.Stopped FbpMessage.textOrUtf8 → WorkerIdle (process client call context clock).component →
      HasSpace (process client call context clock).call →
        AllDelivered (process client call context clock).component (process client call context clock).call) ↔
    ¬ (call.signalsIn.head?.bind FbpMessage.textOrUtf8 ≠ some "stop" ∧ client.state = .processing ∧ WorkerIdle client ∧ HasSpace call)
  generalize process client call context clock = turn at served unpushed after ⊢
  have space : HasSpace turn.call ↔ HasSpace call := by rw [HasSpace, HasSpace, unpushed]
  cases served with
  | stopped asked heard => exact iff_of_true (fun _ unheard => absurd heard unheard) fun abandons => abandons.1 asked
  | unreadable waiting _ _ panicked =>
      exact iff_of_true (fun returned => by simp [panicked] at returned) fun abandons => by simp [waiting] at abandons
  | enqueued _ waiting _ _ worked =>
      exact iff_of_true (fun returned => by simp [worked] at returned) fun abandons => by simp [waiting] at abandons
  | left unasked unheard component same returned =>
      have idle : WorkerIdle turn.component ↔ WorkerIdle client := by rw [component]; exact Iff.rfl
      rw [space, idle]
      constructor
      · rintro delivers ⟨_, processing, idle', room⟩
        have delivered := delivers (returned.imp And.right id) unheard idle' room
        rw [after.delivered_iff (idle.mpr idle'), same] at delivered
        exact phase.mpr processing delivered
      · intro keeps _ _ idle' room
        rw [after.delivered_iff (idle.mpr idle'), same]
        by_contra some
        exact keeps ⟨unasked, phase.mp some, idle', room⟩

/-- What holds in a run. -/
structure Honest (outpost : Outpost component) : Prop where
  standing : Standing outpost.state outpost.ports
  phase : outpost.isOver = false → InPhase outpost.state outpost.ports
  history : ∀ visit ∈ outpost.history, Standing visit.state visit.call ∧ InPhase visit.state visit.call

theorem Honest.start (inCapacity : RequestPort → Nat) (outCapacity : ReplyPort → Nat) (now : Instant) :
    Honest (.start HTTPClient.new inCapacity outCapacity now) where
  standing := ⟨⟨rfl, .refl _, rfl, rfl, rfl, rfl⟩, rfl, Nat.zero_le 1⟩
  phase _ := by simp [InPhase, taken, Outpost.start, HTTPClient.new, Call.taken, Inlet.ofRing]
  history visit member := by cases member

theorem Standing.idle {later : Call RequestPort ReplyPort} (standing : Standing client call)
    (idle : Call.Idle call later) : Standing client later ∧ taken later = taken call := by
  have same : taken later = taken call := by rw [taken, taken, idle.taken]
  exact ⟨standing.congr rfl rfl rfl same idle.sent, same⟩

theorem Honest.step {outpost next : Outpost component} {affair : Affair component} {events : List Unit}
    (honest : Honest outpost) (works : Working outpost affair) (step : outpost.step affair = some (next, events)) :
    Honest next := by
  rcases Outpost.step_cases step with ⟨between, _⟩ | ⟨context, schedule, later, going, rfl, _⟩
  · obtain ⟨standing, same⟩ := honest.standing.idle between.ports
    refine ⟨?_, fun going => ?_, between.history ▸ honest.history⟩
    · rcases between.worked with unchanged | ⟨move, affair, worked⟩
      · rw [unchanged]
        exact standing
      · obtain ⟨channels, sent, changed⟩ := Option.map_eq_some_iff.mp worked
        rw [← changed]
        refine standing.work sent fun dies => ?_
        rw [Working, affair, dies] at works
        cases works
    · have phase := honest.phase (by rw [Outpost.isOver, ← between.returned]; exact going)
      have kept : Client.state next.state = Client.state outpost.state := between.field lifecycle
      show taken next.ports ≠ [] ↔ Client.state next.state = .processing
      rw [same, kept]
      exact phase
  · obtain ⟨standing, same⟩ := honest.standing.idle (.scheduled outpost.ports schedule)
    have phase : InPhase outpost.state (outpost.ports.scheduled schedule) := by
      show taken (outpost.ports.scheduled schedule) ≠ [] ↔ Client.state outpost.state = .processing
      rw [same]
      exact honest.phase going
    obtain ⟨served, unpushed⟩ := process_served outpost.state (outpost.ports.scheduled schedule) context
      ⟨outpost.now, later⟩ standing.alive (standing.room phase)
    obtain ⟨after, onwards⟩ := standing.served phase served unpushed
    refine ⟨after, fun going => ?_, fun visit member => ?_⟩
    · obtain ⟨calm, unfinished⟩ := (Outpost.isOver_eq_false _).mp going
      exact onwards (fun panicked => calm (congrArg some panicked)) fun finished => unfinished (congrArg some finished)
    · rcases List.mem_append.mp member with earlier | now
      · exact honest.history visit earlier
      · rw [List.mem_singleton.mp now]
        exact ⟨standing, phase⟩

/-- Every URL that has been taken is accounted for, and all have been delivered where nothing
stands in the way exactly if no call abandons a request. -/
theorem accounts_iff (inCapacity : RequestPort → Nat) (outCapacity : ReplyPort → Nat) (now : Instant)
    (outpost : Outpost component) (trace : List Unit)
    (run : (outpostMachine component).Run Working (.start HTTPClient.new inCapacity outCapacity now) trace outpost) :
    Conserves outpost.state outpost.ports ∧
      ((∀ visit ∈ outpost.history, Delivers visit) ↔ ∀ visit ∈ outpost.history, ¬ Abandons visit) := by
  have honest : Honest outpost :=
    Machine.Run.invariant Honest run (.start inCapacity outCapacity now) fun works holds step => holds.step works step
  refine ⟨⟨[], [], honest.standing.accounts⟩, forall₂_congr fun visit member => ?_⟩
  obtain ⟨standing, phase⟩ := honest.history visit member
  exact delivers_iff visit standing phase

/-- HTTPClient with some space on its edges. -/
def idleStart : Outpost component := .start HTTPClient.new (fun _ => 1) (fun _ => 1) 0

def dispatch : Affair component :=
  .process { NodeContext.new "http" .normal 0 0 with remainingBudget := 10 } (fun _ => []) []

def request : Affair component := .feed RequestPort.req (.text "http://localhost/")

/-- A stop ends the processing. -/
def interrupted : List (Affair component) := [request, dispatch, .signal (.text "stop"), dispatch]

/-- The thread answers, and the client is called again. -/
def answered : List (Affair component) := [request, dispatch, .work .take, .work (.report (.ok [79, 75])), dispatch]

theorem accounts_iff_interrupted :
    Conserves ((outpostMachine component).played idleStart interrupted).state
        ((outpostMachine component).played idleStart interrupted).ports ∧
      ∀ visit ∈ ((outpostMachine component).played idleStart interrupted).history, Delivers visit := by
  have run := Machine.run_played (outpostMachine component)
    (by decide +kernel : (outpostMachine component).Permits Working idleStart interrupted) (by decide +kernel)
  obtain ⟨conserved, delivers⟩ := accounts_iff _ _ _ _ _ run
  exact ⟨conserved, delivers.mpr (by decide +kernel)⟩

/-- The answer to the only request is not delivered. -/
theorem answer_abandoned :
    ¬ ∀ (inCapacity : RequestPort → Nat) (outCapacity : ReplyPort → Nat) (now : Instant) outpost trace,
      (outpostMachine component).Run Working (.start HTTPClient.new inCapacity outCapacity now) trace outpost →
      Conserves outpost.state outpost.ports ∧ ∀ visit ∈ outpost.history, Delivers visit := by
  intro accounts
  have run := Machine.run_played (outpostMachine component)
    (by decide +kernel : (outpostMachine component).Permits Working idleStart answered) (by decide +kernel)
  have honest : Honest ((outpostMachine component).played idleStart answered) :=
    Machine.Run.invariant Honest run (.start _ _ _) fun works holds step => holds.step works step
  have abandoned : ∃ visit ∈ ((outpostMachine component).played idleStart answered).history, Abandons visit := by
    decide +kernel
  obtain ⟨visit, member, abandons⟩ := abandoned
  obtain ⟨standing, phase⟩ := honest.history visit member
  exact (delivers_iff visit standing phase).mp ((accounts _ _ _ _ _ run).2 visit member) abandons

end HTTPClient

end Flowd
