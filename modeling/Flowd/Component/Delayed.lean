import Flowd.Component.Delay
import Flowd.Component.Site
import Flowd.Scheduler.Wakeup

namespace Flowd

/-! Delay under the scheduler: nothing is released early, out of order or never. -/

open Transition

namespace Delay

/-- What all the turns did. -/
def done (history : List (Turn State ConfInPort OutPort Event)) : List Event := history.flatMap Turn.log

/-- A turn was stopped, or it ended by an arithmetic overflow. -/
def Ended (overflowChecks : Bool) (history : List (Turn State ConfInPort OutPort Event)) : Prop :=
  ∃ turn ∈ history, turn.call.Stopped FbpMessage.textOrUtf8 ∨
    turn.returned = .panicked ∧ overflowChecks = true ∧ turn.context.remainingBudget = 0

/-- While packets are waiting, the node has a deadline or its fired timer is queued, unless it has ended; on the way
back it has asked for a deadline. -/
def Waits (overflowChecks : Bool) (history : List (Turn State ConfInPort OutPort Event)) (hold : Hold) : Prop :=
  match hold.place with
  | .home fired => hold.deadline.isSome = true ∨ fired.isSome = true ∧ hold.queued = true
  | .leaving context false => context.wakeAt.isSome = true
  | .leaving _ true | .gone => Ended overflowChecks history
  | .entering _ | .processing _ | .lost => True

/-- The turns did to the edges and to the queue what their logs say. -/
structure Kept (state : State) (ports : Call ConfInPort OutPort) (log : List Event) : Prop where
  sent : (ports.outs .out).sent = (releases log).map fun release => release.1.data
  taken : ports.taken .inn = (arrivals log).map Prod.fst
  queue : ∀ delay, state.delay = some delay →
    (arrivals log).map (delayed delay) = (releases log).map Prod.fst ++ state.pendingPackets
  unset : state.delay = none → state.pendingPackets = [] ∧ log = []
  punctual : ∀ release ∈ releases log, release.1.readyTime ≤ release.2

/-- The invariant of Delay and its node. -/
structure Holds (overflowChecks : Bool) (hold : Hold) (state : State) (ports : Call ConfInPort OutPort)
    (history : List (Turn State ConfInPort OutPort Event)) : Prop where
  kept : Kept state ports (done history)
  waits : state.pendingPackets ≠ [] → Waits overflowChecks history hold
  finishes : ∀ turn ∈ history, turn.returned = .result .finished →
    turn.call.Stopped FbpMessage.textOrUtf8 ∨
      turn.call.inbox .inn = [] ∧ turn.component.pendingPackets = []

variable {overflowChecks : Bool} {hold next : Hold} {state : State} {ports : Call ConfInPort OutPort}
variable {history : List (Turn State ConfInPort OutPort Event)} {log more : List Event} {now : Instant}

theorem Waits.passes (waits : Waits overflowChecks history hold) (passes : Passes now hold next) :
    Waits overflowChecks history next := by
  cases passes with
  | @rests place deadline queued later kept =>
      cases place with
      | home fired => exact waits.imp id (And.imp_right kept)
      | leaving context finished => cases finished <;> exact waits
      | _ => exact waits
  | fires due => exact .inr ⟨rfl, rfl⟩
  | dispatched => trivial
  | enters funded asleep => trivial
  | @checksIn context deadline queued later =>
      left
      have asked : context.wakeAt.isSome = true := waits
      obtain ⟨when, found⟩ := Option.isSome_iff_exists.mp asked
      rw [found]
      rfl
  | retires => exact waits

theorem Waits.woken (waits : Waits overflowChecks history hold) (when : Instant) :
    Waits overflowChecks history { hold with deadline := some when } := by
  obtain ⟨place, deadline, queued⟩ := hold
  cases place with
  | home fired => exact .inl rfl
  | leaving context finished => cases finished <;> exact waits
  | _ => exact waits

/-- What others do to the edges makes no difference. -/
theorem Kept.idle {later : Call ConfInPort OutPort} (kept : Kept state ports log) (idle : Call.Idle ports later) :
    Kept state later log :=
  ⟨(idle.sent .out).trans kept.sent, (idle.taken .inn).trans kept.taken, kept.queue, kept.unset, kept.punctual⟩

/-- A turn adds what it does. -/
theorem Kept.progress {delay : Nat} {prepared : Call ConfInPort OutPort} {context : NodeContext} {clock : Clock}
    {work : Work} (kept : Kept state ports log) (either : state.delay = some delay ∨ state.delay = none)
    (inn : prepared.ins .inn = ports.ins .inn) (outs : prepared.outs = ports.outs)
    (past : ∀ firedAt, context.timerFiredAt = some firedAt → firedAt ≤ clock.now)
    (progress : Progress delay context.timerFiredAt ⟨state.pendingPackets, prepared, context, clock, []⟩ work more) :
    Kept ⟨some delay, work.pendingPackets⟩ work.call (log ++ more) := by
  refine ⟨?_, ?_, ?_, fun unset => (by cases unset), ?_⟩
  · rw [progress.sent, releases_append, List.map_append, ← kept.sent, ← outs]
  · have taken := progress.took.taken
    unfold Call.taken at taken
    rw [inn] at taken
    rw [arrivals_append, List.map_append, ← kept.taken]
    exact taken
  · intro other same
    cases same
    have before : (arrivals log).map (delayed delay) = (releases log).map Prod.fst ++ state.pendingPackets := by
      rcases either with known | unset
      · exact kept.queue delay known
      · obtain ⟨empty, nothing⟩ := kept.unset unset
        rw [empty, nothing]
        rfl
    rw [arrivals_append, List.map_append, before, List.append_assoc, progress.queue, releases_append, List.map_append,
      List.append_assoc]
  · intro release member
    rw [releases_append, List.mem_append] at member
    rcases member with early | late
    · exact kept.punctual release early
    · obtain ⟨firedAt, fired, ready, time⟩ := progress.due release late
      exact ready.trans ((past firedAt fired).trans time)

theorem Progress.logged {delay : Nat} {fired : Option Instant} {before after : Work}
    (progress : Progress delay fired before after more) (fresh : before.log = []) : after.log = more := by
  rw [progress.log, fresh, List.nil_append]

theorem done_snoc (history : List (Turn State ConfInPort OutPort Event)) (turn : Turn State ConfInPort OutPort Event) :
    done (history ++ [turn]) = done history ++ turn.log := by
  simp [done]

/-- A call that ends the component with packets in the queue was stopped or overflowed; any other one with
packets in the queue asks for a deadline. -/
structure Closes (overflowChecks : Bool) (turn : Turn State ConfInPort OutPort Event) : Prop where
  ends : turn.component.pendingPackets ≠ [] → turn.returned = .panicked ∨ turn.returned = .result .finished →
    Ended overflowChecks [turn]
  asks : turn.component.pendingPackets ≠ [] → turn.returned ≠ .panicked ∧ turn.returned ≠ .result .finished →
    turn.context.wakeAt.isSome = true

theorem Closes.waits {turn : Turn State ConfInPort OutPort Event} {wakeAt fired deadline : Option Instant}
    {place : Place} {queued : Bool} (closes : Closes overflowChecks turn)
    (leaves : Leaves turn.returned (turn.context.wakeAt.or wakeAt) fired place)
    (waiting : turn.component.pendingPackets ≠ []) :
    Waits overflowChecks (history ++ [turn]) ⟨place, deadline, queued⟩ := by
  cases leaves with
  | lost => trivial
  | ends why _ =>
      obtain ⟨found, member, how⟩ := closes.ends waiting why
      exact ⟨found, List.mem_append_right _ member, how⟩
  | rests going wake _ =>
      obtain ⟨when, found⟩ := Option.isSome_iff_exists.mp (closes.asks waiting going)
      change Option.isSome _ = true
      rw [wake, found]
      rfl
  | again _ _ _ _ => trivial

theorem conclude_cases (delay : Nat) (work : Work) :
    (work.pendingPackets = [] ∧ conclude delay work = ⟨⟨some delay, work.pendingPackets⟩, work.call, work.context,
        work.clock, work.log, .result .finished⟩) ∨
      ∃ context, conclude delay work = ⟨⟨some delay, work.pendingPackets⟩, work.call, context, work.clock, work.log,
          work.call.didWork⟩ ∧ (work.pendingPackets ≠ [] → context.wakeAt.isSome = true) := by
  unfold conclude
  dsimp only
  split
  · next ended =>
      rw [Bool.and_eq_true, List.isEmpty_iff] at ended
      exact .inl ⟨ended.2, rfl⟩
  · refine .inr ⟨_, rfl, fun waiting => ?_⟩
    cases queue : work.pendingPackets with
    | nil => exact absurd queue waiting
    | cons front rest => rfl

/-- The invariant is kept by a call. -/
theorem Holds.turn {engine : Engine} {context : NodeContext} {clock : Clock} {place : Place}
    {deadline wakeAt fired : Option Instant} {queued : Bool} (holds : Holds overflowChecks hold state ports history)
    (funded : 0 < context.remainingBudget)
    (past : ∀ firedAt, context.timerFiredAt = some firedAt → firedAt ≤ clock.now)
    (leaves : Leaves (process engine overflowChecks state ports context clock).returned
      ((process engine overflowChecks state ports context clock).context.wakeAt.or wakeAt) fired place) :
    Holds overflowChecks ⟨place, deadline, queued⟩ (process engine overflowChecks state ports context clock).component
      (process engine overflowChecks state ports context clock).call
      (history ++ [process engine overflowChecks state ports context clock]) := by
  have turns := turns engine overflowChecks state ports context clock
  generalize process engine overflowChecks state ports context clock = turn at turns leaves ⊢
  have whole (kept : Kept turn.component turn.call (done history ++ turn.log)) (closes : Closes overflowChecks turn)
      (finishes : turn.returned = .result .finished → turn.call.Stopped FbpMessage.textOrUtf8 ∨
        turn.call.inbox .inn = [] ∧ turn.component.pendingPackets = []) :
      Holds overflowChecks ⟨place, deadline, queued⟩ turn.component turn.call (history ++ [turn]) := by
    refine ⟨by rw [done_snoc]; exact kept, closes.waits leaves, fun other member finished => ?_⟩
    rcases List.mem_append.mp member with earlier | last
    · exact holds.finishes other earlier finished
    · cases List.mem_singleton.mp last
      exact finishes finished
  cases turns with
  | unreadable unset =>
      obtain ⟨empty, _⟩ := holds.kept.unset unset
      refine whole ?_ ⟨fun waiting => absurd empty waiting, fun waiting => absurd empty waiting⟩ fun finished => by
        cases finished
      rw [List.append_nil]
      exact holds.kept.idle ⟨fun _ => rfl, fun _ => rfl⟩
  | ended either inn outs progress why =>
      have kept := holds.kept.progress either inn outs past progress
      rw [← progress.logged rfl] at kept
      refine whole kept ⟨fun _ _ => ?_, fun _ going => ?_⟩ fun finished => ?_
      · rcases why with ⟨_, stopped⟩ | ⟨panicked, checks, spent⟩
        · exact ⟨_, List.mem_singleton_self _, .inl stopped⟩
        · exact ⟨_, List.mem_singleton_self _, .inr ⟨panicked, checks, spent⟩⟩
      · rcases why with ⟨finished, _⟩ | ⟨panicked, _⟩
        · exact absurd finished going.2
        · exact absurd panicked going.1
      · rcases why with ⟨_, stopped⟩ | ⟨panicked, _⟩
        · exact .inl stopped
        · have same : (Returned.panicked) = .result .finished := panicked.symm.trans finished
          cases same
  | @concluded delay prepared work new either inn outs progress drained =>
      have kept := holds.kept.progress either inn outs past progress
      rw [← progress.logged rfl] at kept
      rcases conclude_cases delay work with ⟨empty, same⟩ | ⟨left, same, asks⟩
      · rw [same] at leaves whole ⊢
        exact whole kept ⟨fun waiting => absurd empty waiting, fun waiting => absurd empty waiting⟩
          fun _ => .inr ⟨drained funded empty, empty⟩
      · rw [same] at leaves whole ⊢
        refine whole kept ⟨fun _ ends => ?_, fun waiting _ => asks waiting⟩ fun finished => ?_
        · rcases ends with panicked | finished
          · exact absurd panicked (Call.didWork_ne_panicked _)
          · exact absurd finished (Call.didWork_ne_finished _)
        · exact absurd finished (Call.didWork_ne_finished _)

theorem Holds.start (place : Place) (deadline : Option Instant) (queued : Bool) {clock : Instant}
    {engine : Engine} {scheduler : Scheduler Unit} {inCapacity : ConfInPort → Nat} {outCapacity : OutPort → Nat} :
    Holds overflowChecks ⟨place, deadline, queued⟩ new
      (Site.start scheduler clock inCapacity outCapacity : Site (component engine overflowChecks)).ports [] where
  kept := ⟨rfl, rfl, fun _ known => (by cases known), fun _ => ⟨rfl, rfl⟩, fun _ none => absurd none List.not_mem_nil⟩
  waits waiting := absurd rfl waiting
  finishes _ none := absurd none List.not_mem_nil

theorem watch (engine : Engine) (overflowChecks : Bool) :
    Watch (component engine overflowChecks) True fun _ hold state ports history =>
      Holds overflowChecks hold state ports history := by
  refine ⟨?_, ?_, ?_, ?_, ?_⟩
  · intro now hold next state ports history holds passes
    exact ⟨holds.kept, fun waiting => (holds.waits waiting).passes passes, holds.finishes⟩
  · intro _ now hold state ports history when holds
    exact ⟨holds.kept, fun waiting => (holds.waits waiting).woken when, holds.finishes⟩
  · intro now later hold state ports history holds _
    exact holds
  · intro now hold state ports next history holds idle
    exact ⟨holds.kept.idle idle, holds.waits, holds.finishes⟩
  · intro now context deadline queued state ports history place later holds funded past forward leaves
    exact holds.turn funded past leaves

/-- What Delay promises of a state. -/
structure Delays (overflowChecks : Bool) (nodeId : NodeId) (system : System Unit) (state : State)
    (ports : Call ConfInPort OutPort) (history : List (Turn State ConfInPort OutPort Event)) : Prop where
  /-- The logs tell what has come from IN and what is on OUT. -/
  logged : ports.taken .inn = (arrivals (done history)).map Prod.fst ∧
    (ports.outs .out).sent = (releases (done history)).map fun release => release.1.data
  inOrder : (ports.outs .out).sent <+: (ports.ins .inn).fed
  notEarly : ∀ (index : Nat) (packet : DelayedPacket) (now : Instant), (releases (done history))[index]? = some (packet, now) →
    ∃ delay arrival, state.delay = some delay ∧ (arrivals (done history))[index]? = some (packet.data, arrival) ∧
      arrival + delay ≤ now
  once : (ports.outs .out).sent ++ state.pendingPackets.map DelayedPacket.data = ports.taken .inn
  /-- Either a deadline of the node is in force, or it has fired and the node is in the ready queue with it. -/
  notForgotten : system.pc.inFlight ≠ some nodeId → state.pendingPackets ≠ [] → ¬ Ended overflowChecks history →
    (∃ when, system.scheduler.state.timerLatestByNode.lookup nodeId = some when) ∨
      nodeId ∈ system.scheduler.state.readyQueue ∧
        ∃ context firedAt, system.scheduler.state.nodes.lookup nodeId = some context ∧
          context.timerFiredAt = some firedAt
  finishes : ∀ turn ∈ history, turn.returned = .result .finished →
    turn.call.Stopped FbpMessage.textOrUtf8 ∨
      turn.call.inbox .inn = [] ∧ turn.component.pendingPackets = []

/-- Nothing has come in before the delay is known. -/
theorem Kept.inOrder (kept : Kept state ports log) :
    (ports.outs .out).sent ++ state.pendingPackets.map DelayedPacket.data = ports.taken .inn := by
  rw [kept.sent, kept.taken]
  cases known : state.delay with
  | none =>
      obtain ⟨empty, nothing⟩ := kept.unset known
      rw [empty, nothing]
      rfl
  | some delay =>
      have datas := congrArg (List.map DelayedPacket.data) (kept.queue delay known)
      rw [List.map_map, List.map_append, List.map_map] at datas
      exact datas.symm

theorem Kept.notEarly (kept : Kept state ports log) {index : Nat} {packet : DelayedPacket} {now : Instant}
    (released : (releases log)[index]? = some (packet, now)) :
    ∃ delay arrival, state.delay = some delay ∧ (arrivals log)[index]? = some (packet.data, arrival) ∧
      arrival + delay ≤ now := by
  cases known : state.delay with
  | none =>
      rw [(kept.unset known).2] at released
      cases released
  | some delay =>
      have entry : ((arrivals log).map (delayed delay))[index]? = some packet := by
        rw [kept.queue delay known, List.getElem?_append_left, List.getElem?_map, released]
        · rfl
        · rw [List.length_map]
          exact (List.getElem?_eq_some_iff.mp released).1
      rw [List.getElem?_map] at entry
      obtain ⟨⟨ip, arrival⟩, found, same⟩ := Option.map_eq_some_iff.mp entry
      have ready := kept.punctual (packet, now) (List.mem_of_getElem? released)
      subst same
      exact ⟨delay, arrival, rfl, found, ready⟩

/-- What is on OUT is a part of what came in, from the beginning. -/
theorem Kept.delivered (kept : Kept state ports log) : (ports.outs .out).sent <+: (ports.ins .inn).fed := by
  have once : (ports.outs .out).sent ++ state.pendingPackets.map DelayedPacket.data = (ports.ins .inn).taken :=
    kept.inOrder
  exact ⟨state.pendingPackets.map DelayedPacket.data ++ (ports.ins .inn).ring.buffer, by
    rw [← List.append_assoc, once, Inlet.fed]⟩

/-- A node that is not in flight waits for its deadline or, with its timer fired, in the queue. -/
theorem Waits.home {system : System Unit} {nodeId : NodeId}
    (waits : Waits overflowChecks history (system.hold nodeId)) (home : system.pc.inFlight ≠ some nodeId)
    (going : ¬ Ended overflowChecks history) :
    (∃ when, system.scheduler.state.timerLatestByNode.lookup nodeId = some when) ∨
      nodeId ∈ system.scheduler.state.readyQueue ∧
        ∃ context firedAt, system.scheduler.state.nodes.lookup nodeId = some context ∧
          context.timerFiredAt = some firedAt := by
  have here := system.hold_home home
  rw [here] at waits
  unfold SchedulerState.placeHome at waits
  cases found : system.scheduler.state.nodes.lookup nodeId with
  | none =>
      rw [found] at waits
      exact absurd waits going
  | some context =>
      rw [found] at waits
      rcases waits with timed | ⟨fired, queued⟩
      · exact .inl (Option.isSome_iff_exists.mp timed)
      · obtain ⟨firedAt, marked⟩ := Option.isSome_iff_exists.mp fired
        exact .inr ⟨of_decide_eq_true queued, context, firedAt, rfl, marked⟩

/-- In every run, whatever the clock, the packets, the capacity of OUT and the downstream pops. -/
theorem delays {engine : Engine} {enforced : Bool} {nodeId : NodeId} {scheduler : Scheduler Unit} {clock : Instant}
    {inCapacity : ConfInPort → Nat} {outCapacity : OutPort → Nat} {site : Site (component engine overflowChecks)}
    {trace : List Returned} (built : Built scheduler) (equipped : Equipped scheduler.state)
    (run : (siteMachine (component engine overflowChecks) nodeId enforced).Run anyMove
      (.start scheduler clock inCapacity outCapacity) trace site) :
    Delays overflowChecks nodeId site.system site.state site.ports site.history := by
  obtain ⟨_, _, holds⟩ := (watch engine overflowChecks).run (fun _ _ _ => trivial) built equipped
    (fun place _ => Holds.start place _ _) run
  exact ⟨⟨holds.kept.taken, holds.kept.sent⟩, holds.kept.delivered,
    fun index packet now released => holds.kept.notEarly released, holds.kept.inOrder,
    fun home waiting going => (holds.waits waiting).home home going, holds.finishes⟩

/-- An engine that knows the whole numbers. -/
def wholeNumbers : Engine := ⟨fun text multiplier => (parseU64 text).map (· * multiplier)⟩

/-- A delay and two packets come in; the node is called until it has nothing to do, and again when its timer
has fired. -/
def twoDelayed : List (Happening (component wholeNumbers false)) :=
  [.feed ConfInPort.conf (.text "?delay=7ms"), .feed ConfInPort.inn (.text "a"), .feed ConfInPort.inn (.text "b")] ++
    dispatchOne.map .move ++
    [.process (fun _ => []) [] 0, .process (fun _ => []) [] 0, .move .run, .move (.elapse 8000000)] ++
    List.replicate 6 (.move .run) ++ [.process (fun _ => []) [] 0]

/-- OUT has room for one packet. -/
def twoDelayedSite : Site (component wholeNumbers false) :=
  (siteMachine (component wholeNumbers false) "n" false).played (.start oneNode 0 (fun _ => 2) (fun _ => 1)) twoDelayed

theorem delays_twoDelayed :
    (twoDelayedSite.ports.outs OutPort.out).sent.map FbpMessage.asText = [some "a"] ∧
      Delays false "n" twoDelayedSite.system twoDelayedSite.state twoDelayedSite.ports twoDelayedSite.history := by
  refine ⟨by decide +kernel, ?_⟩
  exact delays oneNode_built oneNode_equipped
    ((siteMachine (component wholeNumbers false) "n" false).run_played (Machine.permits_any _ _) (by decide +kernel))

end Delay

end Flowd
