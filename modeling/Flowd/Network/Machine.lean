import Flowd.Api.Call
import Flowd.Scheduler.Host
import Flowd.Scheduler.Wakeup

namespace Flowd

/-! The nodes of a scheduler and the edges between them.

What a node does in `process()` is arbitrary here: it takes packets from the edges that lead to
it, pushes packets into the edges that leave it, and returns.
-/

open Transition

/-- Who holds the two ends of an edge; `none` is a thread outside of the scheduler, such as the
handler of a graph inport or outport. -/
structure Wiring where
  Edge : Type
  [decEdge : DecidableEq Edge]
  source : Edge → Option NodeId
  target : Edge → Option NodeId

attribute [instance] Wiring.decEdge

/-- `entered` and `taken` are the packets that have gone into and out of each edge, `owed` the
signals of outside pushes that are still to come, and `pushed` the edges into which the node in
flight has pushed since its dispatch. -/
structure Network (wiring : Wiring) where
  system : System Unit
  rings : wiring.Edge → Ring FbpMessage
  entered : wiring.Edge → List FbpMessage
  taken : wiring.Edge → List FbpMessage
  owed : List NodeId
  pushed : List wiring.Edge

inductive Deed (wiring : Wiring) where
  | schedule (action : Action Unit)
  | push (edge : wiring.Edge) (packet : FbpMessage)
  | pop (edge : wiring.Edge)
  | feed (edge : wiring.Edge) (packet : FbpMessage)
  | announce (nodeId : NodeId)
  | drain (edge : wiring.Edge)

/-- The node whose `process()` is running. -/
def Pc.executing {κ : Type} : Pc κ → Option NodeId
  | .processing nodeId _ _ _ => some nodeId
  | _ => none

theorem Pc.inFlight_of_executing {κ : Type} {pc : Pc κ} {nodeId : NodeId} (executing : pc.executing = some nodeId) :
    pc.inFlight = some nodeId := by
  cases pc <;> simp_all [Pc.executing, Pc.inFlight]

def Event.isDispatch : Event → Bool
  | .dispatched _ => true
  | _ => false

variable {wiring : Wiring}

/-- A retired node takes its ends of the edges with it. -/
def Wiring.dropEnds (wiring : Wiring) (events : List Event) (edge : wiring.Edge) (ring : Ring FbpMessage) :
    Ring FbpMessage :=
  let retires (node : Option NodeId) : Bool := node.any fun nodeId => decide (.retired nodeId ∈ events)
  let ring := if retires (wiring.source edge) then ring.dropProducer else ring
  if retires (wiring.target edge) then ring.dropConsumer else ring

namespace Network

def start (scheduler : Scheduler Unit) (clock : Instant) (rings : wiring.Edge → Ring FbpMessage) : Network wiring :=
  ⟨.start scheduler clock, rings, fun _ => [], fun _ => [], [], []⟩

variable (network : Network wiring)

/-- The network after the scheduler has moved. -/
def follow (system : System Unit) (events : List Event) : Network wiring :=
  { network with
    system
    rings := fun edge => wiring.dropEnds events edge (network.rings edge)
    pushed := if events.any Event.isDispatch then [] else network.pushed }

def act (enforced : Bool) (action : Action Unit) : Option (Network wiring × List Event) :=
  (network.system.step enforced action).map fun moved => (network.follow moved.1 moved.2, moved.2)

/-- The packet has gone into the edge, whose ring is now `ring`. -/
def fed (edge : wiring.Edge) (packet : FbpMessage) (ring : Ring FbpMessage) : Network wiring :=
  { network with
    rings := Function.update network.rings edge ring
    entered := Function.update network.entered edge (network.entered edge ++ [packet]) }

/-- The packet has come out of the edge. -/
def drained (edge : wiring.Edge) (packet : FbpMessage) (ring : Ring FbpMessage) : Network wiring :=
  { network with
    rings := Function.update network.rings edge ring
    taken := Function.update network.taken edge (network.taken edge ++ [packet]) }

/-- The node in flight has pushed the packet. -/
def loaded (edge : wiring.Edge) (packet : FbpMessage) (ring : Ring FbpMessage) : Network wiring :=
  { network.fed edge packet ring with pushed := edge :: network.pushed }

/-- `ProcessEdgeSink::push`, once the edge has accepted the packet: the consumer is signalled. -/
def delivered (enforced : Bool) (edge : wiring.Edge) (packet : FbpMessage) (ring : Ring FbpMessage) :
    Option (Network wiring × List Event) :=
  match wiring.target edge with
  | some nodeId => (network.loaded edge packet ring).act enforced (.signalReady nodeId)
  | none => some (network.loaded edge packet ring, [])

def step (enforced : Bool) : Deed wiring → Option (Network wiring × List Event)
  | .schedule action => network.act enforced action
  | .push edge packet =>
      if network.system.pc.executing.isSome ∧ wiring.source edge = network.system.pc.executing then
        ((network.rings edge).push packet).bind fun ring => network.delivered enforced edge packet ring
      else none
  | .pop edge =>
      if network.system.pc.executing.isSome ∧ wiring.target edge = network.system.pc.executing then
        (network.rings edge).pop.map fun popped => (network.drained edge popped.1 popped.2, [])
      else none
  | .feed edge packet =>
      -- the signal of another thread may come later
      if wiring.source edge = none then
        ((network.rings edge).push packet).map fun ring =>
          ({ network.fed edge packet ring with owed := (wiring.target edge).toList ++ network.owed }, [])
      else none
  | .announce nodeId =>
      if nodeId ∈ network.owed then
        { network with owed := network.owed.erase nodeId }.act enforced (.signalReady nodeId)
      else none
  | .drain edge =>
      if wiring.target edge = none then
        (network.rings edge).pop.map fun popped => (network.drained edge popped.1 popped.2, [])
      else none

end Network

def networkMachine (wiring : Wiring) (enforced : Bool) : Machine (Network wiring) (Deed wiring) Event :=
  ⟨fun network => network.step enforced⟩

/-- Nothing is queued or in flight, no timer is set and no signal is under way. -/
structure Network.Quiescent (network : Network wiring) : Prop where
  queue : network.system.scheduler.state.readyQueue = []
  idle : network.system.pc.inFlight = none
  timers : network.system.scheduler.state.timerLatestByNode.keys = []
  owed : network.owed = []

variable {enforced : Bool} {network next : Network wiring} {deed : Deed wiring} {events trace : List Event}

/-- What a deed is: others use the edges, and the scheduler may move. -/
inductive Network.Done (enforced : Bool) (network : Network wiring) : Deed wiring → List Event → Network wiring → Prop where
  | moves {action : Action Unit} {events : List Event} {system : System Unit}
      (moved : Moved enforced network.system action events system) :
      Network.Done enforced network (.schedule action) events (network.follow system events)
  | signals {edge : wiring.Edge} {packet : FbpMessage} {ring : Ring FbpMessage} {producer consumer : NodeId}
      {system : System Unit} {events : List Event} (executing : network.system.pc.executing = some producer)
      (source : wiring.source edge = some producer) (target : wiring.target edge = some consumer)
      (pushed : (network.rings edge).push packet = some ring)
      (moved : Moved enforced network.system (.signalReady consumer) events system) :
      Network.Done enforced network (.push edge packet) events ((network.loaded edge packet ring).follow system events)
  | pushes {edge : wiring.Edge} {packet : FbpMessage} {ring : Ring FbpMessage} {producer : NodeId}
      (executing : network.system.pc.executing = some producer) (source : wiring.source edge = some producer)
      (target : wiring.target edge = none) (pushed : (network.rings edge).push packet = some ring) :
      Network.Done enforced network (.push edge packet) [] (network.loaded edge packet ring)
  | pops {edge : wiring.Edge} {packet : FbpMessage} {ring : Ring FbpMessage} {consumer : NodeId}
      (executing : network.system.pc.executing = some consumer) (target : wiring.target edge = some consumer)
      (popped : (network.rings edge).pop = some (packet, ring)) :
      Network.Done enforced network (.pop edge) [] (network.drained edge packet ring)
  | feeds {edge : wiring.Edge} {packet : FbpMessage} {ring : Ring FbpMessage} (source : wiring.source edge = none)
      (pushed : (network.rings edge).push packet = some ring) :
      Network.Done enforced network (.feed edge packet) []
        { network.fed edge packet ring with owed := (wiring.target edge).toList ++ network.owed }
  | announces {nodeId : NodeId} {events : List Event} {system : System Unit} (owed : nodeId ∈ network.owed)
      (moved : Moved enforced network.system (.signalReady nodeId) events system) :
      Network.Done enforced network (.announce nodeId) events
        ({ network with owed := network.owed.erase nodeId }.follow system events)
  | drains {edge : wiring.Edge} {packet : FbpMessage} {ring : Ring FbpMessage} (target : wiring.target edge = none)
      (popped : (network.rings edge).pop = some (packet, ring)) :
      Network.Done enforced network (.drain edge) [] (network.drained edge packet ring)

theorem Network.act_eq {action : Action Unit} (acted : network.act enforced action = some (next, events)) :
    ∃ system, Moved enforced network.system action events system ∧ next = network.follow system events := by
  obtain ⟨⟨system, reported⟩, moved, same⟩ := Option.map_eq_some_iff.mp acted
  cases same
  exact ⟨system, moved_of_step moved, rfl⟩

theorem Network.done_of_step (step : network.step enforced deed = some (next, events)) :
    network.Done enforced deed events next := by
  cases deed with
  | schedule action =>
      obtain ⟨system, moved, rfl⟩ := Network.act_eq step
      exact .moves moved
  | push edge packet =>
      simp only [Network.step, Option.ite_none_right_eq_some] at step
      obtain ⟨⟨running, source⟩, step⟩ := step
      obtain ⟨producer, executing⟩ := Option.isSome_iff_exists.mp running
      obtain ⟨ring, pushed, delivered⟩ := Option.bind_eq_some_iff.mp step
      unfold Network.delivered at delivered
      cases target : wiring.target edge with
      | none =>
          rw [target] at delivered
          cases delivered
          exact .pushes executing (source.trans executing) target pushed
      | some consumer =>
          rw [target] at delivered
          obtain ⟨system, moved, rfl⟩ := Network.act_eq delivered
          exact .signals executing (source.trans executing) target pushed moved
  | pop edge =>
      simp only [Network.step, Option.ite_none_right_eq_some] at step
      obtain ⟨⟨running, target⟩, step⟩ := step
      obtain ⟨consumer, executing⟩ := Option.isSome_iff_exists.mp running
      obtain ⟨⟨packet, ring⟩, popped, same⟩ := Option.map_eq_some_iff.mp step
      cases same
      exact .pops executing (target.trans executing) popped
  | feed edge packet =>
      simp only [Network.step, Option.ite_none_right_eq_some] at step
      obtain ⟨source, step⟩ := step
      obtain ⟨ring, pushed, same⟩ := Option.map_eq_some_iff.mp step
      cases same
      exact .feeds source pushed
  | announce nodeId =>
      simp only [Network.step, Option.ite_none_right_eq_some] at step
      obtain ⟨owed, step⟩ := step
      obtain ⟨system, moved, rfl⟩ := Network.act_eq step
      exact .announces owed moved
  | drain edge =>
      simp only [Network.step, Option.ite_none_right_eq_some] at step
      obtain ⟨target, step⟩ := step
      obtain ⟨⟨packet, ring⟩, popped, same⟩ := Option.map_eq_some_iff.mp step
      cases same
      exact .drains target popped

/-- A deed moves the scheduler once, or not at all. -/
theorem Network.Done.system (done : network.Done enforced deed events next) :
    (∃ action, Moved enforced network.system action events next.system) ∨
      next.system = network.system ∧ events = [] := by
  cases done with
  | moves moved => exact .inl ⟨_, moved⟩
  | signals _ _ _ _ moved => exact .inl ⟨_, moved⟩
  | announces _ moved => exact .inl ⟨_, moved⟩
  | pushes | pops | feeds | drains => exact .inr ⟨rfl, rfl⟩

/-- Whatever the network does, the scheduler stays sound. -/
theorem Sound.networked {permitted : Network wiring → Deed wiring → Prop} {first : Network wiring}
    (sound : Sound first.system) (run : (networkMachine wiring enforced).Run permitted first trace network) :
    Sound network.system := by
  refine Machine.Run.invariant (fun network : Network wiring => Sound network.system) run sound ?_
  intro network deed next events _ sound step
  rcases (Network.done_of_step step).system with ⟨action, moved⟩ | ⟨same, _⟩
  · exact sound.moved moved
  · rw [same]
    exact sound

end Flowd
