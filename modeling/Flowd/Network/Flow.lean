import Flowd.Component.Passing
import Flowd.Network.Machine

namespace Flowd

/-! Forwarders in a network: the nodes whose calls are known make their accesses one by one, and in
between everybody else goes on as before.
-/

open Transition

/-- The forwarders of a network and the edges that are bound to their ports. -/
structure Layout where
  wiring : Wiring
  passing : NodeId → Option Passing
  inn : NodeId → wiring.Edge
  out : NodeId → wiring.Edge
  target : ∀ {nodeId passing'}, passing nodeId = some passing' → wiring.target (inn nodeId) = some nodeId
  source : ∀ {nodeId passing'}, passing nodeId = some passing' → wiring.source (out nodeId) = some nodeId

variable {layout : Layout}

/-- The frame of a forwarder that has been retired is what it held when it was dropped; the ring in
front of it, which nobody pops any more, is what was on its way to it. -/
structure Flow (layout : Layout) where
  network : Network layout.wiring
  frames : NodeId → Frame
  signals : NodeId → List FbpMessage
  answers : NodeId → List FbpMessage

inductive Doing (layout : Layout) where
  | deed (deed : Deed layout.wiring)
  | tell (nodeId : NodeId) (message : FbpMessage)
  | proceed (elapsed : Nat)

/-- The deeds that only the call in flight can do. -/
def Deed.ofCall {wiring : Wiring} : Deed wiring → Bool
  | .push .. | .pop _ | .schedule (.processReturns _) | .schedule .selfSignalReady | .schedule (.selfWakeAt _) => true
  | _ => false

/-- `context.remaining_budget` -/
def Pc.remainingBudget {κ : Type} : Pc κ → Nat
  | .processing _ _ context _ => context.remainingBudget
  | _ => 0

/-- What a poll makes of the first signal: whether it stops the call, and the answer. -/
def hear (reads : FbpMessage → Option String) : List FbpMessage → Bool × List FbpMessage
  | [] => (false, [])
  | signal :: _ =>
      if (reads signal).getD "" = "stop" then (true, [])
      else (false, if (reads signal).getD "" = "ping" then [.text "pong"] else [])

theorem poll_hear {ι ο : Type} (call : Call ι ο) (reads : FbpMessage → Option String) :
    call.poll reads = ({ call with
      signalsIn := call.signalsIn.tail
      signalsOut := call.signalsOut ++ (hear reads call.signalsIn).2
      heard := call.heard ++ call.signalsIn.take 1 }, (hear reads call.signalsIn).1) := by
  unfold Call.poll hear
  cases queued : call.signalsIn with
  | nil =>
      cases call
      simp_all
  | cons signal rest =>
      by_cases stop : (reads signal).getD "" = "stop"
      · simp [stop]
      · by_cases ping : (reads signal).getD "" = "ping"
        · simp [ping]
        · simp [stop, ping]

namespace Flow

def start (scheduler : Scheduler Unit) (clock : Instant) (rings : layout.wiring.Edge → Ring FbpMessage) :
    Flow layout :=
  ⟨.start scheduler clock rings, fun _ => .rest [], fun _ => [], fun _ => []⟩

variable (flow : Flow layout)

/-- A forwarder does nothing but what its frame says. -/
def Foreign (deed : Deed layout.wiring) : Prop :=
  deed.ofCall = true → ∀ nodeId ∈ flow.network.system.pc.executing, layout.passing nodeId = none

instance decidableForeign (deed : Deed layout.wiring) : Decidable (flow.Foreign deed) :=
  inferInstanceAs (Decidable (_ → ∀ nodeId ∈ flow.network.system.pc.executing, layout.passing nodeId = none))

/-- The call of the node goes on. -/
def goOn (nodeId : NodeId) (frame : Frame) : Flow layout :=
  { flow with frames := Function.update flow.frames nodeId frame }

/-- The signal channel after a poll. -/
def polled (nodeId : NodeId) (reads : FbpMessage → Option String) : Flow layout :=
  { flow with
    signals := Function.update flow.signals nodeId (flow.signals nodeId).tail
    answers := Function.update flow.answers nodeId
      (flow.answers nodeId ++ (hear reads (flow.signals nodeId)).2) }

/-- What a call returns to the scheduler. -/
def reply (nodeId : NodeId) (elapsed : Nat) (returned : Returned) : Reply Unit :=
  ⟨(), (flow.frames nodeId).remainingBudget, false, elapsed, returned⟩

def perform (enforced : Bool) (nodeId : NodeId) (passing : Passing) (elapsed : Nat) :
    Access → Option (Flow layout × List Event)
  | .enter next => some (flow.goOn nodeId (next flow.network.system.pc.remainingBudget), [])
  | .push packet next =>
      match (flow.network.rings (layout.out nodeId)).push packet with
      | some ring =>
          (flow.network.delivered enforced (layout.out nodeId) packet ring).map fun done =>
            ({ flow with network := done.1 }.goOn nodeId (next true), done.2)
      | none => some (flow.goOn nodeId (next false), [])
  | .poll next =>
      some ((flow.polled nodeId passing.spec.reads).goOn nodeId
        (next (hear passing.spec.reads (flow.signals nodeId)).1), [])
  | .pop next =>
      match (flow.network.rings (layout.inn nodeId)).pop with
      | some (packet, ring) =>
          some ({ flow with network := flow.network.drained (layout.inn nodeId) packet ring }.goOn nodeId
            (next (some packet)), [])
      | none => some (flow.goOn nodeId (next none), [])
  | .probe next => some (flow.goOn nodeId (next (flow.network.rings (layout.inn nodeId)).isAbandoned), [])
  | .turn next => some (flow.goOn nodeId next, [])
  | .leave returned =>
      (flow.network.act enforced (.processReturns (flow.reply nodeId elapsed returned))).map fun done =>
        ({ flow with network := done.1 }.goOn nodeId (.rest (flow.frames nodeId).pending), done.2)

def step (enforced : Bool) : Doing layout → Option (Flow layout × List Event)
  | .deed deed =>
      if flow.Foreign deed then
        (flow.network.step enforced deed).map fun done => ({ flow with network := done.1 }, done.2)
      else none
  | .tell nodeId message =>
      some ({ flow with signals := Function.update flow.signals nodeId (flow.signals nodeId ++ [message]) }, [])
  | .proceed elapsed =>
      flow.network.system.pc.executing.bind fun nodeId =>
        (layout.passing nodeId).bind fun passing =>
          flow.perform enforced nodeId passing elapsed (passing.next (flow.frames nodeId))

end Flow

def flowMachine (layout : Layout) (enforced : Bool) : Machine (Flow layout) (Doing layout) Event :=
  ⟨fun flow => flow.step enforced⟩

variable {enforced : Bool} {flow next : Flow layout} {doing : Doing layout} {events trace : List Event}
variable {nodeId : NodeId} {passing : Passing}

/-- What the node whose call is known does with an access. -/
inductive Flow.Performed (enforced : Bool) (flow : Flow layout) (nodeId : NodeId) (passing : Passing) :
    Access → List Event → Flow layout → Prop where
  | enters {next : Nat → Frame} :
      Flow.Performed enforced flow nodeId passing (.enter next) []
        (flow.goOn nodeId (next flow.network.system.pc.remainingBudget))
  | pushes {packet : FbpMessage} {next : Bool → Frame} {ring : Ring FbpMessage} {events : List Event}
      {network : Network layout.wiring} (pushed : (flow.network.rings (layout.out nodeId)).push packet = some ring)
      (done : flow.network.Done enforced (.push (layout.out nodeId) packet) events network) :
      Flow.Performed enforced flow nodeId passing (.push packet next) events
        ({ flow with network }.goOn nodeId (next true))
  | refused {packet : FbpMessage} {next : Bool → Frame}
      (full : (flow.network.rings (layout.out nodeId)).push packet = none) :
      Flow.Performed enforced flow nodeId passing (.push packet next) [] (flow.goOn nodeId (next false))
  | polls {next : Bool → Frame} :
      Flow.Performed enforced flow nodeId passing (.poll next) []
        ((flow.polled nodeId passing.spec.reads).goOn nodeId
          (next (hear passing.spec.reads (flow.signals nodeId)).1))
  | pops {packet : FbpMessage} {next : Option FbpMessage → Frame} {ring : Ring FbpMessage}
      (popped : (flow.network.rings (layout.inn nodeId)).pop = some (packet, ring)) :
      Flow.Performed enforced flow nodeId passing (.pop next) []
        ({ flow with network := flow.network.drained (layout.inn nodeId) packet ring }.goOn nodeId
          (next (some packet)))
  | empty {next : Option FbpMessage → Frame}
      (nothing : (flow.network.rings (layout.inn nodeId)).pop = none) :
      Flow.Performed enforced flow nodeId passing (.pop next) [] (flow.goOn nodeId (next none))
  | probes {next : Bool → Frame} :
      Flow.Performed enforced flow nodeId passing (.probe next) []
        (flow.goOn nodeId (next (flow.network.rings (layout.inn nodeId)).isAbandoned))
  | turns {next : Frame} : Flow.Performed enforced flow nodeId passing (.turn next) [] (flow.goOn nodeId next)
  | leaves {returned : Returned} {reply : Reply Unit} {events : List Event} {system : System Unit}
      (replied : reply.returned = returned)
      (moved : Moved enforced flow.network.system (.processReturns reply) events system) :
      Flow.Performed enforced flow nodeId passing (.leave returned) events
        ({ flow with network := flow.network.follow system events }.goOn nodeId
          (.rest (flow.frames nodeId).pending))

inductive Flow.Done (enforced : Bool) (flow : Flow layout) : Doing layout → List Event → Flow layout → Prop where
  | deeds {deed : Deed layout.wiring} {events : List Event} {network : Network layout.wiring}
      (foreign : flow.Foreign deed) (done : flow.network.Done enforced deed events network) :
      Flow.Done enforced flow (.deed deed) events { flow with network }
  | tells (nodeId : NodeId) (message : FbpMessage) :
      Flow.Done enforced flow (.tell nodeId message) []
        { flow with signals := Function.update flow.signals nodeId (flow.signals nodeId ++ [message]) }
  | proceeds {elapsed : Nat} {nodeId : NodeId} {passing : Passing} {events : List Event} {next : Flow layout}
      (executing : flow.network.system.pc.executing = some nodeId) (known : layout.passing nodeId = some passing)
      (performed : flow.Performed enforced nodeId passing (passing.next (flow.frames nodeId)) events next) :
      Flow.Done enforced flow (.proceed elapsed) events next

theorem Flow.performed_of_perform {elapsed : Nat} {access : Access}
    (executing : flow.network.system.pc.executing = some nodeId) (known : layout.passing nodeId = some passing)
    (performs : flow.perform enforced nodeId passing elapsed access = some (next, events)) :
    flow.Performed enforced nodeId passing access events next := by
  cases access with
  | enter _ => cases performs; exact .enters
  | push packet _ =>
      simp only [Flow.perform] at performs
      split at performs
      · next ring pushed =>
          obtain ⟨⟨network, reported⟩, delivered, same⟩ := Option.map_eq_some_iff.mp performs
          cases same
          refine .pushes pushed (Network.done_of_step ?_)
          simp only [Network.step, executing, layout.source known, Option.isSome_some, and_self, if_true, pushed,
            Option.bind_some]
          exact delivered
      · next full =>
          cases performs
          exact .refused full
  | poll _ => cases performs; exact .polls
  | pop _ =>
      simp only [Flow.perform] at performs
      split at performs
      · next packet ring popped => cases performs; exact .pops popped
      · next nothing => cases performs; exact .empty nothing
  | probe _ => cases performs; exact .probes
  | turn _ => cases performs; exact .turns
  | leave returned =>
      obtain ⟨⟨network, reported⟩, acted, same⟩ := Option.map_eq_some_iff.mp performs
      cases same
      obtain ⟨system, moved, same⟩ := Network.act_eq acted
      cases same
      exact .leaves rfl moved

theorem Flow.done_of_step (step : flow.step enforced doing = some (next, events)) :
    flow.Done enforced doing events next := by
  cases doing with
  | deed deed =>
      simp only [Flow.step, Option.ite_none_right_eq_some] at step
      obtain ⟨foreign, step⟩ := step
      obtain ⟨⟨network, reported⟩, done, same⟩ := Option.map_eq_some_iff.mp step
      cases same
      exact .deeds foreign (Network.done_of_step done)
  | tell nodeId message => cases step; exact .tells nodeId message
  | proceed elapsed =>
      obtain ⟨nodeId, executing, step⟩ := Option.bind_eq_some_iff.mp step
      obtain ⟨passing, known, performs⟩ := Option.bind_eq_some_iff.mp step
      exact .proceeds executing known (Flow.performed_of_perform executing known performs)

/-- An access of a forwarder is a deed on the network, or nobody sees it. -/
theorem Flow.Performed.network {access : Access}
    (performed : flow.Performed enforced nodeId passing access events next)
    (executing : flow.network.system.pc.executing = some nodeId) (known : layout.passing nodeId = some passing) :
    next.network = flow.network ∧ events = [] ∨ ∃ deed, flow.network.Done enforced deed events next.network := by
  cases performed with
  | pushes _ done => exact .inr ⟨_, done⟩
  | pops popped => exact .inr ⟨_, .pops executing (layout.target known) popped⟩
  | leaves _ moved => exact .inr ⟨_, .moves moved⟩
  | _ => exact .inl ⟨rfl, rfl⟩

theorem Flow.Done.system (done : flow.Done enforced doing events next) :
    (∃ action, Moved enforced flow.network.system action events next.network.system) ∨
      next.network.system = flow.network.system ∧ events = [] := by
  cases done with
  | deeds _ done => exact done.system
  | tells _ _ => exact .inr ⟨rfl, rfl⟩
  | proceeds executing known performed =>
      rcases performed.network executing known with ⟨same, silent⟩ | ⟨deed, done⟩
      · exact .inr ⟨congrArg _ same, silent⟩
      · exact done.system

end Flowd
