import Flowd.Network.Backpressure

namespace Flowd

/-! What has arrived at the end of a chain of forwarders when the network is at rest. -/

open Transition

variable {layout : Layout} {enforced : Bool} {flow next : Flow layout} {doing : Doing layout}
variable {events trace : List Event} {nodeId : NodeId} {passing : Passing}

section
variable {wiring : Wiring} {network after : Network wiring} {deed : Deed wiring}

/-- The capacity of an edge is that of the ring it was set up with. -/
theorem Network.Done.capacity (done : network.Done enforced deed events after) (edge : wiring.Edge) :
    (after.rings edge).capacity = (network.rings edge).capacity := by
  have pushed {other : wiring.Edge} {packet : FbpMessage} {ring : Ring FbpMessage}
      (accepted : (network.rings other).push packet = some ring) :
      ((network.fed other packet ring).rings edge).capacity = (network.rings edge).capacity := by
    obtain ⟨_, _, capacity, _⟩ := Ring.push_some accepted
    by_cases same : edge = other
    · subst same
      simpa [Network.fed] using capacity
    · simp [Network.fed, Function.update_of_ne same]
  have popped {other : wiring.Edge} {packet : FbpMessage} {ring : Ring FbpMessage}
      (taken : (network.rings other).pop = some (packet, ring)) :
      ((network.drained other packet ring).rings edge).capacity = (network.rings edge).capacity := by
    obtain ⟨_, capacity, _⟩ := Ring.pop_some taken
    by_cases same : edge = other
    · subst same
      simpa [Network.drained] using capacity
    · simp [Network.drained, Function.update_of_ne same]
  cases done with
  | moves _ | announces _ _ => exact Wiring.dropEnds_capacity _ _ _
  | signals _ _ _ accepted _ => exact (Wiring.dropEnds_capacity _ _ _).trans (pushed accepted)
  | pushes _ _ _ accepted => exact pushed accepted
  | pops _ _ taken => exact popped taken
  | feeds _ accepted => exact pushed accepted
  | drains _ taken => exact popped taken

end

theorem Flow.Done.capacity (done : flow.Done enforced doing events next) (edge : layout.wiring.Edge) :
    (next.network.rings edge).capacity = (flow.network.rings edge).capacity := by
  cases done with
  | deeds _ done => exact done.capacity edge
  | tells _ _ => rfl
  | proceeds executing known performed =>
      rcases performed.network executing known with ⟨same, _⟩ | ⟨deed, done⟩
      · rw [same]
      · exact done.capacity edge

theorem capacity_run {first : Flow layout} (run : (flowMachine layout enforced).Run anyMove first trace flow)
    (edge : layout.wiring.Edge) : (flow.network.rings edge).capacity = (first.network.rings edge).capacity := by
  refine Machine.Run.invariant (fun flow : Flow layout =>
    (flow.network.rings edge).capacity = (first.network.rings edge).capacity) run rfl ?_
  exact fun _ same step => ((Flow.done_of_step step).capacity edge).trans same

/-- A live forwarder at rest that has room in OUT is empty, and so is its IN edge. -/
theorem Flow.Tended.empty (tended : flow.Tended nodeId passing) (quiescent : flow.network.Quiescent)
    (sound : Sound flow.network.system) (live : nodeId ∈ flow.network.system.scheduler.state.nodes)
    (room : ¬ flow.Full nodeId) :
    (flow.frames nodeId).pending = [] ∧ (flow.frames nodeId).waiting = [] ∧ flow.Empty nodeId := by
  obtain ⟨idle, blocked, none⟩ := tended.quiet quiescent sound live
  have resting := tended.framed.resting idle
  have pending : (flow.frames nodeId).pending = [] := by
    by_contra some
    exact room (blocked some)
  refine ⟨pending, ?_, none pending⟩
  simp [Frame.waiting, resting, pending]

theorem delivers_zero (chain : List (NodeId × Passing)) : delivers chain 0 = 0 := by
  induction chain with
  | nil => rfl
  | cons member chain ih => simpa [delivers] using ih

/-- Room at the end of a chain at rest means that there is room everywhere in it. -/
theorem Flow.chain_empty (quiescent : flow.network.Quiescent) (sound : Sound flow.network.system)
    (tended : ∀ nodeId passing, layout.passing nodeId = some passing → flow.Tended nodeId passing)
    {chain : List (NodeId × Passing)} {front last : layout.wiring.Edge} (joined : layout.Chain front chain last)
    (live : ∀ member ∈ chain, member.1 ∈ flow.network.system.scheduler.state.nodes)
    (roomy : ∀ member ∈ chain, 0 < (flow.network.rings (layout.inn member.1)).capacity)
    (room : (flow.network.rings last).buffer.length < (flow.network.rings last).capacity) :
    (∀ member ∈ chain, (flow.frames member.1).pending = [] ∧ flow.Empty member.1) ∧ flow.underway chain = 0 ∧
      (flow.network.rings front).buffer.length < (flow.network.rings front).capacity := by
  induction joined with
  | nil edge => exact ⟨by simp, rfl, room⟩
  | @cons nodeId passing chain last known rest ih =>
      have here := List.mem_cons_self (a := (nodeId, passing)) (l := chain)
      obtain ⟨others, beyond, free⟩ := ih (fun member there => live member (List.mem_cons_of_mem _ there))
        (fun member there => roomy member (List.mem_cons_of_mem _ there)) room
      obtain ⟨pending, waiting, nothing⟩ := (tended nodeId passing known).empty quiescent sound (live _ here)
        (Nat.ne_of_lt free)
      have empty : (flow.network.rings (layout.inn nodeId)).buffer = [] := nothing
      refine ⟨fun member member_chain => ?_, ?_, ?_⟩
      · rcases List.mem_cons.mp member_chain with rfl | there
        · exact ⟨pending, nothing⟩
        · exact others member there
      · rw [Flow.underway, empty, waiting, beyond]
        simp [delivers_zero]
      · rw [empty]
        exact roomy _ here

/-- In every run in which nobody makes room for a forwarder that is not going to look, and at whose
end the network is at rest with room at the end of a chain of live forwarders, the chain is empty and
everything that has gone in at the front has arrived, each packet turned into what the chain makes of it. -/
theorem chain_arrives (layout : Layout) (enforced : Bool) (scheduler : Scheduler Unit) (clock : Instant)
    (rings : layout.wiring.Edge → Ring FbpMessage) (trace : List Event) (flow : Flow layout) (built : Built scheduler)
    (equipped : Equipped scheduler.state)
    (fresh : ∀ nodeId passing, layout.passing nodeId = some passing → (rings (layout.out nodeId)).buffer = [])
    (started : ∀ nodeId passing, layout.passing nodeId = some passing →
      (rings (layout.inn nodeId)).buffer = [] ∨ nodeId ∈ scheduler.state.readyQueue)
    (run : (flowMachine layout enforced).Run (SparesFull enforced) (.start scheduler clock rings) trace flow)
    (quiescent : flow.network.Quiescent) (chain : List (NodeId × Passing)) (front last : layout.wiring.Edge)
    (joined : layout.Chain front chain last)
    (live : ∀ member ∈ chain, member.1 ∈ flow.network.system.scheduler.state.nodes)
    (roomy : ∀ member ∈ chain, 0 < (rings (layout.inn member.1)).capacity)
    (room : (flow.network.rings last).buffer.length < (rings last).capacity) :
    (∀ member ∈ chain, (flow.frames member.1).pending = [] ∧ flow.Empty member.1) ∧
      delivers chain (flow.supplied rings front) = flow.supplied rings last := by
  obtain ⟨sound, tended⟩ := tended_of_start built equipped started run
  have capacity := capacity_run run.any
  have roomyNow : ∀ member ∈ chain, 0 < (flow.network.rings (layout.inn member.1)).capacity := by
    intro member here
    rw [capacity]
    exact roomy member here
  have roomNow : (flow.network.rings last).buffer.length < (flow.network.rings last).capacity := by
    rw [capacity]
    exact room
  obtain ⟨empty, beyond, _⟩ := Flow.chain_empty quiescent sound tended joined live roomyNow roomNow
  have accounted := Flow.delivers_chain (fifo_run run.any) (fun _ _ known => passes_run run.any known) fresh joined
  rw [beyond, add_zero] at accounted
  exact ⟨empty, accounted⟩

def roomyStart : Flow repeatAndOut := .start twoForwarders 0 fun _ => .empty 2

/-- A dispatch with so many accesses, up to the check-in of the node. -/
def dispatchFor (accesses : Nat) : List (Doing repeatAndOut) :=
  List.replicate 6 (.deed (.schedule .run)) ++ List.replicate accesses (.proceed 0) ++ [.deed (.schedule .run)]

/-- A packet goes through both forwarders, each of which is called once more. -/
def passThrough : List (Doing repeatAndOut) :=
  fedOnce ++ [.deed (.announce "repeat")] ++ dispatchFor 17 ++ dispatchFor 17 ++ dispatchFor 7 ++ dispatchFor 7

/-- There is room in the OUT edges. -/
def HasRoom (flow : Flow repeatAndOut) (_ : Doing repeatAndOut) : Prop :=
  ∀ nodeId ∈ ["repeat", "out"], (flow.network.rings (repeatAndOut.out nodeId)).buffer.length ≠
    (flow.network.rings (repeatAndOut.out nodeId)).capacity

instance (flow : Flow repeatAndOut) : DecidablePred (HasRoom flow) :=
  fun _ => inferInstanceAs (Decidable (∀ nodeId ∈ ["repeat", "out"], _ ≠ _))

theorem HasRoom.spares {flow : Flow repeatAndOut} {doing : Doing repeatAndOut} (room : HasRoom flow doing) :
    SparesFull false flow doing := by
  intro done _ nodeId passing known _ full
  by_cases first : nodeId = "repeat"
  · subst first
    exact absurd full (room "repeat" (by simp))
  · by_cases second : nodeId = "out"
    · subst second
      exact absurd full (room "out" (by simp))
    · simp [repeatAndOut, first, second] at known

theorem twoForwarders_built : Built twoForwarders :=
  .addComponent () "out" (.addNode "out" .normal 0 (.addComponent () "repeat" (.addNode "repeat" .normal 0 .new)))

theorem chain_arrives_repeatAndOut :
    let flow := (flowMachine repeatAndOut false).played roomyStart passThrough
    delivers [("repeat", Repeat.passing), ("out", Output.passing)]
      (flow.supplied (fun _ => .empty 2) (0 : Fin 3)) = flow.supplied (fun _ => .empty 2) (2 : Fin 3) := by
  have permits : (flowMachine repeatAndOut false).Permits HasRoom roomyStart passThrough := by decide +kernel
  have run := ((flowMachine repeatAndOut false).run_played permits (by decide +kernel)).weaken
    fun _ _ room => HasRoom.spares room
  have rests : ((flowMachine repeatAndOut false).played roomyStart passThrough).network.Quiescent :=
    ⟨by decide +kernel, by decide +kernel, by decide +kernel, by decide +kernel⟩
  refine (chain_arrives repeatAndOut false twoForwarders 0 (fun _ => .empty 2) _ _ twoForwarders_built
    Equipped.new.add.add (fun _ _ _ => rfl) (fun _ _ _ => .inl rfl) run rests _ _ _ repeatAndOut_chain ?_ ?_ ?_).2
  · decide +kernel
  · decide +kernel
  · decide +kernel

end Flowd
