import Flowd.Network.Delivery
import Flowd.Network.Shutdown

namespace Flowd

/-! When a node is going to be called, and what happens to it while others act. -/

open Transition

section
variable {κ : Type} {enforced : Bool} {system next : System κ} {action : Action κ} {events : List Event}
variable {nodeId : NodeId} {component : κ} {context : NodeContext} {outcome : ExecutionOutcome}

theorem Pc.executing_eq {pc : Pc κ} : pc.executing = some nodeId ↔
    ∃ component context outcome, pc = .processing nodeId component context outcome := by
  cases pc <;> simp [Pc.executing]

@[simp] theorem Pc.notify_executing (pc : Pc κ) : pc.notify.executing = pc.executing := by
  cases pc <;> rfl

/-- Until it returns, a call stays in flight with what has been accounted so far. -/
theorem Moved.processing (moved : Moved enforced system action events next)
    (pc : system.pc = .processing nodeId component context outcome) (goes : ∀ reply, action ≠ .processReturns reply) :
    ∃ component context, next.pc = .processing nodeId component context outcome := by
  cases moved with
  | settles reply _ => exact absurd rfl (goes reply)
  | selfSignals here => exact ⟨_, _, pc⟩
  | selfWakes when here =>
      rw [pc] at here
      cases here
      exact ⟨_, _, rfl⟩
  | signals _ _ =>
      refine ⟨component, context, ?_⟩
      dsimp only
      split <;> simp [pc, Pc.notify]
  | registers _ _ _ =>
      refine ⟨component, context, ?_⟩
      dsimp only
      split <;> simp [pc, Pc.notify]
  | storesStop => exact ⟨_, _, pc⟩
  | notifiesStop _ => exact ⟨component, context, by simp [pc, Pc.notify]⟩
  | elapses _ _ => exact ⟨_, _, pc⟩
  | _ here => simp [pc] at here

theorem Moved.executing (moved : Moved enforced system action events next)
    (executing : system.pc.executing = some nodeId) (goes : ∀ reply, action ≠ .processReturns reply) :
    next.pc.executing = some nodeId := by
  obtain ⟨_, _, _, pc⟩ := Pc.executing_eq.mp executing
  obtain ⟨_, _, pc'⟩ := moved.processing pc goes
  rw [pc']
  rfl

/-- What is about to be called stays so, or is called. -/
theorem Moved.entering (moved : Moved enforced system action events next)
    (pc : system.pc = .entering nodeId component context) :
    next.pc = .entering nodeId component context ∨ next.pc.executing = some nodeId := by
  cases moved with
  | enters here =>
      rw [pc] at here
      cases here
      exact .inr rfl
  | signals _ _ =>
      left
      dsimp only
      split <;> simp [pc, Pc.notify]
  | registers _ _ _ =>
      left
      dsimp only
      split <;> simp [pc, Pc.notify]
  | storesStop => exact .inl pc
  | notifiesStop _ => exact .inl (by simp [pc, Pc.notify])
  | elapses _ _ => exact .inl pc
  | settles _ here => simp [pc] at here
  | selfWakes _ here => simp [pc] at here
  | _ here => simp [pc] at here

/-- A call begins with its entry. -/
theorem Moved.executes (moved : Moved enforced system action events next) (executing : next.pc.executing = some nodeId) :
    system.pc.executing = some nodeId ∨ ∃ component context, system.pc = .entering nodeId component context := by
  cases moved with
  | @enters entered component context pc =>
      simp only [System.enter, Pc.executing, Option.some.injEq] at executing
      subst executing
      exact .inr ⟨_, _, pc⟩
  | concludes pc => simp [Pc.executing] at executing
  | @settles away component context outcome reply pc =>
      have settled := system.settled enforced away context outcome reply
      generalize system.settle enforced away context outcome reply = last at settled executing
      cases settled with
      | again _ _ _ _ =>
          rw [pc]
          exact .inl executing
      | _ => simp [Pc.executing] at executing
  | selfWakes _ pc =>
      rw [pc]
      exact .inl executing
  | signals _ _ =>
      left
      dsimp only at executing
      split at executing
      · rwa [Pc.notify_executing] at executing
      · exact executing
  | registers _ _ _ =>
      left
      dsimp only at executing
      split at executing
      · rwa [Pc.notify_executing] at executing
      · exact executing
  | selfSignals _ => exact .inl executing
  | storesStop => exact .inl executing
  | notifiesStop _ =>
      left
      rwa [Pc.notify_executing] at executing
  | elapses _ _ => exact .inl executing
  | _ => simp [Pc.executing] at executing

theorem Moved.dispatching (moved : Moved enforced system action events next) (member : .dispatched nodeId ∈ events) :
    ∃ component context, next.pc = .entering nodeId component context := by
  cases moved with
  | dispatches _ _ =>
      rw [List.mem_singleton, Event.dispatched.injEq] at member
      subst member
      exact ⟨_, _, rfl⟩
  | drains _ => simp at member
  | @concludes away component context outcome pc =>
      rcases system.conclude_events away component context outcome with reports | reports | reports <;>
        simp [reports] at member
  | _ => simp at member

theorem Moved.settled {reply : Reply κ} (moved : Moved enforced system (.processReturns reply) events next)
    (executing : system.pc.executing = some nodeId) : ∃ component context outcome,
      system.pc = .processing nodeId component context outcome ∧ Settled system nodeId context outcome reply next := by
  cases moved with
  | @settles away component context outcome _ pc =>
      rw [pc, Pc.executing, Option.some.injEq] at executing
      subst executing
      exact ⟨component, context, outcome, pc, system.settled enforced away context outcome reply⟩

/-- A return counts the work of the call to the dispatch, unless it ends it. -/
theorem Settled.worked {reply : Reply κ} (settled : Settled system nodeId context outcome reply next)
    (works : outcome.didWork = true ∨ reply.returned ≠ .result .noWork) : Marked nodeId next ∨
      ∃ component context outcome, next.pc = .processing nodeId component context outcome ∧ outcome.didWork = true := by
  cases settled with
  | overran => exact .inl rfl
  | ended _ _ finished => exact .inl ⟨rfl, .inl finished⟩
  | idle why _ _ => exact .inl ⟨rfl, .inr (.inl (works.resolve_right fun returned => returned why))⟩
  | exhausted _ _ _ => exact .inl ⟨rfl, .inr (.inl rfl)⟩
  | again _ _ _ _ => exact .inr ⟨_, _, _, rfl, rfl⟩

end

section
variable {wiring : Wiring} {enforced : Bool} {network next : Network wiring} {deed : Deed wiring}
variable {events : List Event} {nodeId : NodeId}

@[simp] theorem Wiring.dropEnds_capacity (events : List Event) (edge : wiring.Edge) (ring : Ring FbpMessage) :
    (wiring.dropEnds events edge ring).capacity = ring.capacity := by
  unfold Wiring.dropEnds
  dsimp only
  split <;> split <;> rfl

/-- The scheduler is going to call the node again, or it is retired. -/
inductive Network.Recalls (nodeId : NodeId) (network : Network wiring) : Prop where
  | roused (roused : Roused nodeId network.system)
  | owed (owed : nodeId ∈ network.owed)
  | entering {component : Unit} {context : NodeContext} (pc : network.system.pc = .entering nodeId component context)
  | marked (marked : Marked nodeId network.system)
  | worked {component : Unit} {context : NodeContext} {outcome : ExecutionOutcome}
      (pc : network.system.pc = .processing nodeId component context outcome) (didWork : outcome.didWork = true)

/-- What is going to be called stays so until it is called. -/
theorem Network.Recalls.moved {action : Action Unit} (recalls : network.Recalls nodeId) (sound : Sound network.system)
    (moved : Moved enforced network.system action events next.system)
    (owed : nodeId ∈ network.owed → nodeId ∈ next.owed ∨ Roused nodeId next.system) :
    next.Recalls nodeId ∨
      network.system.pc.executing ≠ some nodeId ∧ next.system.pc.executing = some nodeId := by
  have enters (dispatched : Event.dispatched nodeId ∈ events) : next.Recalls nodeId := by
    obtain ⟨component, context, pc⟩ := moved.dispatching dispatched
    exact .entering pc
  have gone (member : Event.retired nodeId ∈ events) : next.Recalls nodeId :=
    .roused (.inl fun flagged => ((mem_readyFlags_moved moved).mp flagged).2 member)
  cases recalls with
  | roused roused => exact .inl ((roused.moved sound moved).elim enters .roused)
  | owed member => exact .inl ((owed member).elim .owed .roused)
  | entering pc =>
      rcases moved.entering pc with pc' | executing
      · exact .inl (.entering pc')
      · exact .inr ⟨by simp [pc, Pc.executing], executing⟩
  | marked marked =>
      left
      rcases marked.moved sound moved with ⟨event, member, rfl | rfl⟩ | marked | queued
      · exact enters member
      · exact gone member
      · exact .marked marked
      · exact .roused (.inr (.inl queued))
  | @worked component context outcome pc didWork =>
      left
      by_cases returns : ∃ reply, action = .processReturns reply
      · obtain ⟨reply, rfl⟩ := returns
        obtain ⟨_, _, _, here, settled⟩ := moved.settled (by rw [pc]; rfl)
        rw [pc] at here
        cases here
        rcases settled.worked (.inl didWork) with marked | ⟨_, _, _, pc', didWork⟩
        · exact .marked marked
        · exact .worked pc' didWork
      · obtain ⟨_, _, pc'⟩ := moved.processing pc fun reply same => returns ⟨reply, same⟩
        exact .worked pc' didWork

theorem Ring.pop_eq_none {α : Type} {ring : Ring α} : ring.pop = none ↔ ring.buffer = [] := by
  rw [Ring.pop_eq]
  cases ring.buffer <;> simp

/-- A push signals at most, which leaves the call in flight and what is owed alone. -/
theorem Network.Done.push_system {edge : wiring.Edge} {packet : FbpMessage}
    (done : network.Done enforced (.push edge packet) events next) : next.owed = network.owed ∧
      (next.system = network.system ∨ ∃ consumer, Moved enforced network.system (.signalReady consumer) events next.system) := by
  cases done with
  | signals _ _ _ _ moved => exact ⟨rfl, .inr ⟨_, moved⟩⟩
  | pushes => exact ⟨rfl, .inl rfl⟩

theorem Network.Done.push_executing {edge : wiring.Edge} {packet : FbpMessage}
    (done : network.Done enforced (.push edge packet) events next)
    (executing : network.system.pc.executing = some nodeId) : next.system.pc.executing = some nodeId := by
  rcases done.push_system.2 with same | ⟨consumer, moved⟩
  · rw [same]
    exact executing
  · exact moved.executing executing fun _ same => by cases same

/-- What happens to a node and two of its edges while others act, or nobody. -/
structure Network.Beside (enforced : Bool) (nodeId : NodeId) (inn out : wiring.Edge) (network next : Network wiring) :
    Prop where
  moved : next.system = network.system ∨ ∃ action events,
    Moved enforced network.system action events next.system ∧
      (network.system.pc.executing = some nodeId → ∀ reply, action ≠ .processReturns reply)
  owed : nodeId ∈ network.owed → nodeId ∈ next.owed ∨ Roused nodeId next.system
  inn : (next.rings inn).buffer = (network.rings inn).buffer ∨ Roused nodeId next.system ∨ nodeId ∈ next.owed
  out : (next.rings out).buffer = (network.rings out).buffer ∧
      (next.rings out).capacity = (network.rings out).capacity ∨
    (network.taken out).length < (next.taken out).length

theorem Network.Done.beside {inn out : wiring.Edge} (done : network.Done enforced deed events next)
    (sound : Sound network.system) (target : wiring.target inn = some nodeId) (source : wiring.source out = some nodeId)
    (calls : network.system.pc.executing = some nodeId → deed.ofCall = false) :
    network.Beside enforced nodeId inn out next := by
  cases done with
  | @moves action events system moved =>
      refine ⟨.inr ⟨action, events, moved, ?_⟩, .inl, .inl ?_, .inl ⟨?_, ?_⟩⟩
      · rintro executing reply rfl
        cases calls executing
      · exact Wiring.dropEnds_buffer _ _ _
      · exact Wiring.dropEnds_buffer _ _ _
      · exact Wiring.dropEnds_capacity _ _ _
  | @signals edge packet ring producer consumer system events executing from_ to_ pushed moved =>
      have mine : out ≠ edge := by
        rintro rfl
        rw [source] at from_
        cases from_
        cases calls executing
      refine ⟨.inr ⟨_, events, moved, fun _ _ same => by cases same⟩, .inl, ?_, .inl ?_⟩
      · by_cases same : inn = edge
        · subst same
          rw [target] at to_
          cases to_
          exact .inr (.inl (.signalled sound moved))
        · left
          simp [Network.follow, Network.loaded, Network.fed, Function.update_of_ne same]
      · simp [Network.follow, Network.loaded, Network.fed, Function.update_of_ne mine]
  | @pushes edge packet ring producer executing from_ to_ pushed =>
      have mine : out ≠ edge := by
        rintro rfl
        rw [source] at from_
        cases from_
        cases calls executing
      have different : inn ≠ edge := by
        rintro rfl
        rw [target] at to_
        cases to_
      refine ⟨.inl rfl, .inl, .inl ?_, .inl ?_⟩
      · simp [Network.loaded, Network.fed, Function.update_of_ne different]
      · simp [Network.loaded, Network.fed, Function.update_of_ne mine]
  | @pops edge packet ring consumer executing to_ popped =>
      have different : inn ≠ edge := by
        rintro rfl
        rw [target] at to_
        cases to_
        cases calls executing
      refine ⟨.inl rfl, .inl, .inl ?_, ?_⟩
      · simp [Network.drained, Function.update_of_ne different]
      · by_cases same : out = edge
        · right
          simp [Network.drained, same]
        · left
          simp [Network.drained, Function.update_of_ne same]
  | @feeds edge packet ring from_ pushed =>
      have mine : out ≠ edge := by
        rintro rfl
        rw [source] at from_
        cases from_
      refine ⟨.inl rfl, fun member => .inl (List.mem_append_right _ member), ?_, .inl ?_⟩
      · by_cases same : inn = edge
        · subst same
          exact .inr (.inr (List.mem_append_left _ (by rw [target]; exact List.mem_singleton_self _)))
        · left
          simp [Network.fed, Function.update_of_ne same]
      · simp [Network.fed, Function.update_of_ne mine]
  | @announces signalled events system owed moved =>
      refine ⟨.inr ⟨_, events, moved, fun _ _ same => by cases same⟩, fun member => ?_, .inl ?_, .inl ⟨?_, ?_⟩⟩
      · by_cases same : nodeId = signalled
        · subst same
          exact .inr (.signalled sound moved)
        · exact .inl ((List.mem_erase_of_ne same).mpr member)
      · exact Wiring.dropEnds_buffer _ _ _
      · exact Wiring.dropEnds_buffer _ _ _
      · exact Wiring.dropEnds_capacity _ _ _
  | @drains edge packet ring to_ popped =>
      have different : inn ≠ edge := by
        rintro rfl
        rw [target] at to_
        cases to_
      refine ⟨.inl rfl, .inl, .inl ?_, ?_⟩
      · simp [Network.drained, Function.update_of_ne different]
      · by_cases same : out = edge
        · right
          simp [Network.drained, same]
        · left
          simp [Network.drained, Function.update_of_ne same]

end

end Flowd
