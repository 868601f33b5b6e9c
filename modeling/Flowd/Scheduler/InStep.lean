import Flowd.Scheduler.Retirement

namespace Flowd

/-! The ready queue, the ready set, the flags and the recorded depth stay in step. -/

open Transition

variable {κ : Type} {enforced : Bool} {system next : System κ} {operation : Operation κ} {action : Action κ}
variable {events : List Event} {reports trace : List Report} {nodeId : NodeId} {clock : Instant}
variable {state : SchedulerState κ} {scheduler : Scheduler κ}

/-- The node has been retired and not been added since. -/
def Retired (nodeId : NodeId) (trace : List Report) : Prop :=
  ∃ before after, trace = before ++ .event (.retired nodeId) :: after ∧ ∀ budgetClass, .added nodeId budgetClass ∉ after

structure InStep (trace : List Report) (state : SchedulerState κ) : Prop where
  nodup : state.readyQueue.Nodup
  inSet : state.readySet = state.readyQueue.toFinset
  depth : state.metrics.queueDepth = state.readyQueue.length
  flagged : ∀ nodeId ∈ state.readyQueue, nodeId ∈ state.readyFlags
  retired : ∀ nodeId, Retired nodeId trace → nodeId ∉ state.readyQueue ∧ nodeId ∉ state.readySet ∧
    nodeId ∉ state.readyFlags ∧ nodeId ∉ state.timerLatestByNode

/-- A deadline is registered from outside only for a node that has a flag. -/
def WakesFlagged (system : System κ) : Operation κ → Prop
  | .move (.wakeAt nodeId _) => nodeId ∈ system.scheduler.state.nodes → nodeId ∈ system.scheduler.state.readyFlags
  | _ => True

/-- What the moves keep. -/
structure Accurate (system : System κ) : Prop where
  ready : Ready system.scheduler.state
  depth : system.scheduler.state.metrics.queueDepth = system.scheduler.state.readyQueue.length
  away : ∀ nodeId, system.pc.inFlight = some nodeId → nodeId ∈ system.scheduler.state.readyFlags

theorem Ready.drainExpiredTimers {now : Instant} (ready : Ready scheduler.state) :
    Ready (scheduler.drainExpiredTimers now).1.state := by
  obtain ⟨rounds, same, _⟩ := scheduler.drainExpiredTimers_eq now
  have drained : Ready (Scheduler.drainRounds now rounds scheduler).1.state :=
    Scheduler.drainRounds_keeps (fun scheduler => Ready scheduler.state)
      (fun _ ready => ready.congr rfl rfl rfl rfl) (fun _ _ _ ready _ latest => ready.fireFirst latest) rounds scheduler ready
  rw [same]
  exact drained.congr rfl rfl rfl rfl

theorem Ready.addNode {budgetClass : BudgetClass} {now : Instant} (ready : Ready scheduler.state) :
    Ready (scheduler.addNode nodeId budgetClass now).state := by
  refine ⟨ready.nodup, ready.inSet, fun other queued => ?_, fun other timed => ?_⟩
  · exact (AList.mem_insert _).mpr (.inr (ready.queueFlag other queued))
  · exact (AList.mem_insert _).mpr (.inr (ready.timerFlag other timed))

theorem Ready.checkIn {component : κ} {context : NodeContext} (ready : Ready state) (flagged : nodeId ∈ state.readyFlags) :
    Ready (state.checkIn nodeId component context) := by
  unfold SchedulerState.checkIn
  cases context.wakeAt with
  | none => exact ready.congr rfl rfl rfl rfl
  | some when => exact (ready.registerTimer flagged).congr rfl rfl rfl rfl

namespace SchedulerState

theorem enqueueRecorded_depth (depth : state.metrics.queueDepth = state.readyQueue.length) :
    (state.enqueueRecorded nodeId).metrics.queueDepth = (state.enqueueRecorded nodeId).readyQueue.length := by
  unfold enqueueRecorded
  split
  · exact depth
  · rfl

theorem checkIn_depth (nodeId : NodeId) (component : κ) (context : NodeContext)
    (depth : state.metrics.queueDepth = state.readyQueue.length) :
    (state.checkIn nodeId component context).metrics.queueDepth =
      (state.checkIn nodeId component context).readyQueue.length := by
  unfold checkIn
  cases context.wakeAt <;> exact depth

/-- A checkout records the depth. -/
theorem checkOut_depth {next : SchedulerState κ} : (state.checkOut = .unavailable next ∨
    ∃ nodeId component context, state.checkOut = .taken nodeId component context next) →
      next.metrics.queueDepth = next.readyQueue.length := by
  unfold checkOut
  cases queue : state.readyQueue with
  | nil => simp
  | cons nodeId rest =>
      cases equipped : state.components.lookup nodeId with
      | none =>
          simp only [recordDepth, equipped, reduceCtorEq, exists_false, or_false, Checkout.unavailable.injEq]
          rintro rfl
          rfl
      | some present =>
          cases home : state.nodes.lookup nodeId with
          | none =>
              simp only [recordDepth, equipped, home, reduceCtorEq, exists_false, or_false, Checkout.unavailable.injEq]
              rintro rfl
              rfl
          | some found =>
              simp only [recordDepth, equipped, home, reduceCtorEq, false_or, Checkout.taken.injEq]
              rintro ⟨_, _, _, _, _, _, rfl⟩
              rfl

end SchedulerState

theorem Accurate.signalReady (accurate : Accurate system) (nodeId : NodeId) :
    Accurate { system with
      scheduler := (system.scheduler.signalReady nodeId).1
      pc := if (system.scheduler.signalReady nodeId).2 then system.pc.notify else system.pc } := by
  have flight : (if (system.scheduler.signalReady nodeId).2 then system.pc.notify else system.pc).inFlight =
      system.pc.inFlight := by split <;> simp
  rcases system.scheduler.signalReady_eq nodeId with ⟨_, same⟩ | ⟨flag, found, same⟩
  · rw [same] at flight ⊢
    exact ⟨accurate.ready, accurate.depth, fun other away => accurate.away other (flight.symm.trans away)⟩
  · rw [same] at flight ⊢
    have flagged : nodeId ∈ system.scheduler.state.readyFlags := AList.lookup_isSome.mp (by rw [found]; rfl)
    refine ⟨accurate.ready.enqueueRecorded flagged, SchedulerState.enqueueRecorded_depth accurate.depth, ?_⟩
    intro other away
    rw [SchedulerState.enqueueRecorded_readyFlags]
    exact accurate.away other (flight.symm.trans away)

theorem Accurate.wakeAt {when : Instant} (accurate : Accurate system)
    (flagged : nodeId ∈ system.scheduler.state.nodes → nodeId ∈ system.scheduler.state.readyFlags) :
    Accurate { system with
      scheduler := (system.scheduler.wakeAt nodeId when).1
      pc := if (system.scheduler.wakeAt nodeId when).2 then system.pc.notify else system.pc } := by
  have flight : (if (system.scheduler.wakeAt nodeId when).2 then system.pc.notify else system.pc).inFlight =
      system.pc.inFlight := by split <;> simp
  rcases system.scheduler.wakeAt_eq nodeId when with ⟨_, same⟩ | ⟨home, same⟩
  · rw [same] at flight ⊢
    exact ⟨accurate.ready, accurate.depth, fun other away => accurate.away other (flight.symm.trans away)⟩
  · rw [same] at flight ⊢
    exact ⟨accurate.ready.registerTimer (flagged home), accurate.depth,
      fun other away => accurate.away other (flight.symm.trans away)⟩

/-- The node in flight has its flag, so its check-in queues it and registers its timer rightly. -/
theorem Accurate.concludes {component : κ} {context : NodeContext} {outcome : ExecutionOutcome} (accurate : Accurate system)
    (pc : system.pc = .checkingIn nodeId component context outcome) :
    Accurate (system.conclude nodeId component context outcome).1 := by
  have accounted : Ready (system.scheduler.state.account nodeId outcome) := accurate.ready.congr rfl rfl rfl rfl
  cases finished : outcome.finished with
  | true =>
      obtain ⟨running, same, _⟩ := system.conclude_finished nodeId component context finished
      rw [same]
      exact ⟨accounted.retire nodeId, rfl, fun other none => by cases none⟩
  | false =>
      have flagged : nodeId ∈ (system.scheduler.state.account nodeId outcome).readyFlags :=
        accurate.away nodeId (by rw [pc]; rfl)
      have home : Ready ((system.scheduler.state.account nodeId outcome).checkIn nodeId component context) :=
        accounted.checkIn flagged
      have depth := SchedulerState.checkIn_depth nodeId component context
        (show (system.scheduler.state.account nodeId outcome).metrics.queueDepth = _ from accurate.depth)
      obtain ⟨state, same, states⟩ := system.conclude_unfinished nodeId component context finished
      rw [same]
      rcases states with ⟨_, rfl⟩ | ⟨_, rfl⟩
      · exact ⟨home.enqueueRecorded (by simpa using flagged), SchedulerState.enqueueRecorded_depth depth,
          fun other none => by cases none⟩
      · exact ⟨home, depth, fun other none => by cases none⟩

/-- Where nothing but the program counter changes. -/
theorem Accurate.relocate (accurate : Accurate system) (same : next.scheduler.state = system.scheduler.state)
    (flight : next.pc.inFlight = system.pc.inFlight) : Accurate next := by
  refine ⟨?_, ?_, ?_⟩
  · rw [same]
    exact accurate.ready
  · rw [same]
    exact accurate.depth
  · rw [same, flight]
    exact accurate.away

theorem Accurate.moved (accurate : Accurate system) (permitted : WakesFlagged system (.move action))
    (moved : Moved enforced system action events next) : Accurate next := by
  have discarded : Ready system.scheduler.discard.state := accurate.ready.congr rfl rfl rfl rfl
  cases moved with
  | drains pc =>
      exact ⟨accurate.ready.drainExpiredTimers, rfl, fun other none => by cases none⟩
  | recheck pc _ _ => exact ⟨discarded, accurate.depth, fun other none => by cases none⟩
  | parksTimed pc _ _ => exact ⟨discarded, accurate.depth, fun other none => by cases none⟩
  | parks pc _ => exact ⟨discarded, accurate.depth, fun other none => by cases none⟩
  | popsUnavailable pc unavailable =>
      have depth := SchedulerState.checkOut_depth (.inl unavailable)
      obtain ⟨nodeId, rest, components, _, _, queue, rfl⟩ := SchedulerState.checkOut_unavailable unavailable
      exact ⟨accurate.ready.pop queue _ _ _, depth, fun other none => by cases none⟩
  | @dispatches nodeId component context state pc taken =>
      have depth := SchedulerState.checkOut_depth (.inr ⟨_, _, _, taken⟩)
      obtain ⟨rest, metrics, queue, _, _, rfl⟩ := checkOut_taken taken
      refine ⟨accurate.ready.pop queue _ _ _, depth, fun other away => ?_⟩
      cases away
      exact accurate.ready.queueFlag nodeId (by rw [queue]; exact List.mem_cons_self)
  | concludes pc => exact accurate.concludes pc
  | @settles nodeId component context outcome reply pc =>
      have settled := system.settled enforced nodeId context outcome reply
      generalize system.settle enforced nodeId context outcome reply = last at settled ⊢
      have flight : system.pc.inFlight = some nodeId := by rw [pc]; rfl
      cases settled <;> exact accurate.relocate rfl flight.symm
  | signals nodeId _ => exact accurate.signalReady nodeId
  | registers nodeId when _ => exact accurate.wakeAt permitted
  | enters pc => exact accurate.relocate rfl (by rw [pc]; rfl)
  | selfWakes when pc => exact accurate.relocate rfl (by rw [pc]; rfl)
  | selfSignals pc => exact accurate.relocate rfl rfl
  | storesStop => exact accurate.relocate rfl rfl
  | notifiesStop _ => exact accurate.relocate rfl (by simp)
  | elapses _ _ => exact accurate.relocate rfl rfl
  | _ pc => exact accurate.relocate rfl (by rw [pc]; rfl)

theorem Accurate.operated (accurate : Accurate system) (permitted : WakesFlagged system operation)
    (operated : Operated enforced system operation reports next) : Accurate next := by
  cases operated with
  | moves moved => exact accurate.moved permitted moved
  | adds nodeId budgetClass _ =>
      exact ⟨accurate.ready.addNode, accurate.depth,
        fun other away => (AList.mem_insert _).mpr (.inr (accurate.away other away))⟩
  | equips component nodeId _ => exact ⟨accurate.ready.congr rfl rfl rfl rfl, accurate.depth, accurate.away⟩
  | snapshots _ => exact ⟨accurate.ready.congr rfl rfl rfl rfl, accurate.depth, accurate.away⟩

theorem accurate_host (run : (hostMachine κ enforced).Run WakesFlagged (System.start .new clock) trace system) :
    Accurate system := by
  refine Machine.Run.invariant Accurate run ?_ fun permitted accurate step =>
    accurate.operated permitted (operated_of_step step)
  exact ⟨Built.new.consistent.ready, rfl, fun other none => by cases none⟩

/-- A node that was added and is not live has been retired since. -/
theorem retired_of_not_live {budgetClass : BudgetClass} (added : .added nodeId budgetClass ∈ trace)
    (gone : ¬ Live nodeId trace) : Retired nodeId trace := by
  induction trace using List.reverseRecOn with
  | nil => cases added
  | append_singleton earlier report ih =>
      by_cases here : ∃ budgetClass, report = .added nodeId budgetClass
      · obtain ⟨class_, rfl⟩ := here
        exact absurd (live_added.mpr (.inl rfl)) gone
      · have unadded : ∀ budgetClass, .added nodeId budgetClass ∉ [report] :=
          fun budgetClass now => here ⟨budgetClass, (List.mem_singleton.mp now).symm⟩
        rw [live_append unadded] at gone
        by_cases retired : report = .event (.retired nodeId)
        · exact ⟨earlier, [], by rw [retired], by simp⟩
        · have earlierAdded : .added nodeId budgetClass ∈ earlier :=
            (List.mem_append.mp added).resolve_right (unadded budgetClass)
          have unlive : ¬ Live nodeId earlier :=
            fun live => gone ⟨live, fun now => retired (List.mem_singleton.mp now).symm⟩
          obtain ⟨before, after, rfl, once⟩ := ih earlierAdded unlive
          refine ⟨before, after ++ [report], by simp, fun class_ member => ?_⟩
          rcases List.mem_append.mp member with inside | now
          · exact once class_ inside
          · exact unadded class_ now

theorem Retired.not_live (retired : Retired nodeId trace) : ¬ Live nodeId trace := by
  obtain ⟨before, after, rfl, once⟩ := retired
  rw [← List.singleton_append, ← List.append_assoc, live_append once]
  rintro ⟨live, _⟩
  exact ((live_append (by simp)).mp live).2 (by simp)

/-- In every run in which wakes are only accepted for flagged nodes, the queue, the set, the flags
and the depth stay in step. -/
theorem ready_in_step (run : (hostMachine κ enforced).Run WakesFlagged (System.start .new clock) trace system) :
    InStep trace system.scheduler.state := by
  have accurate := accurate_host run
  refine ⟨accurate.ready.nodup, ?_, accurate.depth, accurate.ready.queueFlag, ?_⟩
  · ext nodeId
    rw [List.mem_toFinset]
    exact accurate.ready.inSet nodeId
  · intro nodeId retired
    have unflagged : nodeId ∉ system.scheduler.state.readyFlags :=
      fun flagged => retired.not_live ((mem_readyFlags_host run).mp flagged)
    have unqueued : nodeId ∉ system.scheduler.state.readyQueue :=
      fun queued => unflagged (accurate.ready.queueFlag nodeId queued)
    exact ⟨unqueued, fun member => unqueued ((accurate.ready.inSet nodeId).mp member), unflagged,
      fun timed => unflagged (accurate.ready.timerFlag nodeId timed)⟩

/-- A wake that is accepted for a node without a flag brings a retired node back. -/
theorem wake_out_of_step {when : Instant}
    (run : (hostMachine κ enforced).Run WakesFlagged (System.start .new clock) trace system)
    (home : nodeId ∈ system.scheduler.state.nodes) (unflagged : nodeId ∉ system.scheduler.state.readyFlags)
    (step : (hostMachine κ enforced).step system (.move (.wakeAt nodeId when)) = some (next, reports)) :
    ¬ InStep (trace ++ reports) next.scheduler.state := by
  intro inStep
  obtain ⟨budgetClass, added⟩ := Known.added run (.inl home)
  have gone : ¬ Live nodeId trace := fun live => unflagged ((mem_readyFlags_host run).mpr live)
  obtain ⟨before, after, rfl, once⟩ := retired_of_not_live added gone
  cases operated_of_step step with
  | @moves _ events _ moved =>
      cases moved with
      | registers _ _ free =>
          have retired : Retired nodeId ((before ++ .event (.retired nodeId) :: after) ++
              (system.pops (.wakeAt nodeId when) ++ system.registrations (.wakeAt nodeId when) ++
                [Event.wakeRegistered nodeId (system.scheduler.wakeAt nodeId when).2].map .event)) := by
            refine ⟨before, _, by rw [List.append_assoc]; rfl, fun budgetClass member => ?_⟩
            rcases List.mem_append.mp member with inside | now
            · exact once budgetClass inside
            · exact added_not_mem_moves now
          apply (inStep.retired nodeId retired).2.2.2
          rcases system.scheduler.wakeAt_eq nodeId when with ⟨absent, _⟩ | ⟨_, same⟩
          · exact absurd home absent
          · rw [same]
            exact (AList.mem_insert _).mpr (.inl rfl)

instance (system : System κ) : DecidablePred (WakesFlagged system) := fun
  | .move (.wakeAt nodeId _) => inferInstanceAs (Decidable
      (nodeId ∈ system.scheduler.state.nodes → nodeId ∈ system.scheduler.state.readyFlags))
  | .addNode _ _ | .addComponent _ _ | .metricsSnapshot | .move .run | .move .wakeUp | .move (.processReturns _)
  | .move .selfSignalReady | .move (.selfWakeAt _) | .move (.signalReady _) | .move .storeStop | .move .notifyStop
  | .move (.elapse _) => inferInstanceAs (Decidable True)

/-- The node is signalled and gets a deadline, finishes and is retired. -/
def signalThenRetire : List (Operation Unit) :=
  [.addNode "n" .normal, .addComponent () "n", .move (.wakeAt "n" 5), .move (.signalReady "n")] ++
    List.replicate 6 (.move .run) ++
    [.move (.signalReady "n"), .move (.processReturns ⟨(), 0, false, 0, .result .finished⟩), .move .run]

theorem ready_in_step_signalThenRetire :
    InStep ((hostMachine Unit true).reported (System.start .new 0) signalThenRetire)
      ((hostMachine Unit true).played (System.start .new 0) signalThenRetire).scheduler.state := by
  have run := (hostMachine Unit true).run_played
    (show (hostMachine Unit true).Permits WakesFlagged (System.start .new 0) signalThenRetire by decide) (by decide)
  exact ready_in_step run

/-- The node is added again while it executes, is retired, and gets a deadline. -/
def readdThenRetire : List (Operation Unit) :=
  dispatchNode ++ [.addNode "n" .normal, .move (.processReturns ⟨(), 0, false, 0, .result .finished⟩), .move .run,
    .move (.wakeAt "n" 5)]

theorem ready_out_of_step :
    ¬ ∀ {trace : List Report} {system : System Unit},
      (hostMachine Unit true).Run anyMove (System.start .new 0) trace system → system.lockFree = true →
      InStep trace system.scheduler.state := by
  intro claim
  have run := (hostMachine Unit true).run_played
    ((hostMachine Unit true).permits_any (System.start .new 0) readdThenRetire) (by decide)
  have split : (hostMachine Unit true).reported (System.start .new 0) readdThenRetire =
      [.added "n" .normal, .event (.signalled "n" true), .event (.tested true), .event (.tested true), .popped "n",
        .event (.dispatched "n"), .added "n" .normal, .event (.returned "n" (.result .finished))] ++
      .event (.retired "n") :: [.registered "n" 5, .event (.wakeRegistered "n" true)] := by
    decide
  have retired : Retired "n" ((hostMachine Unit true).reported (System.start .new 0) readdThenRetire) :=
    ⟨_, _, split, by intro budgetClass; simp⟩
  exact ((claim run rfl).retired "n" retired).2.2.2 (by decide)

end Flowd
