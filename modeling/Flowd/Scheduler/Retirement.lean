import Flowd.Scheduler.Budget
import Flowd.Scheduler.Stop

namespace Flowd

/-! Retirement is for good, and the run loop ends when it is told to or when nothing is left. -/

open Transition

variable {κ : Type} {enforced : Bool} {system next : System κ} {action : Action κ}
variable {events : List Event} {reports trace : List Report} {nodeId : NodeId} {component : κ}
variable {context : NodeContext} {outcome : ExecutionOutcome} {returned : Returned}
variable {operation : Operation κ} {clock : Instant}

/-- A return after which the node is not to be called again. -/
def Returned.Ends (returned : Returned) : Prop := returned = .panicked ∨ returned = .result .finished

/-- The node in flight is going to be retired, or the run thread died of it. -/
def Ending (nodeId : NodeId) : Pc κ → Prop
  | .checkingIn away _ _ outcome => away = nodeId ∧ outcome.finished = true
  | .panicked away => away = nodeId
  | _ => False

theorem Ending.notify {pc : Pc κ} (ending : Ending nodeId pc) : Ending nodeId pc.notify := by
  cases pc <;> exact ending

theorem Ending.inFlight {pc : Pc κ} (ending : Ending nodeId pc) : pc.inFlight = some nodeId := by
  cases pc with
  | checkingIn away _ _ _ => exact congrArg some ending.1
  | panicked away => exact congrArg some ending
  | _ => exact ending.elim

/-- A node that is going to be retired is retired by the next move of the run thread. -/
theorem Ending.moved (ending : Ending nodeId system.pc) (moved : Moved enforced system action events next) :
    .retired nodeId ∈ events ∨ Ending nodeId next.pc := by
  cases moved with
  | @concludes away component context outcome pc =>
      rw [pc] at ending
      obtain ⟨rfl, finished⟩ := ending
      obtain ⟨running, _, reports⟩ := system.conclude_finished away component context finished
      left
      rcases reports with ⟨_, reports⟩ | ⟨_, reports⟩ <;> rw [reports] <;> simp
  | signals _ _ =>
      right
      dsimp only
      split
      · exact ending.notify
      · exact ending
  | registers _ _ _ =>
      right
      dsimp only
      split
      · exact ending.notify
      · exact ending
  | storesStop => exact .inr ending
  | notifiesStop _ => exact .inr ending.notify
  | elapses _ _ => exact .inr ending
  | settles _ pc => simp [pc, Ending] at ending
  | selfWakes _ pc => simp [pc, Ending] at ending
  | _ pc => simp [pc, Ending] at ending

theorem Ending.of_returned (ends : returned.Ends) (member : .returned nodeId returned ∈ events)
    (moved : Moved enforced system action events next) : Ending nodeId next.pc := by
  cases moved with
  | drains pc => simp at member
  | @concludes away component context outcome pc =>
      rcases system.conclude_events away component context outcome with reports | reports | reports <;>
        simp [reports] at member
  | @settles away component context outcome reply pc =>
      rw [List.mem_singleton] at member
      obtain ⟨rfl, rfl⟩ := Event.returned.inj member
      have settled := system.settled enforced nodeId context outcome reply
      generalize system.settle enforced nodeId context outcome reply = last at settled ⊢
      cases settled with
      | overran => rfl
      | ended _ _ finished => exact ⟨rfl, finished⟩
      | idle why _ _ => rcases ends with ends | ends <;> simp [why] at ends
      | exhausted why _ _ => rcases ends with ends | ends <;> simp [why] at ends
      | again why _ _ _ => rcases ends with ends | ends <;> simp [why] at ends
  | _ => simp at member

/-- Between its last return and its retirement a node is in flight. -/
theorem owes_retirement {permitted : System κ → Operation κ → Prop}
    (run : (hostMachine κ enforced).Run permitted (System.start .new clock) trace system) (ends : returned.Ends) :
    Owes (fun system => Ending nodeId system.pc) (· = .event (.returned nodeId returned))
      (· = .event (.retired nodeId)) trace system := by
  refine run.owes ?_ ?_
  · intro earlier state operation after reports before event rest _ _ step split trigger
    have member : .event (.returned nodeId returned) ∈ reports := by rw [split, trigger]; simp
    right
    cases operated_of_step step with
    | moves moved => exact Ending.of_returned ends (event_mem_moves.mp member) moved
    | adds _ _ _ => simp at member
    | equips _ _ _ => simp at member
    | snapshots _ => simp at member
  · intro earlier state operation after reports _ _ step ending
    cases operated_of_step step with
    | moves moved =>
        refine (ending.moved moved).imp_left fun retired => ?_
        exact ⟨_, event_mem_moves.mpr retired, rfl⟩
    | adds _ _ _ => exact .inr ending
    | equips _ _ _ => exact .inr ending
    | snapshots _ => exact .inr ending

/-- A node that is retired after its last return and not added again is not live. -/
theorem not_live_of_retired {before after : List Report} {report : Report}
    (once : ∀ budgetClass, .added nodeId budgetClass ∉ after) (retired : .event (.retired nodeId) ∈ after) :
    ¬ Live nodeId (before ++ report :: after) := by
  rw [← List.singleton_append, ← List.append_assoc, live_append once]
  exact fun live => live.2 retired

/-- A node that has ended and is not added again is not dispatched again. -/
theorem not_dispatched_again {before after : List Report}
    (run : (hostMachine κ enforced).Run AddsAtHome (System.start .new clock) trace system)
    (split : trace = before ++ .event (.returned nodeId returned) :: after) (ends : returned.Ends)
    (once : ∀ budgetClass, .added nodeId budgetClass ∉ after) : .event (.dispatched nodeId) ∉ after := by
  intro dispatched
  obtain ⟨middle, rest, rfl⟩ := List.append_of_mem dispatched
  have here : trace = (before ++ .event (.returned nodeId returned) :: middle) ++
      .event (.dispatched nodeId) :: rest := by
    rw [split]
    simp
  obtain ⟨earlier, state, operation, next, reports, front, back, _, prior, _, step, _, shape, position, _⟩ :=
    run.split_at here
  have member : .event (.dispatched nodeId) ∈ reports := by rw [shape]; simp
  obtain ⟨component, context, reported, entering, home⟩ := dispatch_operated (operated_of_step step) member
  obtain ⟨rfl, _⟩ := dispatch_shape (reported.symm.trans shape)
  -- the pop is the last report before the dispatch
  obtain ⟨middle, rfl, rfl⟩ : ∃ inner, middle = inner ++ [.popped nodeId] ∧
      earlier = before ++ .event (.returned nodeId returned) :: inner := by
    rcases List.eq_nil_or_concat middle with rfl | ⟨inner, last, rfl⟩
    · have ending := (List.append_inj' position rfl).2
      cases ending
    · have same : (before ++ .event (.returned nodeId returned) :: inner) ++ [last] =
          earlier ++ [.popped nodeId] := by simpa using position
      obtain ⟨rfl, ending⟩ := List.append_inj' same rfl
      cases ending
      exact ⟨inner, by simp, rfl⟩
  have live : Live nodeId (before ++ .event (.returned nodeId returned) :: middle) := by
    rw [← mem_readyFlags_host prior]
    exact ((consistent_host prior).flagHome nodeId).mpr (.inl (AList.lookup_isSome.mp (by rw [home]; rfl)))
  rcases owes_retirement prior ends before _ middle rfl rfl with ⟨_, retired, rfl⟩ | ending
  · have unadded : ∀ budgetClass, .added nodeId budgetClass ∉ middle :=
      fun budgetClass added => once budgetClass (by simp [added])
    exact not_live_of_retired unadded retired live
  · exact (consistent_host prior).awayGone nodeId ending.inFlight (AList.lookup_isSome.mp (by rw [home]; rfl))

/-- `stop()` was called. -/
def StopCalled (trace : List Report) (system : System κ) : Prop :=
  system.stopping ≠ 0 ∨ .event .stopReturned ∈ trace

/-- At some point the scheduler stopped itself, and then no node was live. -/
def StoppedItself (trace : List Report) : Prop :=
  ∃ before after, trace = before ++ .event .stoppedItself :: after ∧ ∀ nodeId, ¬ Live nodeId before

/-- `running` is cleared by `stop()` or by the retirement of the last node. -/
theorem cleared_moved (moved : Moved enforced system action events next)
    (cleared : next.scheduler.running = false) :
    system.scheduler.running = false ∨ next.stopping ≠ 0 ∨
      ∃ nodeId, events = [.retired nodeId, .stoppedItself] ∧ system.pc.inFlight = some nodeId ∧
        ∀ other, other ∉ system.scheduler.state.nodes := by
  cases moved with
  | drains pc => exact .inl ((system.scheduler.drainExpiredTimers_running system.clock).symm.trans cleared)
  | @concludes away component context outcome pc =>
      cases finished : outcome.finished with
      | false =>
          obtain ⟨state, same, _⟩ := system.conclude_unfinished away component context finished
          rw [same] at cleared
          exact .inl cleared
      | true =>
          unfold System.conclude at cleared ⊢
          rw [if_pos finished] at cleared ⊢
          dsimp only at cleared ⊢
          split
          · next empty =>
              refine .inr (.inr ⟨away, rfl, by rw [pc]; rfl, ?_⟩)
              intro other present
              have none : system.scheduler.state.nodes.entries = [] := by
                simp only [SchedulerState.allFinished, Bool.and_eq_true, List.isEmpty_iff] at empty
                exact empty.1
              have keyed : other ∈ system.scheduler.state.nodes.keys := present
              simp [AList.keys, none] at keyed
          · next some =>
              rw [if_neg some] at cleared
              exact .inl cleared
  | @settles away component context outcome reply pc =>
      have settled := system.settled enforced away context outcome reply
      generalize system.settle enforced away context outcome reply = last at settled cleared ⊢
      cases settled <;> exact .inl cleared
  | signals signalled _ =>
      rcases system.scheduler.signalReady_eq signalled with ⟨_, same⟩ | ⟨flag, _, same⟩
      · rw [same] at cleared
        exact .inl cleared
      · rw [same] at cleared
        exact .inl cleared
  | registers registered when _ =>
      rcases system.scheduler.wakeAt_eq registered when with ⟨_, same⟩ | ⟨_, same⟩
      · rw [same] at cleared
        exact .inl cleared
      · rw [same] at cleared
        exact .inl cleared
  | storesStop => exact .inr (.inl (Nat.succ_ne_zero _))
  | _ => exact .inl cleared

theorem stopCalled_moved {earlier : List Report} (called : StopCalled earlier system)
    (moved : Moved enforced system action events next) :
    StopCalled (earlier ++ (system.pops action ++ system.registrations action ++ events.map .event)) next := by
  rcases called with pending | returned
  · cases moved with
    | notifiesStop _ => exact .inr (List.mem_append_right _ (event_mem_moves.mpr (List.mem_singleton_self _)))
    | storesStop => exact .inl (Nat.succ_ne_zero _)
    | @concludes away component context outcome pc =>
        left
        cases finished : outcome.finished with
        | true =>
            obtain ⟨running, same, _⟩ := system.conclude_finished away component context finished
            rw [same]
            exact pending
        | false =>
            obtain ⟨state, same, _⟩ := system.conclude_unfinished away component context finished
            rw [same]
            exact pending
    | @settles away component context outcome reply pc =>
        left
        have settled := system.settled enforced away context outcome reply
        generalize system.settle enforced away context outcome reply = last at settled ⊢
        cases settled <;> exact pending
    | _ => exact .inl pending
  · exact .inr (List.mem_append_left _ returned)

theorem stoppedItself_append {earlier : List Report} (stopped : StoppedItself earlier) (more : List Report) :
    StoppedItself (earlier ++ more) := by
  obtain ⟨before, after, rfl, none⟩ := stopped
  exact ⟨before, after ++ more, by simp, none⟩

/-- Why `running` is clear. -/
theorem cleared_host
    (run : (hostMachine κ enforced).Run AddsAtHome (System.start .new clock) trace system)
    (cleared : system.scheduler.running = false) : StopCalled trace system ∨ StoppedItself trace := by
  revert cleared
  refine Machine.Run.history (fun trace system => system.scheduler.running = false →
    StopCalled trace system ∨ StoppedItself trace) run ?_ ?_
  · intro cleared
    cases cleared
  · intro earlier state operation after reports prior _ reason step cleared
    cases operated_of_step step with
    | @moves action events _ moved =>
        rcases cleared_moved moved cleared with cleared | pending | ⟨nodeId, last, flight, none⟩
        · exact (reason cleared).imp (fun called => stopCalled_moved called moved)
            fun stopped => stoppedItself_append stopped _
        · exact .inl (.inl pending)
        · refine .inr ⟨earlier ++ (state.pops action ++ state.registrations action) ++ [.event (.retired nodeId)],
            [], by simp [last], ?_⟩
          intro other live
          have unadded : ∀ budgetClass, .added other budgetClass ∉
              (state.pops action ++ state.registrations action) ++ [Report.event (.retired nodeId)] := by
            intro budgetClass added
            have absent : .added other budgetClass ∉ state.pops action ++ state.registrations action ++
                ([] : List Event).map Report.event := added_not_mem_moves
            exact absent (by simpa using added)
          rw [List.append_assoc, live_append unadded] at live
          have home := (mem_readyFlags_host prior).mpr live.1
          rcases ((consistent_host prior).flagHome other).mp home with home | away
          · exact none other home
          · rw [flight] at away
            cases away
            exact live.2 (by simp)
    | adds _ _ _ =>
        exact (reason cleared).imp (fun called => called.imp id fun member => List.mem_append_left _ member)
          fun stopped => stoppedItself_append stopped _
    | equips _ _ _ =>
        exact (reason cleared).imp (fun called => called.imp id fun member => List.mem_append_left _ member)
          fun stopped => stoppedItself_append stopped _
    | snapshots _ =>
        exact (reason cleared).imp (fun called => called.imp id fun member => List.mem_append_left _ member)
          fun stopped => stoppedItself_append stopped _

/-- The run thread leaves its loop only after `running` was cleared. -/
theorem finished_host {permitted : System κ → Operation κ → Prop}
    (run : (hostMachine κ enforced).Run permitted (System.start .new clock) trace system)
    (left : system.pc = .finished) : system.scheduler.running = false := by
  revert left
  refine Machine.Run.invariant (fun system => system.pc = .finished → system.scheduler.running = false) run
    (by intro none; cases none) ?_
  intro state operation after reports _ stopped step left
  cases operated_of_step step with
  | @moves action events _ moved =>
      have cleared : state.scheduler.running = false → after.scheduler.running = false :=
        fun cleared => (stopped_moved cleared moved).2
      cases moved with
      | leaves pc stopped => exact stopped
      | concludes pc => simp at left
      | @settles away component context outcome reply pc =>
          have settled := state.settled enforced away context outcome reply
          generalize state.settle enforced away context outcome reply = last at settled left ⊢
          cases settled <;> cases left
      | signals signalled _ =>
          refine cleared (stopped ?_)
          dsimp only at left
          split at left
          · cases pc : state.pc <;> simp [pc, Pc.notify] at left ⊢
          · exact left
      | registers registered when _ =>
          refine cleared (stopped ?_)
          dsimp only at left
          split at left
          · cases pc : state.pc <;> simp [pc, Pc.notify] at left ⊢
          · exact left
      | storesStop => rfl
      | notifiesStop _ =>
          refine cleared (stopped ?_)
          cases pc : state.pc <;> simp [pc, Pc.notify] at left ⊢
      | selfSignals _ => exact cleared (stopped left)
      | elapses _ _ => exact cleared (stopped left)
      | _ => cases left
  | adds _ _ _ => exact stopped left
  | equips _ _ _ => exact stopped left
  | snapshots _ => exact stopped left

/-- After its last return a node that is not added again is never dispatched again; it
stays in flight until it is retired, and from then on it is not queued.  The run thread
leaves its loop only after `stop()` was called or after a retirement that left no node live. -/
theorem retirement_permanent
    (run : (hostMachine κ enforced).Run AddsAtHome (System.start .new clock) trace system) :
    (∀ {before nodeId returned after}, trace = before ++ .event (.returned nodeId returned) :: after →
      returned.Ends → (∀ budgetClass, .added nodeId budgetClass ∉ after) →
      .event (.dispatched nodeId) ∉ after ∧
      (.event (.retired nodeId) ∈ after → nodeId ∉ system.scheduler.state.readyQueue) ∧
      (.event (.retired nodeId) ∉ after → system.pc.inFlight = some nodeId)) ∧
    (system.pc = .finished → StopCalled trace system ∨ StoppedItself trace) := by
  refine ⟨?_, fun left => cleared_host run (finished_host run left)⟩
  intro before nodeId returned after split ends once
  refine ⟨not_dispatched_again run split ends once, ?_, ?_⟩
  · intro retired queued
    have live : Live nodeId trace := (mem_readyFlags_host run).mp ((consistent_host run).queueFlag nodeId queued)
    rw [split] at live
    exact not_live_of_retired once retired live
  · intro unretired
    rcases owes_retirement run ends before _ after split rfl with ⟨_, retired, rfl⟩ | ending
    · exact absurd retired unretired
    · exact ending.inFlight

/-- A node is added, signalled and dispatched. -/
def dispatchNode : List (Operation Unit) :=
  [.addNode "n" .normal, .addComponent () "n", .move (.signalReady "n")] ++ List.replicate 6 (.move .run)

/-- The node finishes, is retired, and the run thread leaves its loop. -/
def finishNode : List (Operation Unit) :=
  dispatchNode ++ [.move (.processReturns ⟨(), 0, false, 0, .result .finished⟩)] ++
    List.replicate 5 (.move .run)

theorem retirement_permanent_finishNode :
    "n" ∉ ((hostMachine Unit true).played (System.start .new 0) finishNode).scheduler.state.readyQueue ∧
      (StopCalled ((hostMachine Unit true).reported (System.start .new 0) finishNode)
          ((hostMachine Unit true).played (System.start .new 0) finishNode) ∨
        StoppedItself ((hostMachine Unit true).reported (System.start .new 0) finishNode)) := by
  have run := (hostMachine Unit true).run_played
    (show (hostMachine Unit true).Permits AddsAtHome (System.start .new 0) finishNode by decide) (by decide)
  have split : (hostMachine Unit true).reported (System.start .new 0) finishNode =
      [.added "n" .normal, .event (.signalled "n" true), .event (.tested true), .event (.tested true),
        .popped "n", .event (.dispatched "n")] ++ .event (.returned "n" (.result .finished)) ::
      [.event (.retired "n"), .event .stoppedItself, .event (.tested false), .event (.tested false)] := by
    decide
  have kept := (retirement_permanent run).1 split (.inr rfl) (by intro budgetClass; simp)
  exact ⟨kept.2.1 (by simp), (retirement_permanent run).2 rfl⟩

/-- The node is signalled while it executes, and finishes. -/
def signalThenFinish : List (Operation Unit) :=
  dispatchNode ++ [.move (.signalReady "n"),
    .move (.processReturns ⟨(), 0, false, 0, .result .finished⟩)]

/-- The only node is retired, and another one is added before the run thread looks again. -/
def addAfterLast : List (Operation Unit) :=
  dispatchNode ++ [.move (.processReturns ⟨(), 0, false, 0, .result .finished⟩), .move .run,
    .addNode "m" .normal, .addComponent () "m"] ++ List.replicate 4 (.move .run)

/-- A node may be queued between its last return and its retirement, and a node that
is added after the last retirement is left behind. -/
theorem retirement_not_at_once :
    (¬ ∀ {trace before after : List Report} {nodeId : NodeId} {returned : Returned} {system : System Unit},
      (hostMachine Unit true).Run AddsAtHome (System.start .new 0) trace system →
      trace = before ++ .event (.returned nodeId returned) :: after → returned.Ends →
      (∀ budgetClass, .added nodeId budgetClass ∉ after) → nodeId ∉ system.scheduler.state.readyQueue) ∧
    (¬ ∀ {trace : List Report} {system : System Unit},
      (hostMachine Unit true).Run AddsAtHome (System.start .new 0) trace system → system.pc = .finished →
      StopCalled trace system ∨ ∀ nodeId, ¬ Live nodeId trace) := by
  constructor
  · intro claim
    have run := (hostMachine Unit true).run_played
      (show (hostMachine Unit true).Permits AddsAtHome (System.start .new 0) signalThenFinish by decide)
      (by decide)
    have split : (hostMachine Unit true).reported (System.start .new 0) signalThenFinish =
        [.added "n" .normal, .event (.signalled "n" true), .event (.tested true), .event (.tested true),
          .popped "n", .event (.dispatched "n"), .event (.signalled "n" true)] ++
        .event (.returned "n" (.result .finished)) :: [] := by
      decide
    exact claim run split (.inr rfl) (by simp) (by decide)
  · intro claim
    have run := (hostMachine Unit true).run_played
      (show (hostMachine Unit true).Permits AddsAtHome (System.start .new 0) addAfterLast by decide) (by decide)
    rcases claim run rfl with (pending | returned) | none
    · exact absurd pending (by decide)
    · exact absurd returned (by decide)
    · exact none "m" ((mem_readyFlags_host run).mp (by decide))

end Flowd
