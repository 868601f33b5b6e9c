import Flowd.Component.Cron
import Flowd.Component.Site
import Flowd.Scheduler.Wakeup

namespace Flowd

/-! Cron under the scheduler: every time of the schedule is served once, in order and never early. -/

open Transition

namespace Cron

/-- What all the turns did. -/
def done (history : List (Turn State WhenPort TickPort Event)) : List Event := history.flatMap Turn.log

/-- Where the node is, there is as much of a deadline, a fired timer and a request for a deadline as the
component needs, and a node with a fired timer is queued. -/
inductive Stands (epoch : DateTime) (state : State) (taken : List FbpMessage)
    (history : List (Turn State WhenPort TickPort Event)) : Hold → Prop where
  | home {token fired deadline : Option Instant} {queued : Bool} (phase : Phase epoch taken (done history) state token)
      (sole : Sole token deadline fired none) (waiting : fired.isSome = true → queued = true) :
      Stands epoch state taken history ⟨.home fired, deadline, queued⟩
  | entering {token fired deadline : Option Instant} {queued : Bool}
      (phase : Phase epoch taken (done history) state token) (sole : Sole token deadline fired none) :
      Stands epoch state taken history ⟨.entering fired, deadline, queued⟩
  | processing {token deadline : Option Instant} {context : NodeContext} {queued : Bool}
      (phase : Phase epoch taken (done history) state token)
      (sole : Sole token deadline context.timerFiredAt context.wakeAt) :
      Stands epoch state taken history ⟨.processing context, deadline, queued⟩
  | leaving {token deadline : Option Instant} {context : NodeContext} {queued : Bool}
      (phase : Phase epoch taken (done history) state token) (unmarked : context.timerFiredAt = none)
      (sole : Sole token deadline none context.wakeAt) :
      Stands epoch state taken history ⟨.leaving context false, deadline, queued⟩
  | retiring {deadline : Option Instant} {context : NodeContext} {queued : Bool} (ended : Over (done history) history) :
      Stands epoch state taken history ⟨.leaving context true, deadline, queued⟩
  | gone {deadline : Option Instant} {queued : Bool} (ended : Over (done history) history) :
      Stands epoch state taken history ⟨.gone, deadline, queued⟩
  | lost {deadline : Option Instant} {queued : Bool} : Stands epoch state taken history ⟨.lost, deadline, queued⟩

/-- The invariant of Cron and its node. -/
structure Holds (engine : Engine) (epoch : DateTime) (hold : Hold) (state : State) (ports : Call WhenPort TickPort)
    (history : List (Turn State WhenPort TickPort Event)) : Prop where
  account : Account engine ports (done history)
  stands : Stands epoch state (ports.taken .when) history hold
  finishes : ∀ before turn after, history = before ++ turn :: after → turn.returned = .result .finished →
    turn.call.Stopped FbpMessage.textOrUtf8 ∨ Declines engine (turn.call.taken .when) ∨
      Served (done (before ++ [turn]))

variable {engine : Engine} {epoch : DateTime} {hold next : Hold} {state : State} {ports : Call WhenPort TickPort}
variable {history : List (Turn State WhenPort TickPort Event)} {now : Instant} {taken : List FbpMessage}

theorem Stands.passes (stands : Stands epoch state taken history hold) (passes : Passes now hold next) :
    Stands epoch state taken history next := by
  cases passes with
  | rests kept =>
      cases stands with
      | home phase sole waiting => exact .home phase sole fun marked => kept (waiting marked)
      | entering phase sole => exact .entering phase sole
      | processing phase sole => exact .processing phase sole
      | leaving phase unmarked sole => exact .leaving phase unmarked sole
      | retiring ended => exact .retiring ended
      | gone ended => exact .gone ended
      | lost => exact .lost
  | fires due =>
      cases stands with
      | home phase sole waiting =>
          cases sole with
          | deadline => exact .home phase (.fired _) fun _ => rfl
  | dispatched =>
      cases stands with
      | home phase sole _ => exact .entering phase sole
  | enters funded asleep =>
      cases stands with
      | entering phase sole =>
          rw [← asleep] at sole
          exact .processing phase sole
  | @checksIn context deadline queued later =>
      cases stands with
      | leaving phase unmarked sole =>
          rw [unmarked]
          refine .home phase ?_ fun marked => by cases marked
          generalize context.wakeAt = asked at sole
          cases sole with
          | nothing => exact .nothing
          | deadline when => exact .deadline when
          | asked when => exact .deadline when
  | retires =>
      cases stands with
      | retiring ended => exact .gone ended

theorem done_snoc (history : List (Turn State WhenPort TickPort Event)) (turn : Turn State WhenPort TickPort Event) :
    done (history ++ [turn]) = done history ++ turn.log := by
  simp [done]

/-- Where a call leaves the node. -/
theorem Closes.stands {turn : Turn State WhenPort TickPort Event} {deadline wakeAt fired : Option Instant}
    {place : Place} {queued : Bool} (closes : Closes engine epoch deadline wakeAt (done history) history turn)
    (leaves : Leaves turn.returned (turn.context.wakeAt.or wakeAt)
      (if turn.context.timerFiredAt.isNone then none else fired) place) :
    Stands epoch turn.component (turn.call.taken .when) (history ++ [turn]) ⟨place, deadline, queued⟩ := by
  obtain ⟨_, ends, stays, _⟩ := closes
  rw [← done_snoc] at ends stays
  cases leaves with
  | lost => exact .lost
  | ends why _ => exact .retiring (ends why)
  | rests going wake mark =>
      obtain ⟨unmarked, token, phase, sole⟩ := stays going
      rw [unmarked] at mark
      rw [← wake] at sole
      exact .leaving phase mark sole
  | again going wake mark _ =>
      obtain ⟨unmarked, token, phase, sole⟩ := stays going
      rw [unmarked] at mark
      rw [← wake] at sole
      refine .processing phase ?_
      rw [mark]
      exact sole

/-- The invariant is kept by a call. -/
theorem Holds.turn {context : NodeContext} {clock : Clock} {place : Place} {deadline : Option Instant} {queued : Bool}
    (holds : Holds engine epoch ⟨.processing context, deadline, queued⟩ state ports history)
    (past : ∀ firedAt, context.timerFiredAt = some firedAt → firedAt ≤ clock.now)
    (leaves : Leaves (process engine epoch state ports context clock).returned
      ((process engine epoch state ports context clock).context.wakeAt.or context.wakeAt)
      (if (process engine epoch state ports context clock).context.timerFiredAt.isNone then none
        else context.timerFiredAt) place) :
    Holds engine epoch ⟨place, deadline, queued⟩ (process engine epoch state ports context clock).component
      (process engine epoch state ports context clock).call
      (history ++ [process engine epoch state ports context clock]) := by
  obtain ⟨account, stands, finishes⟩ := holds
  cases stands with
  | processing phase sole =>
      have closes : Closes engine epoch deadline context.wakeAt (done history) history
          (process engine epoch state ports context clock) := process_closes account phase sole past
      refine ⟨by rw [done_snoc]; exact closes.account, closes.stands leaves, fun before turn after split finished => ?_⟩
      rcases List.eq_nil_or_concat after with rfl | ⟨rest, last, rfl⟩
      · obtain ⟨rfl, same⟩ := List.append_inj' split rfl
        cases same
        rw [done_snoc]
        exact closes.finishes finished
      · rw [List.concat_eq_append, ← List.cons_append, ← List.append_assoc] at split
        obtain ⟨earlier, _⟩ := List.append_inj' split rfl
        exact finishes before turn rest earlier finished

/-- What others do to the edges makes no difference. -/
theorem Holds.idle {later : Call WhenPort TickPort} (holds : Holds engine epoch hold state ports history)
    (idle : Call.Idle ports later) : Holds engine epoch hold state later history := by
  refine ⟨holds.account.congr (idle.taken .when) (idle.sent .tick), ?_, holds.finishes⟩
  rw [idle.taken]
  exact holds.stands

theorem watch (engine : Engine) (epoch : DateTime) :
    Watch (component engine epoch) False fun _ hold state ports history =>
      Holds engine epoch hold state ports history := by
  refine ⟨?_, ?_, ?_, ?_, ?_⟩
  · intro now hold next state ports history holds passes
    exact ⟨holds.account, holds.stands.passes passes, holds.finishes⟩
  · intro never
    cases never
  · intro now later hold state ports history holds _
    exact holds
  · intro now hold state ports next history holds idle
    exact holds.idle idle
  · intro now context deadline queued state ports history place later holds _ past _ leaves
    exact holds.turn past leaves

/-- No `Scheduler::wake_at` for the node but its own. -/
def Unwoken (nodeId : NodeId) (_ : Site (component engine epoch)) : Happening (component engine epoch) → Prop
  | .move (.wakeAt other _) => other ≠ nodeId
  | _ => True

instance (nodeId : NodeId) (site : Site (component engine epoch)) : DecidablePred (Unwoken nodeId site) := fun
  | .move (.wakeAt other _) => inferInstanceAs (Decidable (other ≠ nodeId))
  | .move .run | .move .wakeUp | .move (.processReturns _) | .move .selfSignalReady | .move (.selfWakeAt _)
  | .move (.signalReady _) | .move .storeStop | .move .notifyStop | .move (.elapse _) | .feed .. | .close _
  | .signal _ | .drain .. | .process .. => inferInstanceAs (Decidable True)

/-- The times are strictly increasing as far as they go. -/
def Increasing (times : Times) : Prop :=
  ∀ index early late, times index = some early → times (index + 1) = some late → early < late

/-- What Cron promises of a state. -/
structure Punctual (engine : Engine) (epoch : DateTime) (nodeId : NodeId) (system : System Unit)
    (ports : Call WhenPort TickPort) (history : List (Turn State WhenPort TickPort Event)) : Prop where
  /-- The ticks are the packets on TICK, their times are the first ones of the schedule that WHEN gave, and none
  was pushed before its time. -/
  account : Account engine ports (done history)
  once : ∀ times, (done history).head? = some (.scheduled times) → Increasing times →
    ((ticks (done history)).map Prod.fst).Pairwise (· < ·)
  outstanding : system.pc.inFlight ≠ some nodeId → ∀ times next, (done history).head? = some (.scheduled times) →
    times (ticks (done history)).length = some next →
    (∀ turn ∈ history, ¬ turn.call.Stopped FbpMessage.textOrUtf8) →
    (∃ when, system.scheduler.state.timerLatestByNode.lookup nodeId = some when) ∨
      nodeId ∈ system.scheduler.state.readyQueue
  finishes : ∀ before turn after, history = before ++ turn :: after → turn.returned = .result .finished →
    turn.call.Stopped FbpMessage.textOrUtf8 ∨ Declines engine (turn.call.taken .when) ∨
      Served (done (before ++ [turn]))

theorem Account.once {log : List Event} {times : Times} (account : Account engine ports log)
    (begins : log.head? = some (.scheduled times)) (increasing : Increasing times) :
    ((ticks log).map Prod.fst).Pairwise (· < ·) := by
  have served := account.served times begins
  have entry (index : Nat) (there : index < (ticks log).length) : times index = some ((ticks log)[index]).1 := by
    have same := congrArg (·[index]?) served
    simp only [List.getElem?_map, List.getElem?_eq_getElem there, List.getElem?_range there, Option.map_some,
      Option.some.injEq] at same
    exact same.symm
  rw [← List.isChain_iff_pairwise, List.isChain_iff_getElem]
  intro index there
  rw [List.length_map] at there
  rw [List.getElem_map, List.getElem_map]
  exact increasing index _ _ (entry index (Nat.lt_of_succ_lt there)) (entry (index + 1) there)

theorem Stands.home_timed {system : System Unit} {nodeId : NodeId} {times : Times} {due : DateTime}
    (stands : Stands epoch state taken history (system.hold nodeId)) (home : system.pc.inFlight ≠ some nodeId)
    (begins : (done history).head? = some (.scheduled times))
    (outstanding : times (ticks (done history)).length = some due)
    (unstopped : ∀ turn ∈ history, ¬ turn.call.Stopped FbpMessage.textOrUtf8) :
    (∃ when, system.scheduler.state.timerLatestByNode.lookup nodeId = some when) ∨
      nodeId ∈ system.scheduler.state.readyQueue := by
  rw [system.hold_home home] at stands
  unfold SchedulerState.placeHome at stands
  generalize system.scheduler.state.nodes.lookup nodeId = found at stands
  generalize system.scheduler.state.timerLatestByNode.lookup nodeId = deadline at stands ⊢
  cases found with
  | none =>
      cases stands with
      | gone ended =>
          obtain ⟨turn, member, stopped⟩ := ended times due begins outstanding
          exact absurd stopped (unstopped turn member)
  | some context =>
      dsimp only at stands
      generalize context.timerFiredAt = fired at stands
      cases stands with
      | home phase sole waiting =>
          cases sole with
          | deadline when => exact .inl ⟨when, rfl⟩
          | fired when => exact .inr (of_decide_eq_true (waiting rfl))
          | nothing =>
              -- there is a schedule, and a time of it is left
              cases phase with
              | unread _ empty =>
                  rw [empty] at begins
                  cases begins
              | exhausted found last =>
                  rw [begins] at found
                  cases found
                  rw [outstanding] at last
                  cases last

theorem Holds.start {place : Place} {scheduler : Scheduler Unit} {clock : Instant} {inCapacity : WhenPort → Nat}
    {outCapacity : TickPort → Nat} (queued : Bool) (fresh : place = .home none ∨ place = .gone) :
    Holds engine epoch ⟨place, none, queued⟩ new
      (Site.start scheduler clock inCapacity outCapacity : Site (component engine epoch)).ports [] := by
  refine ⟨⟨rfl, .inl rfl, fun _ begins => (by cases begins), fun _ none => absurd none List.not_mem_nil⟩, ?_, ?_⟩
  · rcases fresh with rfl | rfl
    · exact .home (.unread rfl rfl) .nothing fun marked => by cases marked
    · exact .gone .nothing
  · intro before turn after split
    cases before <;> cases split

/-- In every run in which nobody else wakes the node by the clock: whatever the schedule, the clock, the signals,
the capacity of TICK and the downstream pops. -/
theorem keeps_time {enforced : Bool} {nodeId : NodeId} {scheduler : Scheduler Unit} {clock : Instant}
    {inCapacity : WhenPort → Nat} {outCapacity : TickPort → Nat} {site : Site (component engine epoch)}
    {trace : List Returned} (built : Built scheduler) (equipped : Equipped scheduler.state)
    (untimed : scheduler.state.timerLatestByNode.lookup nodeId = none)
    (run : (siteMachine (component engine epoch) nodeId enforced).Run (Unwoken nodeId)
      (.start scheduler clock inCapacity outCapacity) trace site) :
    Punctual engine epoch nodeId site.system site.ports site.history := by
  obtain ⟨_, _, holds⟩ := (watch engine epoch).run (fun _ _ other => absurd rfl other) built equipped
    (fun place fresh => by rw [untimed]; exact Holds.start _ fresh) run
  exact ⟨holds.account, fun times begins increasing => holds.account.once begins increasing,
    fun home times due begins outstanding unstopped => holds.stands.home_timed home begins outstanding unstopped,
    holds.finishes⟩

/-- An engine that knows one expression: the first of January of 2030 and 2031, in UTC. -/
def newYears : Engine where
  Schedule := List DateTime
  fromStr expression :=
    if expression = "0 0 0 1 1 * 2030-2031" then some [1893456000000000000, 1924992000000000000] else none
  upcoming schedule now index := (schedule.filter (now < ·))[index]?

/-- One second before 2030. -/
def lastSecond : DateTime := 1893455999000000000

/-- The schedule is read and the node called until it has nothing to do; a signal dispatches it too early, then its
timer fires. -/
def newYear : List (Happening (component newYears lastSecond)) :=
  [.feed WhenPort.when (.text "0 0 0 1 1 * 2030-2031")] ++ dispatchOne.map .move ++
    [.process (fun _ => []) [1000, 2000, 3000] 0, .process (fun _ => []) [] 0, .move .run] ++
    dispatchOne.map .move ++ [.process (fun _ => []) [] 0, .move .run, .move (.elapse 2000000000)] ++
    List.replicate 6 (.move .run) ++ [.process (fun _ => []) [] 0]

def newYearSite : Site (component newYears lastSecond) :=
  (siteMachine (component newYears lastSecond) "n" false).played (.start oneNode 0 (fun _ => 1) (fun _ => 1)) newYear

theorem keeps_time_newYear :
    ticks (done newYearSite.history) = [(1893456000000000000, 1893456001000000000)] ∧
      Punctual newYears lastSecond "n" newYearSite.system newYearSite.ports newYearSite.history := by
  refine ⟨by decide +kernel, ?_⟩
  exact keeps_time oneNode_built oneNode_equipped rfl
    ((siteMachine (component newYears lastSecond) "n" false).run_played (by decide +kernel) (by decide +kernel))

end Cron

end Flowd
