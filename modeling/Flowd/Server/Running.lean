import Flowd.Server.Lifecycle

namespace Flowd.Server

open Transition

/-! Whether the runtime knows which network is running. -/

namespace FlowdServer

variable (server : FlowdServer) (instantiate : String → ProcPorts → Except StartFailure Unit)

/-- While a network runs, the status names the graph that was started last. -/
def Knows : Prop := server.runtime.status.running = true → server.started = some server.runtime.status.graph

/-- A section does not make the status name another graph than the running one. -/
def SectionAligned (work : Section) : Prop :=
  (∀ graph, work.Points server.runtime graph → server.runtime.status.running = true → server.started = some graph) ∧
  ∀ graph target, work = .start graph target → server.Starts instantiate target →
    graph = (server.objects target).properties.name

/-- Nor does a stop that fails. -/
def StopAligned (late : Late) (watchdogAllExited : Bool) : Prop :=
  server.runtime.TimesOut late watchdogAllExited → server.started = some server.runtime.graph

end FlowdServer

namespace Life

variable {instantiate : String → ProcPorts → Except StartFailure Unit} {life after : Life} {events : List Event}

def Aligned (instantiate : String → ProcPorts → Except StartFailure Unit) (life : Life) (move : Move) : Prop :=
  (∀ work, life.task move = some work → life.server.SectionAligned instantiate work) ∧
    (∀ number late, move = .teardown number late → life.server.StopAligned late false) ∧
    ∀ late, move = .watchdogStop late → life.server.StopAligned late true

/-- A section that is asked for keeps what the runtime knows just if it is aligned. -/
theorem work_knows_iff {work : Section} (knows : life.server.Knows)
    (done : life.work instantiate work = some (after, events)) :
    after.server.Knows ↔ life.server.SectionAligned instantiate work := by
  unfold FlowdServer.SectionAligned
  by_cases start : ∃ graph target, work = .start graph target
  · obtain ⟨graph, target, same⟩ := start
    subst same
    rcases start_work_cases done with ⟨fails, failed⟩ | ⟨starts, launch⟩
    · have kept : after.server.Knows := by
        unfold FlowdServer.Knows
        rw [failed.status, failed.started]
        exact knows
      refine iff_of_true kept ⟨fun graph points => (nomatch points), ?_⟩
      intro other found same starts
      cases same
      exact absurd starts fails
    · obtain ⟨inports, server⟩ := launch.server
      have named : after.server.Knows ↔ graph = (life.server.objects target).properties.name := by
        rw [server]
        constructor
        · intro knows
          exact (Option.some.inj (knows rfl)).symm
        · intro same _
          exact congrArg some same.symm
      rw [named]
      constructor
      · intro same
        refine ⟨fun graph points => (nomatch points), ?_⟩
        intro other found equal _
        cases equal
        exact same
      · intro aligned
        exact aligned.2 graph target rfl starts
  · have plain : ∀ graph target, work ≠ .start graph target := fun graph target same => start ⟨graph, target, same⟩
    have facts := plain_cases done plain
    have noStart : ∀ graph target, work = .start graph target → life.server.Starts instantiate target →
        graph = (life.server.objects target).properties.name := fun graph target same => absurd same (plain graph target)
    rw [and_iff_left noStart, FlowdServer.Knows, facts.threads.started]
    rcases facts.status with ⟨graph, points, running, moved⟩ | ⟨elsewhere, same | stopped⟩
    · rw [running, moved]
      constructor
      · intro known other pointsOther runs
        cases points.1.symm.trans pointsOther.1
        exact known runs
      · intro aligned runs
        exact aligned graph points runs
    · rw [same]
      exact iff_of_true knows fun graph points => absurd points (elsewhere graph)
    · rw [stopped]
      exact iff_of_true (fun runs => nomatch runs) fun graph points => absurd points (elsewhere graph)

theorem stop_knows_iff {number : Option Nat} {late : Late} {watchdogAllExited : Bool}
    (done : life.stop number late watchdogAllExited = some (after, events)) :
    after.server.Knows ↔ life.server.StopAligned late watchdogAllExited := by
  obtain ⟨_, same, _⟩ := stop_cases done
  subst same
  unfold FlowdServer.Knows FlowdServer.StopAligned
  rcases life.server.runtime.stop_status late watchdogAllExited with ⟨timesOut, _, running, graph⟩ | ⟨inTime, _, stopped⟩
  · simp only [running, graph, timesOut, forall_const]
  · simp only [stopped, inTime]
    simp

/-- Each move that is not aligned makes the runtime forget which network runs, and no
other does. -/
theorem step_knows_iff {move : Move} (knows : life.server.Knows)
    (done : life.step instantiate move = some (after, events)) : after.server.Knows ↔ life.Aligned instantiate move := by
  unfold Aligned
  rcases step_cases done with ⟨idle, ⟨request, isRequest⟩, same, _⟩ | ⟨work, asked, worked⟩ |
    ⟨number, late, isTeardown, _, stopped⟩ | ⟨late, isWatchdog, stopped⟩ | ⟨attempt, isFinish, same, _⟩
  · subst same isRequest
    rw [idle]
    simp [knows]
  · rw [work_knows_iff knows worked, asked]
    cases move with
    | request request => simp
    | work other => simp
    | _ => cases asked
  · subst isTeardown
    rw [stop_knows_iff stopped]
    simp [task]
  · subst isWatchdog
    rw [stop_knows_iff stopped]
    simp [task]
  · subst same isFinish
    simp [task, knows]

/-- As long as all moves are aligned, the runtime knows which network runs; a network:stop
then gets to `Runtime::stop` just for that one. -/
theorem runtime_knows {components : List ComponentInfo} {secrets : HashMap String (String × AccessLevel)}
    {loaded : HashMap String Stored.Graph} {active : String} {trace : List Event}
    (run : (machine instantiate).Run (Aligned instantiate) (fresh (load components secrets loaded active)) trace life) :
    life.server.Knows ∧
      (∀ move after events, life.step instantiate move = some (after, events) →
        (after.server.Knows ↔ life.Aligned instantiate move)) ∧
      ∀ secret graph, life.server.forbids secret graph .readWrite = false →
        (life.server.getGraphByName graph).isSome = true →
          (life.server.planStop secret graph = .proceed (.acknowledge graph true) ↔
            life.server.runtime.status.running = true ∧ life.server.started = some graph) := by
  have knows : life.server.Knows := by
    apply run.invariant fun life => life.server.Knows
    · intro runs
      cases runs
    · intro state action next events aligned knows step
      exact (step_knows_iff knows step).mpr aligned
  refine ⟨knows, fun move after events step => step_knows_iff knows step, ?_⟩
  intro secret graph allowed found
  obtain ⟨target, found⟩ := Option.isSome_iff_exists.mp found
  unfold FlowdServer.planStop FlowdServer.addressed FlowdServer.guarded
  simp only [allowed, found, Bool.false_eq_true, if_false]
  by_cases named : life.server.runtime.status.graph = graph
  · subst named
    simp only [ne_eq, not_true_eq_false, if_false, Plan.proceed.injEq, Section.acknowledge.injEq, true_and]
    exact ⟨fun runs => ⟨runs, knows runs⟩, fun both => both.1⟩
  · simp only [ne_eq, named, not_false_eq_true, if_true, reduceCtorEq, false_iff, not_and]
    intro runs started
    exact named (Option.some.inj ((knows runs).symm.trans started))

theorem runtime_knows_started :
    let life := (machine constructAny).played (fresh twoGraphs) [.request (.start none "main")]
    life.server.Knows ∧
      (∀ move after events, life.step constructAny move = some (after, events) →
        (after.server.Knows ↔ life.Aligned constructAny move)) ∧
      ∀ secret graph, life.server.forbids secret graph .readWrite = false →
        (life.server.getGraphByName graph).isSome = true →
          (life.server.planStop secret graph = .proceed (.acknowledge graph true) ↔
            life.server.runtime.status.running = true ∧ life.server.started = some graph) := by
  have aligned : (fresh twoGraphs).Aligned constructAny (.request (.start none "main")) := by
    refine ⟨?_, fun _ _ same => (nomatch same), fun _ same => (nomatch same)⟩
    intro work asked
    cases asked
    refine ⟨fun _ points => (nomatch points.1), ?_⟩
    intro graph target same _
    cases same
    rfl
  exact runtime_knows ((machine constructAny).run_played ⟨aligned, trivial⟩ rfl)

/-- While "main" runs, a client turns debug mode on for "other". -/
theorem runtime_confused : ∃ trace life, (machine constructAny).Run anyMove (fresh twoGraphs) trace life ∧
    life.server.started = some "main" ∧ ¬ life.server.Knows ∧
      life.server.planStop none "other" = .proceed (.acknowledge "other" true) := by
  have run := (machine constructAny).run_played (Machine.permits_any (fresh twoGraphs)
    [.request (.start none "main"), .request (.debug none "other" true)]) rfl
  refine ⟨_, _, run, rfl, ?_, rfl⟩
  intro knows
  exact absurd (knows rfl) (by decide)

end Life

end Flowd.Server
