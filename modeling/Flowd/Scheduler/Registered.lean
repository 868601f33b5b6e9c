import Flowd.Scheduler.Timers

namespace Flowd

/-! What the scheduler answers about a node depends on whether the node is in `nodes`, and a
node that executes is not, unless it has been added again. -/

open Transition

variable {κ : Type} {enforced : Bool} {system : System κ} {trace : List Report} {nodeId : NodeId}
variable {clock : Instant}

/-- The scheduler treats the node as registered: a deadline for it is accepted and stays in
force until another one, its expiry or the retirement of the node; there is a waker for
it; and it is listed and measured. -/
structure Registered (enforced : Bool) (nodeId : NodeId) (system : System κ) : Prop where
  accepts : ∀ when, (system.scheduler.wakeAt nodeId when).2 = true
  keeps : ∀ {when next reports later last},
    (hostMachine κ enforced).step system (.move (.wakeAt nodeId when)) = some (next, reports) →
    (hostMachine κ enforced).Run anyMove next later last →
    (∀ report ∈ later, report.force nodeId (some when) = some when) →
    last.scheduler.state.timerLatestByNode.lookup nodeId = some when
  wakes : (system.scheduler.createWaker nodeId).isSome
  listed : nodeId ∈ system.scheduler.nodeIds
  measured : ∀ now, nodeId ∈ (system.scheduler.metricsSnapshot now).2.timeSinceLastExecution

theorem foldl_force {reports : List Report} {when : Instant}
    (kept : ∀ report ∈ reports, report.force nodeId (some when) = some when) :
    reports.foldl (Report.force nodeId) (some when) = some when := by
  induction reports with
  | nil => rfl
  | cons report rest ih =>
      rw [List.foldl_cons, kept report List.mem_cons_self]
      exact ih fun report member => kept report (List.mem_cons_of_mem _ member)

theorem mem_snapshot {scheduler : Scheduler κ} {now : Instant} :
    nodeId ∈ (scheduler.metricsSnapshot now).2.timeSinceLastExecution ↔ nodeId ∈ scheduler.state.nodes := by
  have mapped : ∀ change : NodeContext → Nat, (scheduler.state.nodes.mapValues change).lookup nodeId =
      (scheduler.state.nodes.lookup nodeId).map change := fun change => HashMap.lookup_mapValues _ _ _
  rw [← AList.lookup_isSome, ← AList.lookup_isSome]
  simp [Scheduler.metricsSnapshot, mapped]

theorem registered_of_home
    (run : (hostMachine κ enforced).Run anyMove (System.start .new clock) trace system)
    (home : nodeId ∈ system.scheduler.state.nodes) : Registered enforced nodeId system := by
  have accepts : ∀ when, system.scheduler.wakeAt nodeId when =
      ({ system.scheduler with state := system.scheduler.state.registerTimer nodeId when }, true) := by
    intro when
    rcases system.scheduler.wakeAt_eq nodeId when with ⟨absent, _⟩ | ⟨_, same⟩
    · exact absurd home absent
    · exact same
  refine ⟨fun when => by rw [accepts], ?_, by simp [Scheduler.createWaker, home], home,
    fun now => mem_snapshot.mpr home⟩
  intro when next reports later last step onwards kept
  have registered : next.scheduler.state.timerLatestByNode.lookup nodeId = some when := by
    cases operated_of_step step with
    | moves moved =>
        cases moved with
        | registers _ _ _ => simp [accepts, SchedulerState.registerTimer]
  have snoc : (hostMachine κ enforced).Run anyMove (System.start .new clock) (trace ++ reports) next :=
    run.snoc trivial step
  rw [latest_host (snoc.append onwards), inForce, List.foldl_append]
  have before : (trace ++ reports).foldl (Report.force nodeId) none = some when :=
    (latest_host snoc nodeId).symm.trans registered
  rw [before]
  exact foldl_force kept

/-- In every reachable state a node that was added and not retired is registered exactly when
it is in `nodes`: when its `process()` is not in flight, or when it has been added again since
it was dispatched. -/
theorem registered_iff_home
    (run : (hostMachine κ enforced).Run anyMove (System.start .new clock) trace system)
    (live : Live nodeId trace) :
    (Registered enforced nodeId system ↔ nodeId ∈ system.scheduler.state.nodes) ∧
    (nodeId ∈ system.scheduler.state.nodes ↔
      system.pc.inFlight ≠ some nodeId ∨ AddedSince (.event (.dispatched nodeId)) nodeId trace) :=
  ⟨⟨fun registered => registered.listed, registered_of_home run⟩, mem_nodes_host run live⟩

/-- The node is dispatched and added again while it executes. -/
def readdExecuting : List (Operation Unit) := dispatchNode ++ [.addNode "n" .normal]

theorem registered_iff_home_executing :
    ¬ Registered true "n" ((hostMachine Unit true).played (System.start .new 0) dispatchNode) ∧
      Registered true "n" ((hostMachine Unit true).played (System.start .new 0) readdExecuting) := by
  have executes := (hostMachine Unit true).run_played
    ((hostMachine Unit true).permits_any (System.start .new 0) dispatchNode) (by decide)
  have readded := (hostMachine Unit true).run_played
    ((hostMachine Unit true).permits_any (System.start .new 0) readdExecuting) (by decide)
  constructor
  · intro registered
    have home := (registered_iff_home executes ((mem_readyFlags_host executes).mp (by decide))).1.mp registered
    exact absurd home (by decide)
  · exact (registered_iff_home readded ((mem_readyFlags_host readded).mp (by decide))).1.mpr (by decide)

/-- A node whose `process()` is in flight is refused a deadline. -/
theorem executing_not_registered :
    ¬ ∀ {trace : List Report} {nodeId : NodeId} {system : System Unit},
      (hostMachine Unit true).Run anyMove (System.start .new 0) trace system → Live nodeId trace →
      system.lockFree = true → Registered true nodeId system := by
  intro claim
  have run := (hostMachine Unit true).run_played
    ((hostMachine Unit true).permits_any (System.start .new 0) dispatchNode) (by decide)
  have live : Live "n" ((hostMachine Unit true).reported (System.start .new 0) dispatchNode) :=
    (mem_readyFlags_host run).mp (by decide)
  have registered := claim run live rfl
  exact absurd (registered.accepts 0) (by decide)

end Flowd
