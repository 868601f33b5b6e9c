import Flowd.Scheduler.Tracked

namespace Flowd

/-! A dispatch calls `process()` within its budget, and both accounts of it agree. -/

open Transition

variable {κ : Type} {enforced : Bool} {system next first last : System κ} {action : Action κ}
variable {events : List Event} {reports trace : List Report} {nodeId : NodeId} {component : κ}
variable {context : NodeContext} {budgetClass : BudgetClass} {operation : Operation κ}

def Event.answer : Event → Option Returned
  | .returned _ result => some result
  | _ => none

def Report.answer : Report → Option Returned
  | .event reported => reported.answer
  | _ => none

def Report.isDispatch : Report → Bool
  | .event (.dispatched _) => true
  | _ => false

/-- The units of a `DidWork` result. -/
def Returned.units : Returned → Option Nat
  | .result (.didWork units) => some units
  | _ => none

theorem answer_moves : (system.pops action ++ system.registrations action ++
    events.map Report.event).filterMap Report.answer = events.filterMap Event.answer := by
  have pops : (system.pops action).filterMap Report.answer = [] := by
    unfold System.pops
    split
    · split <;> simp [Report.answer, List.filterMap_map, Function.comp_def]
    · rfl
  have registrations : (system.registrations action).filterMap Report.answer = [] := by
    unfold System.registrations
    split
    · split <;> simp [Report.answer]
    · split
      · split <;> simp [Report.answer, List.filterMap_map, Function.comp_def]
      · rfl
    · rfl
  simp [pops, registrations, List.filterMap_map, Function.comp_def, Report.answer]

/-- The calls of one dispatch: those that did work, within the budget, and one more. -/
structure Called (budgetClass : BudgetClass) (answers : List Returned) (units : List Nat)
    (final : List Returned) : Prop where
  calls : answers = units.map (fun units => .result (.didWork units)) ++ final
  within : units.length ≤ budgetClass.units
  once : final.length ≤ 1
  idle : ∀ answer ∈ final, answer.units = none

/-- What the outcome says of the calls that did work. -/
structure ExecutionOutcome.Tells (outcome : ExecutionOutcome) (units : List Nat) : Prop where
  executions : outcome.executions = units.length
  workUnits : outcome.workUnits = (units.map (max · 1)).sum

/-- What a dispatch has called so far, by the program point of the run thread. -/
def DispatchLedger (budgetClass : BudgetClass) (answers : List Returned) : Pc κ → Prop
  | .entering _ _ context => context.budgetClass = budgetClass ∧ answers = []
  | .processing _ _ context outcome =>
      ∃ units : List Nat, answers = units.map (fun units => .result (.didWork units)) ∧ outcome.Tells units ∧
        0 < context.remainingBudget ∧ units.length + context.remainingBudget ≤ budgetClass.units
  | .checkingIn _ _ _ outcome =>
      ∃ units final, Called budgetClass answers units final ∧ outcome.Tells units
  | _ => ∃ units final, Called budgetClass answers units final

variable {answers : List Returned}

theorem DispatchLedger.notify {pc : Pc κ} (ledger : DispatchLedger budgetClass answers pc) :
    DispatchLedger budgetClass answers pc.notify := by
  cases pc <;> exact ledger

theorem ExecutionOutcome.Tells.accountWork {outcome : ExecutionOutcome} {units : List Nat}
    (tells : outcome.Tells units) (more : Nat) : (outcome.accountWork more).Tells (units ++ [more]) := by
  constructor
  · simp [ExecutionOutcome.accountWork, tells.executions]
  · simp [ExecutionOutcome.accountWork, tells.workUnits]

/-- Whatever the component leaves in the counter, a call that did work lowers it. -/
theorem NodeContext.accountWork_lowers (context : NodeContext) (left units : Nat) (now : Instant)
    (funded : 0 < context.remainingBudget) :
    (context.accountWork left units now).remainingBudget < context.remainingBudget := by
  simp only [NodeContext.accountWork]
  omega

theorem DispatchLedger.settled {outcome : ExecutionOutcome} {reply : Reply κ}
    (ledger : DispatchLedger budgetClass answers (.processing nodeId component context outcome)) :
    DispatchLedger budgetClass (answers ++ [reply.returned])
      (system.settle enforced nodeId context outcome reply).pc := by
  obtain ⟨units, rfl, tells, funded, within⟩ := ledger
  have called : ∀ answer : Returned, answer.units = none →
      Called budgetClass (units.map (fun units => .result (.didWork units)) ++ [answer]) units [answer] := by
    intro answer idle
    exact ⟨rfl, by omega, by simp, by simpa using idle⟩
  have worked : ∀ more, Called budgetClass
      (units.map (fun units => .result (.didWork units)) ++ [.result (.didWork more)]) (units ++ [more]) [] := by
    intro more
    refine ⟨by simp, ?_, by simp, by simp⟩
    rw [List.length_append, List.length_singleton]
    omega
  unfold System.settle
  dsimp only
  split
  · -- the contract is enforced and the call overran: the thread panics
    cases answer : reply.returned with
    | panicked => exact ⟨units, [.panicked], called _ rfl⟩
    | result result =>
        cases result with
        | didWork more => exact ⟨units ++ [more], [], worked more⟩
        | noWork => exact ⟨units, [.result .noWork], called _ rfl⟩
        | finished => exact ⟨units, [.result .finished], called _ rfl⟩
  · cases answer : reply.returned with
    | panicked => exact ⟨units, [.panicked], called _ rfl, tells.executions, tells.workUnits⟩
    | result result =>
        cases result with
        | noWork => exact ⟨units, [.result .noWork], called _ rfl, tells⟩
        | finished => exact ⟨units, [.result .finished], called _ rfl, tells.executions, tells.workUnits⟩
        | didWork more =>
            dsimp only
            split
            · exact ⟨units ++ [more], [], worked more, tells.accountWork more⟩
            · next unspent =>
                have lowers := context.accountWork_lowers reply.remainingBudget more system.clock funded
                refine ⟨units ++ [more], by simp, tells.accountWork more, Nat.pos_of_ne_zero unspent, ?_⟩
                rw [List.length_append, List.length_singleton]
                dsimp only
                omega

theorem DispatchLedger.moved (ledger : DispatchLedger budgetClass answers system.pc)
    (moved : Moved enforced system action events next) (same : ∀ nodeId, .dispatched nodeId ∉ events) :
    DispatchLedger budgetClass (answers ++ events.filterMap Event.answer) next.pc := by
  cases moved with
  | drains pc =>
      rw [pc] at ledger
      simpa [List.filterMap_map, Function.comp_def, Event.answer, DispatchLedger] using ledger
  | dispatches pc taken => exact absurd (List.mem_singleton_self _) (same _)
  | enters pc =>
      rw [pc] at ledger
      obtain ⟨rfl, rfl⟩ := ledger
      exact ⟨[], rfl, ⟨rfl, rfl⟩, BudgetClass.units_pos _, by simp⟩
  | @concludes away component context outcome pc =>
      rw [pc] at ledger
      obtain ⟨units, final, called, _⟩ := ledger
      have silent : (system.conclude away component context outcome).2.filterMap Event.answer = [] := by
        rcases system.conclude_events away component context outcome with reports | reports | reports <;>
          simp [reports, Event.answer]
      rw [silent, List.append_nil, System.conclude_pc]
      exact ⟨units, final, called⟩
  | settles reply pc =>
      rw [pc] at ledger
      exact ledger.settled
  | selfSignals pc => simpa [List.filterMap_cons, Event.answer] using ledger
  | selfWakes when pc =>
      rw [pc] at ledger
      simpa [DispatchLedger] using ledger
  | signals _ _ =>
      dsimp only
      split
      · simpa [List.filterMap_cons, Event.answer] using ledger.notify
      · simpa [List.filterMap_cons, Event.answer] using ledger
  | registers _ _ _ =>
      dsimp only
      split
      · simpa [List.filterMap_cons, Event.answer] using ledger.notify
      · simpa [List.filterMap_cons, Event.answer] using ledger
  | storesStop => simpa using ledger
  | notifiesStop _ => simpa [List.filterMap_cons, Event.answer] using ledger.notify
  | elapses _ _ => simpa using ledger
  | _ pc =>
      rw [pc] at ledger
      simpa [List.filterMap_cons, Event.answer, DispatchLedger] using ledger

/-- From the head of `execute_component` on, until another dispatch begins. -/
theorem ledger_run {permitted : System κ → Operation κ → Prop}
    (run : (hostMachine κ enforced).Run permitted first reports last)
    (entering : first.pc = .entering nodeId component context)
    (same : ∀ report ∈ reports, report.isDispatch = false) :
    DispatchLedger context.budgetClass (reports.filterMap Report.answer) last.pc := by
  refine Machine.Run.history (fun reports system => (∀ report ∈ reports, report.isDispatch = false) →
    DispatchLedger context.budgetClass (reports.filterMap Report.answer) system.pc) run ?_ ?_ same
  · intro _
    rw [entering]
    exact ⟨rfl, rfl⟩
  · intro earlier state operation after reports _ _ ledger step same
    have before := ledger fun report member => same report (List.mem_append_left _ member)
    rw [List.filterMap_append]
    cases operated_of_step step with
    | moves moved =>
        rw [answer_moves]
        refine before.moved moved fun nodeId dispatched => ?_
        exact absurd (same (.event (.dispatched nodeId)) (by simp [dispatched])) (by simp [Report.isDispatch])
    | adds _ _ _ => simpa [List.filterMap_cons, Report.answer] using before
    | equips _ _ _ => simpa using before
    | snapshots _ => simpa using before

def SchedulerMetrics.Accounts (metrics : SchedulerMetrics) (nodeId : NodeId) (executions workUnits : Nat) :
    Prop :=
  metrics.executionsPerNode.lookup nodeId = some executions ∧
    metrics.workUnitsPerNode.lookup nodeId = some workUnits

/-- `next` has the contexts of `old` with the same class and counters, the same accounts and no
flag of its own. -/
structure SameBooks (old next : SchedulerState κ) : Prop where
  contexts : ∀ nodeId context, next.nodes.lookup nodeId = some context →
    ∃ before, old.nodes.lookup nodeId = some before ∧ context.budgetClass = before.budgetClass ∧
      context.executionCount = before.executionCount ∧ context.workUnitsProcessed = before.workUnitsProcessed
  executions : next.metrics.executionsPerNode = old.metrics.executionsPerNode
  workUnits : next.metrics.workUnitsPerNode = old.metrics.workUnitsPerNode
  flagged : ∀ nodeId ∈ next.readyFlags, nodeId ∈ old.readyFlags

variable {state old : SchedulerState κ}

theorem SameBooks.of_eq (nodes : state.nodes = old.nodes)
    (executions : state.metrics.executionsPerNode = old.metrics.executionsPerNode)
    (workUnits : state.metrics.workUnitsPerNode = old.metrics.workUnitsPerNode)
    (flags : state.readyFlags = old.readyFlags) : SameBooks old state := by
  refine ⟨?_, executions, workUnits, ?_⟩
  · intro nodeId context found
    rw [nodes] at found
    exact ⟨context, found, rfl, rfl, rfl⟩
  · rw [flags]
    exact fun _ flagged => flagged

theorem SameBooks.enqueue (same : SameBooks old state) : SameBooks old (state.enqueue nodeId) := by
  unfold SchedulerState.enqueue
  split <;> exact ⟨same.contexts, same.executions, same.workUnits, same.flagged⟩

theorem SameBooks.enqueueRecorded (same : SameBooks old state) :
    SameBooks old (state.enqueueRecorded nodeId) := by
  unfold SchedulerState.enqueueRecorded
  split
  · exact same
  · exact ⟨same.enqueue.contexts, same.enqueue.executions, same.enqueue.workUnits, same.enqueue.flagged⟩

theorem SameBooks.drainExpiredTimers {scheduler : Scheduler κ} (now : Instant) :
    SameBooks scheduler.state (scheduler.drainExpiredTimers now).1.state := by
  refine Scheduler.drainExpiredTimers_keeps (fun next => SameBooks scheduler.state next.state) ?_ ?_ ?_
    (.of_eq rfl rfl rfl rfl)
  · exact fun _ same => ⟨same.contexts, same.executions, same.workUnits, same.flagged⟩
  · intro between entry same
    obtain ⟨flags, fired, _⟩ := between.fireFirst_eq entry
    rw [fired]
    refine SameBooks.enqueue ⟨?_, same.executions, same.workUnits, same.flagged⟩
    intro nodeId context found
    rw [HashMap.lookup_adjust] at found
    split at found
    · next here =>
        obtain ⟨marked, present, rfl⟩ := Option.map_eq_some_iff.mp found
        exact same.contexts nodeId marked (here ▸ present)
    · exact same.contexts nodeId context found
  · exact fun _ same => ⟨same.contexts, same.executions, same.workUnits, same.flagged⟩

theorem SameBooks.signalReady {scheduler : Scheduler κ} :
    SameBooks scheduler.state (scheduler.signalReady nodeId).1.state := by
  rcases scheduler.signalReady_eq nodeId with ⟨_, same⟩ | ⟨flag, _, same⟩
  · rw [same]
    exact .of_eq rfl rfl rfl rfl
  · rw [same]
    exact SameBooks.enqueueRecorded (.of_eq rfl rfl rfl rfl)

theorem SameBooks.wakeAt {scheduler : Scheduler κ} {when : Instant} :
    SameBooks scheduler.state (scheduler.wakeAt nodeId when).1.state := by
  rcases scheduler.wakeAt_eq nodeId when with ⟨_, same⟩ | ⟨_, same⟩
  · rw [same]
    exact .of_eq rfl rfl rfl rfl
  · rw [same]
    exact .of_eq rfl rfl rfl rfl

/-- The outcome of the dispatch in flight. -/
def Pc.outcome : Pc κ → ExecutionOutcome
  | .processing _ _ _ outcome | .checkingIn _ _ _ outcome => outcome
  | _ => .default

/-- Every context has a class its node was added with.  For the nodes that are `counted`, as
long as they are flagged, its counters are those of the metrics; what the dispatch in flight
did is not in the metrics yet. -/
structure Booked (counted : NodeId → Prop) (trace : List Report) (system : System κ) : Prop where
  home : ∀ nodeId context, system.scheduler.state.nodes.lookup nodeId = some context →
    .added nodeId context.budgetClass ∈ trace ∧
      (counted nodeId → nodeId ∈ system.scheduler.state.readyFlags → system.pc.inFlight ≠ some nodeId →
        system.scheduler.state.metrics.Accounts nodeId context.executionCount context.workUnitsProcessed)
  away : ∀ nodeId context, system.pc.inFlight = some nodeId → system.pc.contextAway = some context →
    .added nodeId context.budgetClass ∈ trace ∧
      (counted nodeId → nodeId ∈ system.scheduler.state.readyFlags → ∃ executions workUnits,
        system.scheduler.state.metrics.Accounts nodeId executions workUnits ∧
        context.executionCount = executions + system.pc.outcome.executions ∧
        context.workUnitsProcessed = workUnits + system.pc.outcome.workUnits)

variable {counted : NodeId → Prop}

theorem SameBooks.accounts (same : SameBooks old state) {executions workUnits : Nat} :
    state.metrics.Accounts nodeId executions workUnits ↔ old.metrics.Accounts nodeId executions workUnits := by
  unfold SchedulerMetrics.Accounts
  rw [same.executions, same.workUnits]

theorem Booked.change {scheduler : Scheduler κ} {clock : Instant} {pc : Pc κ} {stopping : Nat}
    (booked : Booked counted trace system) (same : SameBooks system.scheduler.state scheduler.state)
    (flight : ∀ nodeId, system.pc.inFlight = some nodeId → pc.inFlight = some nodeId)
    (away : ∀ nodeId context, pc.inFlight = some nodeId → pc.contextAway = some context →
      ∃ before, system.pc.inFlight = some nodeId ∧ system.pc.contextAway = some before ∧
        context.budgetClass = before.budgetClass ∧
        context.executionCount + system.pc.outcome.executions =
          before.executionCount + pc.outcome.executions ∧
        context.workUnitsProcessed + system.pc.outcome.workUnits =
          before.workUnitsProcessed + pc.outcome.workUnits) :
    Booked counted trace ⟨scheduler, clock, pc, stopping⟩ := by
  constructor
  · intro nodeId context found
    obtain ⟨before, known, sameClass, sameCount, sameWork⟩ := same.contexts nodeId context found
    obtain ⟨added, accounts⟩ := booked.home nodeId before known
    rw [sameClass, sameCount, sameWork]
    refine ⟨added, fun counts flagged grounded => same.accounts.mpr ?_⟩
    exact accounts counts (same.flagged nodeId flagged) fun flew => grounded (flight nodeId flew)
  · intro nodeId context flight found
    obtain ⟨before, flew, known, sameClass, executed, worked⟩ := away nodeId context flight found
    obtain ⟨added, books⟩ := booked.away nodeId before flew known
    rw [sameClass]
    refine ⟨added, fun counts flagged => ?_⟩
    obtain ⟨executions, workUnits, accounts, count, work⟩ := books counts (same.flagged nodeId flagged)
    refine ⟨executions, workUnits, same.accounts.mpr accounts, ?_, ?_⟩
    · dsimp only
      omega
    · dsimp only
      omega

theorem Booked.relocate {clock : Instant} {pc : Pc κ} {stopping : Nat} (booked : Booked counted trace system)
    {scheduler : Scheduler κ} (same : SameBooks system.scheduler.state scheduler.state)
    (grounded : system.pc.inFlight = none) (home : pc.contextAway = none) :
    Booked counted trace ⟨scheduler, clock, pc, stopping⟩ := by
  refine booked.change same ?_ ?_
  · intro nodeId flew
    rw [grounded] at flew
    cases flew
  · intro nodeId context _ found
    rw [home] at found
    cases found

theorem Booked.beside {clock : Instant} {stopping : Nat} (booked : Booked counted trace system)
    {scheduler : Scheduler κ} (same : SameBooks system.scheduler.state scheduler.state) :
    Booked counted trace ⟨scheduler, clock, system.pc, stopping⟩ :=
  booked.change same (fun _ flew => flew) fun _ context flight found => ⟨context, flight, found, rfl, rfl, rfl⟩

/-- A call that returns adds the same to the context and to the outcome. -/
theorem System.settle_books {outcome : ExecutionOutcome} {reply : Reply κ} {left : NodeContext}
    (found : (system.settle enforced nodeId context outcome reply).pc.contextAway = some left) :
    left.budgetClass = context.budgetClass ∧
      left.executionCount + outcome.executions = context.executionCount +
        (system.settle enforced nodeId context outcome reply).pc.outcome.executions ∧
      left.workUnitsProcessed + outcome.workUnits = context.workUnitsProcessed +
        (system.settle enforced nodeId context outcome reply).pc.outcome.workUnits := by
  unfold System.settle at found ⊢
  dsimp only at found ⊢
  split at found
  · cases found
  · next inTime =>
      rw [if_neg inTime]
      cases answer : reply.returned with
      | panicked =>
          simp only [answer, Pc.contextAway, Option.some.injEq] at found
          subst found
          exact ⟨rfl, rfl, rfl⟩
      | result result =>
          cases result with
          | finished =>
              simp only [answer, Pc.contextAway, Option.some.injEq] at found
              subst found
              exact ⟨rfl, rfl, rfl⟩
          | noWork =>
              simp only [answer, Pc.contextAway, Option.some.injEq] at found
              subst found
              exact ⟨rfl, rfl, rfl⟩
          | didWork units =>
              simp only [answer] at found ⊢
              split at found
              · next spent =>
                  simp only [Pc.contextAway, Option.some.injEq] at found
                  subst found
                  rw [if_pos spent]
                  simp only [NodeContext.accountWork, ExecutionOutcome.accountWork, Pc.outcome, true_and]
                  omega
              · next unspent =>
                  simp only [Pc.contextAway, Option.some.injEq] at found
                  subst found
                  rw [if_neg unspent]
                  simp only [NodeContext.accountWork, ExecutionOutcome.accountWork, Pc.outcome, true_and]
                  omega

theorem SchedulerState.account_accounts {outcome : ExecutionOutcome} {executions workUnits : Nat}
    (accounts : state.metrics.Accounts nodeId executions workUnits) :
    (state.account nodeId outcome).metrics.Accounts nodeId (executions + outcome.executions)
      (workUnits + outcome.workUnits) := by
  constructor
  · simp [SchedulerState.account, HashMap.lookup_adjust, accounts.1]
  · simp [SchedulerState.account, HashMap.lookup_adjust, accounts.2]

theorem SchedulerState.account_other {outcome : ExecutionOutcome} {other : NodeId} {executions workUnits : Nat}
    (different : other ≠ nodeId) :
    (state.account nodeId outcome).metrics.Accounts other executions workUnits ↔
      state.metrics.Accounts other executions workUnits := by
  simp [SchedulerState.account, SchedulerMetrics.Accounts, HashMap.lookup_adjust, different]

theorem checkOut_taken_counters {after : SchedulerState κ}
    (taken : state.checkOut = .taken nodeId component context after) :
    after.metrics.executionsPerNode = state.metrics.executionsPerNode ∧
      after.metrics.workUnitsPerNode = state.metrics.workUnitsPerNode := by
  unfold SchedulerState.checkOut at taken
  cases queue : state.readyQueue with
  | nil => simp [queue] at taken
  | cons first rest =>
      simp only [queue] at taken
      split at taken
      · cases taken
      · split at taken
        · cases taken
        · cases taken
          exact ⟨rfl, rfl⟩

theorem Booked.dispatched {clock : Instant} {stopping : Nat} {after : SchedulerState κ}
    (booked : Booked counted trace system) (grounded : system.pc.inFlight = none)
    (taken : system.scheduler.state.checkOut = .taken nodeId component context after) :
    Booked counted trace
      ⟨{ system.scheduler with state := after }, clock, .entering nodeId component context, stopping⟩ := by
  obtain ⟨executions, workUnits⟩ := checkOut_taken_counters taken
  obtain ⟨rest, metrics, _, _, home, rfl⟩ := checkOut_taken taken
  have same : ∀ {other e w}, metrics.Accounts other e w ↔
      system.scheduler.state.metrics.Accounts other e w := by
    intro other e w
    unfold SchedulerMetrics.Accounts
    rw [← executions, ← workUnits]
  have waits : ∀ other, system.pc.inFlight ≠ some other := by simp [grounded]
  constructor
  · intro other left found
    rw [HashMap.lookup_erase_ite] at found
    split at found
    · cases found
    · obtain ⟨added, accounts⟩ := booked.home other left found
      exact ⟨added, fun counts flagged _ => same.mpr (accounts counts flagged (waits other))⟩
  · intro other left flight found
    cases flight
    cases found
    obtain ⟨added, accounts⟩ := booked.home nodeId context home
    exact ⟨added, fun counts flagged => ⟨_, _, same.mpr (accounts counts flagged (waits nodeId)), rfl, rfl⟩⟩

theorem Booked.concluded {outcome : ExecutionOutcome} (booked : Booked counted trace system)
    (pc : system.pc = .checkingIn nodeId component context outcome) :
    Booked counted trace (system.conclude nodeId component context outcome).1 := by
  obtain ⟨added, books⟩ := booked.away nodeId context (by rw [pc]; rfl) (by rw [pc]; rfl)
  have others : ∀ other left, system.scheduler.state.nodes.lookup other = some left →
      .added other left.budgetClass ∈ trace ∧
        (counted other → other ∈ system.scheduler.state.readyFlags → other ≠ nodeId →
          (system.scheduler.state.account nodeId outcome).metrics.Accounts other left.executionCount
            left.workUnitsProcessed) := by
    intro other left found
    obtain ⟨added, accounts⟩ := booked.home other left found
    refine ⟨added, fun counts flagged different => (SchedulerState.account_other different).mpr ?_⟩
    refine accounts counts flagged ?_
    rw [pc]
    exact fun same => different (Option.some.inj same).symm
  cases finished : outcome.finished with
  | true =>
      obtain ⟨running, same, _⟩ := system.conclude_finished nodeId component context finished
      rw [same]
      refine ⟨?_, by intro other left none; cases none⟩
      intro other left found
      obtain ⟨added, accounts⟩ := others other left found
      refine ⟨added, fun counts flagged _ => ?_⟩
      -- the flag of the node that is retired is gone
      obtain ⟨different, flagged⟩ := AList.mem_erase.mp flagged
      exact accounts counts flagged different
  | false =>
      obtain ⟨after, same, states⟩ := system.conclude_unfinished nodeId component context finished
      have home : Booked counted trace ⟨{ system.scheduler with
          state := (system.scheduler.state.account nodeId outcome).checkIn nodeId component context },
          system.clock, .top, system.stopping⟩ := by
        refine ⟨?_, by intro other left none; cases none⟩
        have metrics : ((system.scheduler.state.account nodeId outcome).checkIn nodeId component
            context).metrics = (system.scheduler.state.account nodeId outcome).metrics := by
          unfold SchedulerState.checkIn
          cases context.wakeAt <;> rfl
        intro other left found
        dsimp only at found ⊢
        rw [metrics, SchedulerState.checkIn_readyFlags]
        rw [SchedulerState.checkIn_nodes, HashMap.lookup_insert_ite] at found
        split at found
        · next here =>
            cases found
            subst here
            refine ⟨added, fun counts flagged _ => ?_⟩
            obtain ⟨executions, workUnits, accounts, count, work⟩ := books counts flagged
            rw [pc] at count work
            dsimp only
            rw [count, work]
            exact SchedulerState.account_accounts accounts
        · next different =>
            obtain ⟨added, accounts⟩ := others other left found
            exact ⟨added, fun counts flagged _ => accounts counts flagged different⟩
      rw [same]
      rcases states with ⟨_, rfl⟩ | ⟨_, rfl⟩
      · exact home.relocate (SameBooks.enqueueRecorded (.of_eq rfl rfl rfl rfl)) rfl rfl
      · exact home

theorem Booked.moved (booked : Booked counted trace system)
    (moved : Moved enforced system action events next) : Booked counted trace next := by
  have notified : Booked counted trace { system with pc := system.pc.notify } := by
    refine booked.change (.of_eq rfl rfl rfl rfl) (fun nodeId flew => ?_) fun nodeId context flight found => ?_
    · rwa [Pc.notify_inFlight]
    · rw [Pc.notify_inFlight] at flight
      rw [Pc.notify_contextAway] at found
      refine ⟨context, flight, found, rfl, ?_, ?_⟩ <;> cases system.pc <;> rfl
  cases moved with
  | drains pc => exact booked.relocate (SameBooks.drainExpiredTimers _) (by rw [pc]; rfl) rfl
  | popsUnavailable pc unavailable =>
      obtain ⟨_, _, _, _, _, _, rfl⟩ := SchedulerState.checkOut_unavailable unavailable
      exact booked.relocate (.of_eq rfl rfl rfl rfl) (by rw [pc]; rfl) rfl
  | dispatches pc taken => exact booked.dispatched (by rw [pc]; rfl) taken
  | @enters away component context pc =>
      refine booked.change (.of_eq rfl rfl rfl rfl) (fun nodeId flew => ?_) fun nodeId left flight found => ?_
      · rwa [pc] at flew
      · cases found
        exact ⟨context, by rw [pc]; exact flight, by rw [pc]; rfl, rfl, by rw [pc]; rfl, by rw [pc]; rfl⟩
  | concludes pc => exact booked.concluded pc
  | @settles away component context outcome reply pc =>
      have books : ∀ left, (system.settle enforced away context outcome reply).pc.contextAway = some left → _ :=
        fun left found => System.settle_books found
      have settled := system.settled enforced away context outcome reply
      have kept : (system.settle enforced away context outcome reply).scheduler.state = system.scheduler.state :=
        System.settle_state
      generalize system.settle enforced away context outcome reply = last at books settled kept ⊢
      obtain ⟨scheduler, clock, after, stopping⟩ := last
      dsimp only at kept
      have flight : after.inFlight = some away := by cases settled <;> rfl
      refine booked.change (by rw [kept]; exact .of_eq rfl rfl rfl rfl) (fun nodeId flew => ?_)
        fun nodeId left flies found => ?_
      · rw [pc] at flew
        rw [flight]
        exact flew
      · obtain ⟨sameClass, count, work⟩ := books left found
        obtain rfl : away = nodeId := Option.some.inj (flight.symm.trans flies)
        exact ⟨context, by rw [pc]; rfl, by rw [pc]; rfl, sameClass, by rw [pc]; exact count, by rw [pc]; exact work⟩
  | @selfWakes away component context outcome when pc =>
      refine booked.change (.of_eq rfl rfl rfl rfl) (fun nodeId flew => ?_) fun nodeId left flight found => ?_
      · rwa [pc] at flew
      · cases found
        exact ⟨context, by rw [pc]; exact flight, by rw [pc]; rfl, rfl, by rw [pc]; rfl, by rw [pc]; rfl⟩
  | signals signalled _ =>
      split
      · exact notified.beside SameBooks.signalReady
      · exact booked.beside SameBooks.signalReady
  | registers registered when _ =>
      split
      · exact notified.beside SameBooks.wakeAt
      · exact booked.beside SameBooks.wakeAt
  | selfSignals pc => exact booked.beside (.of_eq rfl rfl rfl rfl)
  | storesStop => exact booked.beside (.of_eq rfl rfl rfl rfl)
  | notifiesStop _ => exact notified.beside (.of_eq rfl rfl rfl rfl)
  | elapses now _ => exact booked.beside (.of_eq rfl rfl rfl rfl)
  | _ pc => exact booked.relocate (.of_eq rfl rfl rfl rfl) (by rw [pc]; rfl) rfl

theorem Booked.mono (booked : Booked counted trace system) (more : List Report) :
    Booked counted (trace ++ more) system := by
  constructor
  · intro nodeId context found
    obtain ⟨added, accounts⟩ := booked.home nodeId context found
    exact ⟨List.mem_append_left _ added, accounts⟩
  · intro nodeId context flight found
    obtain ⟨added, rest⟩ := booked.away nodeId context flight found
    exact ⟨List.mem_append_left _ added, rest⟩

/-- A node is not added under the id of the one that is executing, unless that one had done no
work before this dispatch. -/
def AddsFresh (nodeId : NodeId) (system : System κ) : Operation κ → Prop
  | .addNode added _ => added = nodeId → system.pc.inFlight = some nodeId →
      ∀ context ∈ system.pc.contextAway, context.executionCount = system.pc.outcome.executions ∧
        context.workUnitsProcessed = system.pc.outcome.workUnits
  | _ => True

instance (nodeId : NodeId) (system : System κ) : DecidablePred (AddsFresh nodeId system) := fun
  | .addNode added _ => inferInstanceAs (Decidable (added = nodeId → system.pc.inFlight = some nodeId →
      ∀ context ∈ system.pc.contextAway, context.executionCount = system.pc.outcome.executions ∧
        context.workUnitsProcessed = system.pc.outcome.workUnits))
  | .move _ | .addComponent .. | .metricsSnapshot => inferInstanceAs (Decidable True)

theorem Booked.added (booked : Booked counted trace system)
    (fresh : counted nodeId → AddsFresh nodeId system (.addNode nodeId budgetClass)) :
    Booked counted (trace ++ [.added nodeId budgetClass])
      { system with scheduler := system.scheduler.addNode nodeId budgetClass system.clock } := by
  constructor
  · intro other context found
    simp only [Scheduler.addNode, SchedulerMetrics.Accounts, HashMap.lookup_insert_ite, AList.mem_insert] at found ⊢
    split at found
    · next here =>
        cases found
        subst here
        exact ⟨by simp [NodeContext.new], by simp [NodeContext.new]⟩
    · next different =>
        obtain ⟨added, accounts⟩ := booked.home other context found
        rw [if_neg different, if_neg different]
        refine ⟨List.mem_append_left _ added, fun counts flagged grounded => ?_⟩
        exact accounts counts (flagged.resolve_left different) grounded
  · intro other context flight found
    obtain ⟨added, books⟩ := booked.away other context flight found
    refine ⟨List.mem_append_left _ added, fun counts flagged => ?_⟩
    by_cases here : other = nodeId
    · subst here
      obtain ⟨count, work⟩ := fresh counts rfl flight context found
      exact ⟨0, 0, by simp [Scheduler.addNode, SchedulerMetrics.Accounts], by simpa using count, by simpa using work⟩
    · have before : other ∈ system.scheduler.state.readyFlags :=
        ((AList.mem_insert _).mp flagged).resolve_left here
      obtain ⟨executions, workUnits, accounts, rest⟩ := books counts before
      refine ⟨executions, workUnits, ?_, rest⟩
      simpa [Scheduler.addNode, SchedulerMetrics.Accounts, HashMap.lookup_insert_ite, here] using accounts

variable {clock : Instant}

theorem booked_host {permitted : System κ → Operation κ → Prop}
    (fresh : ∀ nodeId, counted nodeId → ∀ system operation, permitted system operation →
      AddsFresh nodeId system operation)
    (run : (hostMachine κ enforced).Run permitted (System.start .new clock) trace system) :
    Booked counted trace system := by
  refine Machine.Run.history (Booked counted) run ?_ ?_
  · constructor
    · intro nodeId context found
      simp [System.start, Scheduler.new, SchedulerState.new] at found
    · intro nodeId context none
      cases none
  · intro earlier state operation after reports _ allowed booked step
    cases operated_of_step step with
    | moves moved => exact (booked.moved moved).mono _
    | adds nodeId budgetClass _ => exact booked.added fun counts => fresh nodeId counts _ _ allowed
    | equips _ _ _ =>
        rw [List.append_nil]
        exact booked.beside (.of_eq rfl rfl rfl rfl)
    | snapshots _ =>
        rw [List.append_nil]
        exact booked.beside (.of_eq rfl rfl rfl rfl)

/-- What `process()` came back with in the dispatch after which the list begins. -/
def dispatchAnswers (after : List Report) : List Returned :=
  (after.takeWhile fun report => !report.isDispatch).filterMap Report.answer

theorem dispatchAnswers_of_same (same : ∀ report ∈ reports, report.isDispatch = false) (more : List Report) :
    dispatchAnswers (reports ++ more) = reports.filterMap Report.answer ++ dispatchAnswers more := by
  unfold dispatchAnswers
  rw [List.takeWhile_append_of_pos (by simpa using same), List.filterMap_append]

theorem DispatchLedger.called {pc : Pc κ} (ledger : DispatchLedger budgetClass answers pc) :
    ∃ units final, Called budgetClass answers units final ∧
      ∀ {nodeId component context outcome}, pc = .checkingIn nodeId component context outcome →
        outcome.Tells units := by
  cases pc with
  | entering _ _ _ =>
      obtain ⟨_, rfl⟩ := ledger
      exact ⟨[], [], ⟨rfl, Nat.zero_le _, by simp, by simp⟩, by simp⟩
  | processing _ _ _ _ =>
      obtain ⟨units, rfl, _, _, within⟩ := ledger
      exact ⟨units, [], ⟨by simp, by omega, by simp, by simp⟩, by simp⟩
  | checkingIn _ _ _ _ =>
      obtain ⟨units, final, called, tells⟩ := ledger
      refine ⟨units, final, called, ?_⟩
      intro _ _ _ _ same
      cases same
      exact tells
  | _ =>
      obtain ⟨units, final, called⟩ := ledger
      exact ⟨units, final, called, by simp⟩

/-- `process()` is called only while there is budget left. -/
def Pc.Funded : Pc κ → Prop
  | .processing _ _ context _ => 0 < context.remainingBudget
  | _ => True

theorem Pc.Funded.notify {pc : Pc κ} (funded : pc.Funded) : pc.notify.Funded := by
  cases pc <;> exact funded

theorem Pc.Funded.moved (funded : system.pc.Funded) (moved : Moved enforced system action events next) :
    next.pc.Funded := by
  cases moved with
  | enters pc => exact BudgetClass.units_pos _
  | concludes pc => simp [Pc.Funded]
  | @settles away component context outcome reply pc =>
      have settled := system.settled enforced away context outcome reply
      generalize system.settle enforced away context outcome reply = last at settled ⊢
      cases settled with
      | again _ _ _ unspent => exact Nat.pos_of_ne_zero unspent
      | _ => trivial
  | selfWakes when pc => simpa [Pc.Funded, pc] using funded
  | signals _ _ =>
      dsimp only
      split
      · exact funded.notify
      · exact funded
  | registers _ _ _ =>
      dsimp only
      split
      · exact funded.notify
      · exact funded
  | selfSignals _ => exact funded
  | storesStop => exact funded
  | notifiesStop _ => exact funded.notify
  | elapses _ _ => exact funded
  | _ => trivial

theorem funded_host {permitted : System κ → Operation κ → Prop}
    (run : (hostMachine κ enforced).Run permitted (System.start .new clock) trace system) : system.pc.Funded := by
  refine Machine.Run.invariant (fun system => system.pc.Funded) run trivial ?_
  intro state operation after reports _ funded step
  cases operated_of_step step with
  | moves moved => exact funded.moved moved
  | adds _ _ _ => exact funded
  | equips _ _ _ => exact funded
  | snapshots _ => exact funded

theorem isDispatch_moves : ∀ report ∈ system.pops action ++ system.registrations action,
    report.isDispatch = false := by
  unfold System.pops System.registrations
  intro report member
  rcases List.mem_append.mp member with pop | registration
  · split at pop
    · split at pop
      · obtain ⟨_, _, rfl⟩ := List.mem_map.mp pop
        rfl
      · cases pop
    · cases pop
  · split at registration
    · split at registration
      · rw [List.mem_singleton.mp registration]
        rfl
      · cases registration
    · split at registration
      · split at registration
        · cases registration
        · obtain ⟨_, _, rfl⟩ := List.mem_map.mp registration
          rfl
      · cases registration
    · cases registration

/-- The one operation that reports a dispatch. -/
theorem dispatch_operated (operated : Operated enforced system operation reports next)
    (member : .event (.dispatched nodeId) ∈ reports) :
    ∃ component context, reports = [.popped nodeId, .event (.dispatched nodeId)] ∧
      next.pc = .entering nodeId component context ∧
      system.scheduler.state.nodes.lookup nodeId = some context := by
  cases operated with
  | @moves action events _ moved =>
      have reported : .dispatched nodeId ∈ events := by
        rcases List.mem_append.mp member with aside | reported
        · exact absurd (isDispatch_moves _ aside) (by simp [Report.isDispatch])
        · simpa using reported
      cases moved with
      | dispatches pc taken =>
          rw [List.mem_singleton] at reported
          cases reported
          obtain ⟨rest, metrics, queue, _, found, rfl⟩ := checkOut_taken taken
          refine ⟨_, _, ?_, rfl, found⟩
          simp [System.pops, System.registrations, pc, queue]
      | drains pc => simp at reported
      | @concludes away component context outcome pc =>
          rcases system.conclude_events away component context outcome with events | events | events <;>
            simp [events] at reported
      | _ => simp at reported
  | adds _ _ _ => simp at member
  | equips _ _ _ => simp at member
  | snapshots _ => simp at member

theorem dispatch_shape {other : NodeId} {front back : List Report}
    (shape : [.popped nodeId, .event (.dispatched nodeId)] = front ++ .event (.dispatched other) :: back) :
    front = [.popped nodeId] ∧ back = [] := by
  cases front with
  | nil => simp at shape
  | cons first front =>
      obtain ⟨rfl, shape⟩ := List.cons.inj shape
      cases front with
      | nil =>
          have ends : nodeId = other ∧ back = [] := by simpa using shape
          exact ⟨rfl, ends.2⟩
      | cons second front => simp at shape

/-- Every dispatch keeps to the budget of the class its node was added with. -/
theorem dispatch_called {before after : List Report} {permitted : System κ → Operation κ → Prop}
    (run : (hostMachine κ enforced).Run permitted (System.start .new clock) trace system)
    (split : trace = before ++ .event (.dispatched nodeId) :: after) :
    ∃ budgetClass units final, .added nodeId budgetClass ∈ before ∧
      Called budgetClass (dispatchAnswers after) units final ∧
      ((∀ report ∈ after, report.isDispatch = false) →
        ∀ {away component context outcome}, system.pc = .checkingIn away component context outcome →
          outcome.Tells units) := by
  obtain ⟨earlier, state, operation, next, reports, front, back, later, prior, _, step, rest, shape, rfl,
    rfl⟩ := run.split_at split
  have member : .event (.dispatched nodeId) ∈ reports := by rw [shape]; simp
  obtain ⟨component, context, reported, entering, home⟩ := dispatch_operated (operated_of_step step) member
  obtain ⟨rfl, rfl⟩ := dispatch_shape (reported.symm.trans shape)
  have booked : Booked (fun _ => False) earlier state := booked_host (fun _ counts => counts.elim) prior
  have added := (booked.home nodeId context home).1
  rw [List.nil_append]
  by_cases same : ∀ report ∈ later, report.isDispatch = false
  · obtain ⟨units, final, called, tells⟩ := (ledger_run rest entering same).called
    refine ⟨context.budgetClass, units, final, List.mem_append_left _ added, ?_, fun _ => tells⟩
    have whole := dispatchAnswers_of_same same []
    rw [List.append_nil] at whole
    rw [whole]
    simpa [dispatchAnswers] using called
  · -- the next dispatch ends this one
    obtain ⟨during, other, remaining, rfl, quiet⟩ : ∃ during other remaining,
        later = during ++ .event (.dispatched other) :: remaining ∧
          ∀ report ∈ during, report.isDispatch = false := by
      have parts := List.takeWhile_append_dropWhile (p := fun report : Report => !report.isDispatch) (l := later)
      cases dropped : later.dropWhile fun report => !report.isDispatch with
      | nil =>
          rw [dropped, List.append_nil] at parts
          refine absurd (fun report member => ?_) same
          have taken : report ∈ later.takeWhile fun report => !report.isDispatch := by rw [parts]; exact member
          simpa using List.mem_takeWhile_imp taken
      | cons report remaining =>
          have dispatch : report.isDispatch = true := by
            have head := List.head?_dropWhile_not (fun report : Report => !report.isDispatch) later
            simpa [dropped] using head
          unfold Report.isDispatch at dispatch
          split at dispatch
          · next other =>
              refine ⟨_, other, remaining, by rw [← dropped, parts], ?_⟩
              intro report member
              simpa using List.mem_takeWhile_imp member
          · cases dispatch
    obtain ⟨between, stateThen, operation, nextThen, reports, front, back, _, run, _, step, _, shape, rfl, _⟩ :=
      rest.split_at rfl
    have member : .event (.dispatched other) ∈ reports := by rw [shape]; simp
    obtain ⟨_, _, reported, _, _⟩ := dispatch_operated (operated_of_step step) member
    obtain ⟨rfl, _⟩ := dispatch_shape (reported.symm.trans shape)
    have still : ∀ report ∈ between, report.isDispatch = false :=
      fun report member => quiet report (List.mem_append_left _ member)
    obtain ⟨units, final, called, _⟩ := (ledger_run run entering still).called
    refine ⟨context.budgetClass, units, final, List.mem_append_left _ added, ?_, fun none => absurd none same⟩
    rw [List.append_assoc, dispatchAnswers_of_same still]
    simpa [dispatchAnswers, Report.isDispatch, List.filterMap_cons, Report.answer] using called

/-- Whatever `process()` leaves in the counter and returns, a dispatch makes at most as
many calls that do work as the class of its node allows and one more, each such call
lowers the counter, and the outcome counts them.  As long as the node is not added again in
the middle of a dispatch after it has worked, the metrics are the counters of its context
whenever it is live and not executing. -/
theorem budget_enforced
    (run : (hostMachine κ enforced).Run anyMove (System.start .new clock) trace system) :
    (∀ {before after nodeId}, trace = before ++ .event (.dispatched nodeId) :: after →
      ∃ budgetClass units final, .added nodeId budgetClass ∈ before ∧
        Called budgetClass (dispatchAnswers after) units final ∧
        ((∀ report ∈ after, report.isDispatch = false) →
          ∀ {away component context outcome}, system.pc = .checkingIn away component context outcome →
            outcome.executions = units.length ∧ outcome.workUnits = (units.map (max · 1)).sum)) ∧
    (∀ {nodeId component context outcome reply units left},
      system.pc = .processing nodeId component context outcome →
      reply.returned = .result (.didWork units) →
      (system.settle enforced nodeId context outcome reply).pc.contextAway = some left →
      left.remainingBudget < context.remainingBudget) ∧
    ∀ nodeId, (hostMachine κ enforced).Run (AddsFresh nodeId) (System.start .new clock) trace system →
      Live nodeId trace → system.pc.inFlight ≠ some nodeId →
      ∃ context, system.scheduler.state.nodes.lookup nodeId = some context ∧
        system.scheduler.state.metrics.executionsPerNode.lookup nodeId = some context.executionCount ∧
        system.scheduler.state.metrics.workUnitsPerNode.lookup nodeId = some context.workUnitsProcessed := by
  refine ⟨?_, ?_, ?_⟩
  · intro before after nodeId split
    obtain ⟨budgetClass, units, final, added, called, tells⟩ := dispatch_called run split
    refine ⟨budgetClass, units, final, added, called, ?_⟩
    intro same away component context outcome pc
    exact ⟨(tells same pc).executions, (tells same pc).workUnits⟩
  · intro nodeId component context outcome reply units left pc answer found
    have funded := funded_host run
    rw [pc] at funded
    unfold System.settle at found
    dsimp only at found
    split at found
    · cases found
    · rw [answer] at found
      dsimp only at found
      have lowers := context.accountWork_lowers reply.remainingBudget units system.clock funded
      split at found
      · cases found
        exact lowers
      · cases found
        exact lowers
  · intro nodeId fresh live grounded
    have flagged := (mem_readyFlags_host fresh).mpr live
    have home : nodeId ∈ system.scheduler.state.nodes := (known_of_live fresh live).resolve_right grounded
    obtain ⟨context, found⟩ := Option.isSome_iff_exists.mp (AList.lookup_isSome.mpr home)
    have booked : Booked (· = nodeId) trace system := by
      refine booked_host (fun other counts system operation allowed => ?_) fresh
      rw [counts]
      exact allowed
    exact ⟨context, found, (booked.home nodeId context found).2 rfl flagged grounded⟩

/-- One node is added, signalled and dispatched; it works twice and rests. -/
def workTwice : List (Operation Unit) :=
  [.addNode "n" .heavy, .addComponent () "n", .move (.signalReady "n")] ++
    List.replicate 6 (.move .run) ++
    [.move (.processReturns ⟨(), 20, false, 0, .result (.didWork 0)⟩),
      .move (.processReturns ⟨(), 0, false, 0, .result (.didWork 9)⟩), .move .run]

theorem budget_enforced_workTwice :
    (∃ before after budgetClass units final,
      (hostMachine Unit true).reported (System.start .new 0) workTwice =
        before ++ .event (.dispatched "n") :: after ∧
      .added "n" budgetClass ∈ before ∧ Called budgetClass (dispatchAnswers after) units final) ∧
    ∃ context, ((hostMachine Unit true).played (System.start .new 0)
        workTwice).scheduler.state.nodes.lookup "n" = some context ∧
      ((hostMachine Unit true).played (System.start .new 0)
        workTwice).scheduler.state.metrics.executionsPerNode.lookup "n" = some context.executionCount ∧
      ((hostMachine Unit true).played (System.start .new 0)
        workTwice).scheduler.state.metrics.workUnitsPerNode.lookup "n" = some context.workUnitsProcessed := by
  have run := (hostMachine Unit true).run_played
    (show (hostMachine Unit true).Permits (AddsFresh "n") (System.start .new 0) workTwice by decide) (by decide)
  have split : (hostMachine Unit true).reported (System.start .new 0) workTwice =
      [.added "n" .heavy, .event (.signalled "n" true), .event (.tested true), .event (.tested true), .popped "n"] ++
      .event (.dispatched "n") :: [.event (.returned "n" (.result (.didWork 0))),
        .event (.returned "n" (.result (.didWork 9))), .event (.checkedIn "n")] := by
    decide
  obtain ⟨dispatches, _, books⟩ := budget_enforced run.any
  obtain ⟨budgetClass, units, final, added, called, _⟩ := dispatches split
  exact ⟨⟨_, _, budgetClass, units, final, split, added, called⟩,
    books "n" run ((mem_readyFlags_host run).mp (by decide)) (by decide)⟩

/-- The node works twice, is dispatched again, added again while it executes, and checked in. -/
def readdInFlight : List (Operation Unit) :=
  workTwice ++ List.replicate 6 (.move .run) ++
    [.addNode "n" .normal, .move (.processReturns ⟨(), 0, false, 0, .result .noWork⟩), .move .run]

/-- The context that is checked in counts what the metrics have forgotten. -/
theorem metrics_restart :
    ¬ ∀ {trace : List Report} {system : System Unit} {nodeId : NodeId},
      (hostMachine Unit true).Run anyMove (System.start .new 0) trace system →
      Live nodeId trace → system.pc.inFlight ≠ some nodeId →
      ∃ context, system.scheduler.state.nodes.lookup nodeId = some context ∧
        system.scheduler.state.metrics.executionsPerNode.lookup nodeId = some context.executionCount ∧
        system.scheduler.state.metrics.workUnitsPerNode.lookup nodeId = some context.workUnitsProcessed := by
  intro claim
  have run := (hostMachine Unit true).run_played
    ((hostMachine Unit true).permits_any (System.start .new 0) readdInFlight) (by decide)
  have live : Live "n" ((hostMachine Unit true).reported (System.start .new 0) readdInFlight) :=
    (mem_readyFlags_host run).mp (by decide)
  obtain ⟨context, home, executions, _⟩ := claim run live (by decide)
  have counted : (((hostMachine Unit true).played (System.start .new 0)
      readdInFlight).scheduler.state.nodes.lookup "n").map NodeContext.executionCount = some 2 := by decide
  have forgotten : ((hostMachine Unit true).played (System.start .new 0)
      readdInFlight).scheduler.state.metrics.executionsPerNode.lookup "n" = some 0 := by decide
  rw [home, Option.map_some, Option.some.injEq] at counted
  rw [forgotten, counted] at executions
  cases executions

end Flowd
