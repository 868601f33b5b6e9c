import Flowd.Network.Settling
import Flowd.Scheduler.Parking

namespace Flowd

/-! A network that is left alone comes to rest.

What is on its way bounds the dispatches to come; where the run thread and the call in flight stand
bounds the moves between two of them.
-/

open Transition

section
variable {κ : Type} {enforced : Bool} {system next : System κ} {action : Action κ} {events : List Event}
variable {nodeId : NodeId}

/-- The nodes that are queued, and the node in flight if it is going to be. -/
def System.standings (system : System κ) : Nat :=
  system.scheduler.state.readyQueue.length +
    (system.pc.inFlight.any fun nodeId => system.requeues nodeId).toNat

theorem System.requeues_inFlight (requeues : system.requeues nodeId = true) : system.pc.inFlight = some nodeId := by
  obtain ⟨_, _, _, pc | pc, _⟩ := System.requeues_eq_true.mp requeues <;> rw [pc] <;> rfl

theorem System.standings_eq_sum {nodes : Finset NodeId}
    (queued : ∀ nodeId ∈ system.scheduler.state.readyQueue, nodeId ∈ nodes)
    (flying : ∀ nodeId, system.pc.inFlight = some nodeId → nodeId ∈ nodes) :
    system.standings = ∑ nodeId ∈ nodes, system.standing nodeId := by
  have waiting : ∑ nodeId ∈ nodes, system.scheduler.state.readyQueue.count nodeId =
      system.scheduler.state.readyQueue.length := by
    have counted := Multiset.sum_count_eq_card (s := nodes) (m := (system.scheduler.state.readyQueue : Multiset NodeId))
      (by simpa using queued)
    simpa using counted
  have going : ∑ nodeId ∈ nodes, (system.requeues nodeId).toNat =
      (system.pc.inFlight.any fun nodeId => system.requeues nodeId).toNat := by
    cases flight : system.pc.inFlight with
    | none =>
        refine Finset.sum_eq_zero fun nodeId _ => ?_
        cases requeues : system.requeues nodeId with
        | false => rfl
        | true =>
            have away := System.requeues_inFlight requeues
            rw [flight] at away
            cases away
    | some away =>
        refine Finset.sum_eq_single_of_mem away (flying away flight) fun nodeId _ different => ?_
        cases requeues : system.requeues nodeId with
        | false => rfl
        | true =>
            have mine := System.requeues_inFlight requeues
            rw [flight, Option.some.injEq] at mine
            exact absurd mine.symm different
  unfold System.standing
  rw [Finset.sum_add_distrib, waiting, going]
  rfl

theorem Event.asksFor_inj {event : Event} {other : NodeId} (asks : event.asksFor nodeId = true)
    (others : event.asksFor other = true) : nodeId = other := by
  cases event with
  | signalled asked accepted =>
      cases accepted with
      | true => exact (of_decide_eq_true asks).symm.trans (of_decide_eq_true others)
      | false => cases asks
  | timerExpired asked when => exact (of_decide_eq_true asks).symm.trans (of_decide_eq_true others)
  | selfSignalled asked => exact (of_decide_eq_true asks).symm.trans (of_decide_eq_true others)
  | returned asked returned =>
      cases returned with
      | panicked => cases asks
      | result result =>
          cases result with
          | didWork units => exact (of_decide_eq_true asks).symm.trans (of_decide_eq_true others)
          | noWork | finished => cases asks
  | _ => cases asks

/-- An event asks for one node at most. -/
theorem sum_asksFor_le (nodes : Finset NodeId) (events : List Event) :
    ∑ nodeId ∈ nodes, events.countP (Event.asksFor nodeId) ≤ events.countP Event.asks := by
  have one (event : Event) : ∑ nodeId ∈ nodes, (Event.asksFor nodeId event).toNat ≤ (Event.asks event).toNat := by
    by_cases asked : ∃ nodeId ∈ nodes, Event.asksFor nodeId event = true
    · obtain ⟨nodeId, member, asks⟩ := asked
      rw [Finset.sum_eq_single_of_mem nodeId member]
      · rw [asks, Event.asks_of_asksFor asks]
      · intro other _ different
        cases others : Event.asksFor other event with
        | false => rfl
        | true => exact absurd (Event.asksFor_inj others asks) different
    · rw [Finset.sum_eq_zero]
      · exact Nat.zero_le _
      · intro nodeId member
        cases asks : Event.asksFor nodeId event with
        | false => rfl
        | true => exact absurd ⟨nodeId, member, asks⟩ asked
  induction events with
  | nil => simp
  | cons event rest ih =>
      have split (asks : Event → Bool) : (event :: rest).countP asks = rest.countP asks + (asks event).toNat := by
        cases asked : asks event <;> simp [asked]
      calc ∑ nodeId ∈ nodes, (event :: rest).countP (Event.asksFor nodeId)
          = ∑ nodeId ∈ nodes, rest.countP (Event.asksFor nodeId) + ∑ nodeId ∈ nodes, (Event.asksFor nodeId event).toNat := by
            rw [← Finset.sum_add_distrib]
            exact Finset.sum_congr rfl fun nodeId _ => split (Event.asksFor nodeId)
        _ ≤ rest.countP Event.asks + (Event.asks event).toNat := Nat.add_le_add ih (one event)
        _ = (event :: rest).countP Event.asks := (split Event.asks).symm

theorem Owned.standings (owned : Owned system) (moved : Moved enforced system action events next) :
    next.standings ≤ system.standings + events.countP Event.asks := by
  let nodes : Finset NodeId := system.scheduler.state.readyQueue.toFinset ∪ next.scheduler.state.readyQueue.toFinset ∪
    (system.pc.inFlight.toFinset ∪ next.pc.inFlight.toFinset)
  have before : system.standings = ∑ nodeId ∈ nodes, system.standing nodeId :=
    System.standings_eq_sum (fun _ member => by simp [nodes, member]) fun _ away => by simp [nodes, away]
  have after : next.standings = ∑ nodeId ∈ nodes, next.standing nodeId :=
    System.standings_eq_sum (fun _ member => by simp [nodes, member]) fun _ away => by simp [nodes, away]
  calc next.standings = ∑ nodeId ∈ nodes, next.standing nodeId := after
    _ ≤ ∑ nodeId ∈ nodes, (system.standing nodeId + events.countP (Event.asksFor nodeId)) :=
        Finset.sum_le_sum fun nodeId _ => Nat.le_trans (Nat.le_add_left _ _) (owned.standing moved nodeId)
    _ ≤ system.standings + events.countP Event.asks := by
        rw [Finset.sum_add_distrib, ← before]
        exact Nat.add_le_add_left (sum_asksFor_le nodes events) _

/-- The least deadline has passed. -/
def System.expired (system : System κ) : Bool :=
  system.scheduler.state.nextValidTimerDeadline.1.any fun deadline => decide (deadline ≤ system.clock)

/-- Every timer that has expired is drained. -/
theorem Sound.expired_drained (sound : Sound system) (pc : system.pc = .draining) :
    System.expired { system with scheduler := (system.scheduler.drainExpiredTimers system.clock).1, pc := .testing } =
      false := by
  have drains : Moved false system .run _ _ := .drains pc
  have after := sound.moved drains
  have consistent := sound.consistent
  rw [pc] at consistent
  have drained : Drained system.clock system.scheduler _ _ := drained_timers consistent.order
  unfold System.expired
  cases found : (system.scheduler.drainExpiredTimers system.clock).1.state.nextValidTimerDeadline.1 with
  | none => rfl
  | some deadline =>
      obtain ⟨⟨nodeId, latest⟩, _⟩ := after.consistent.order.queued.nextValidTimerDeadline_least found
      dsimp only at latest
      rw [drained.latest] at latest
      have ahead : system.clock < deadline := of_decide_eq_true (Option.filter_eq_some_iff.mp latest).2
      simpa using ahead

end

/-- So many accesses a call makes at most, from its first one on. -/
def callsIn (budget : Nat) : Nat := budget * (4 * budget + 7) + (4 * budget + 6)

namespace Frame

/-- How many accesses a call still makes at most; one that rests is started with the budget. -/
def accessesLeft (passing : Passing) (budget : Nat) (frame : Frame) : Nat :=
  match frame.stage with
  | .resting => 4 * budget + 6
  | .flushing => 4 * frame.remainingBudget + if passing.flushesFirst then 5 else 4
  | .polling => 4 * frame.remainingBudget + if passing.flushesFirst then 4 else 5
  | .receiving => 4 * frame.remainingBudget + 3
  | .taking => 4 * (frame.remainingBudget - 1) + 5
  | .offering _ => 4 * (frame.remainingBudget - 1) + 4
  | .finishing => 2
  | .returning _ => 1

end Frame

/-- Every access brings the end of the call closer. -/
def Access.Shortens (passing : Passing) (budget : Nat) (frame : Frame) : Access → Prop
  | .enter next => (next budget).accessesLeft passing budget < frame.accessesLeft passing budget
  | .push _ next | .poll next | .probe next =>
      ∀ answer, (next answer).accessesLeft passing budget < frame.accessesLeft passing budget
  | .pop next => ∀ answer, (next answer).accessesLeft passing budget < frame.accessesLeft passing budget
  | .turn next => next.accessesLeft passing budget < frame.accessesLeft passing budget
  | .leave _ => True

theorem Passing.shortens (passing : Passing) (budget : Nat) (frame : Frame) :
    (passing.next frame).Shortens passing budget frame := by
  obtain ⟨stage, pending, remainingBudget, workUnits⟩ := frame
  have started : Frame.accessesLeft passing budget ⟨passing.first, pending, budget, 0⟩ = 4 * budget + 5 := by
    unfold Passing.first Frame.accessesLeft
    cases order : passing.flushesFirst <;> rfl
  have flushed (pending : List FbpMessage) (remainingBudget : Nat) :
      Frame.accessesLeft passing budget ⟨passing.afterFlush, pending, remainingBudget, workUnits⟩ <
        4 * remainingBudget + if passing.flushesFirst then 5 else 4 := by
    unfold Passing.afterFlush Frame.accessesLeft
    cases order : passing.flushesFirst <;> simp
  have polled : Frame.accessesLeft passing budget ⟨passing.afterPoll, pending, remainingBudget, workUnits⟩ <
      4 * remainingBudget + if passing.flushesFirst then 4 else 5 := by
    unfold Passing.afterPoll Frame.accessesLeft
    cases order : passing.flushesFirst <;> simp
  cases stage with
  | resting =>
      show Frame.accessesLeft passing budget ⟨passing.first, pending, budget, 0⟩ < 4 * budget + 6
      omega
  | flushing =>
      cases remainingBudget with
      | zero => exact flushed pending 0
      | succ remainingBudget =>
          cases pending with
          | nil => exact flushed [] (remainingBudget + 1)
          | cons packet rest =>
              intro accepted
              cases accepted with
              | true =>
                  show 4 * remainingBudget + (if passing.flushesFirst then 5 else 4) <
                    4 * (remainingBudget + 1) + if passing.flushesFirst then 5 else 4
                  omega
              | false => exact flushed (packet :: rest) (remainingBudget + 1)
  | polling =>
      intro stop
      cases stop with
      | true =>
          show 1 < 4 * remainingBudget + if passing.flushesFirst then 4 else 5
          split <;> omega
      | false => exact polled
  | receiving =>
      cases remainingBudget with
      | zero => exact Nat.lt_succ_self 2
      | succ remainingBudget =>
          intro stop
          cases stop with
          | true =>
              show 1 < 4 * (remainingBudget + 1) + 3
              omega
          | false =>
              show 4 * remainingBudget + 5 < 4 * (remainingBudget + 1) + 3
              omega
  | taking =>
      intro popped
      cases popped with
      | none =>
          show 2 < 4 * (remainingBudget - 1) + 5
          omega
      | some ip =>
          cases transformed : passing.spec.transform ip with
          | none =>
              simp only [transformed]
              show 1 < 4 * (remainingBudget - 1) + 5
              omega
          | some packet =>
              simp only [transformed]
              exact Nat.lt_succ_self _
  | offering packet =>
      intro accepted
      cases accepted with
      | true => exact Nat.lt_succ_self _
      | false =>
          show Frame.accessesLeft passing budget (if passing.spec.leavesWhenFull then _ else _) <
            4 * (remainingBudget - 1) + 4
          cases passing.spec.leavesWhenFull with
          | true =>
              show 2 < _
              omega
          | false => exact Nat.lt_succ_self _
  | finishing =>
      intro abandoned
      exact Nat.lt_succ_self 1
  | returning returned => trivial

variable {layout : Layout} {enforced : Bool} {flow next first last : Flow layout} {doing : Doing layout}
variable {events trace : List Event} {nodeId : NodeId} {passing : Passing}
variable {rank : NodeId → Nat} {forwarders : Finset NodeId}

/-- The accesses of the calls that a dispatch of the node still makes. -/
def Flow.callsLeft (flow : Flow layout) (nodeId : NodeId) (budget : Nat) : Nat :=
  match layout.passing nodeId with
  | none => 0
  | some passing => budget * (4 * budget + 7) + (flow.frames nodeId).accessesLeft passing budget

/-- The moves of the run thread up to its next dispatch or wait. -/
def Flow.movesLeft (flow : Flow layout) : Nat :=
  match flow.network.system.pc with
  | .parked _ | .finished | .panicked _ => 0
  | .popping => 1
  | .retesting => 2
  | .choosing => if flow.network.system.expired then 6 else 1
  | .testing => if flow.network.system.expired then 7 else 3
  | .draining => 4
  | .top | .notified => 5
  | .checkingIn .. => 6
  | .processing nodeId _ context _ => 7 + flow.callsLeft nodeId context.remainingBudget
  | .entering _ _ context => 8 + callsIn context.budgetClass.units

/-- The dispatches to come, where what may still be asked for counts twice. -/
def Flow.prospects (rank : NodeId → Nat) (forwarders : Finset NodeId) (flow : Flow layout) : Nat :=
  2 * flow.reserve rank forwarders + flow.network.system.standings

/-- What a dispatch takes at most. -/
def dispatchMoves : Nat := 9 + callsIn BudgetClass.realtime.units

/-- A bound for the moves of a network that is left alone. -/
def Flow.fuel (rank : NodeId → Nat) (forwarders : Finset NodeId) (flow : Flow layout) : Nat :=
  dispatchMoves * flow.prospects rank forwarders + flow.movesLeft

/-- The moves of a network that is left alone: nothing comes from outside, no timer runs out, and the
other nodes return without having worked. -/
def Driven (_ : Flow layout) : Doing layout → Prop
  | .deed (.schedule .run) | .deed (.announce _) | .proceed _ => True
  | .deed (.schedule (.processReturns reply)) => reply.returned.units = none
  | _ => False

theorem Driven.calm (driven : Driven flow doing) : Calm flow doing := by
  unfold Driven at driven
  split at driven
  · rfl
  · trivial
  · trivial
  · next reply =>
      show reply.returned.units.isSome.toNat = 0
      rw [driven]
      rfl
  · exact driven.elim

/-- What the moves of a network keep, however they are made. -/
structure Flow.Kept (flow : Flow layout) : Prop extends flow.Orderly where
  sound : Sound flow.network.system
  waits : Waits flow.network.system
  funded : flow.network.system.pc.Funded
  framed : ∀ nodeId passing, layout.passing nodeId = some passing → flow.Framed nodeId

theorem Flow.Done.prospects (descends : layout.Descends rank forwarders) (orderly : flow.Orderly)
    (done : flow.Done enforced doing events next) (calm : Calm flow doing) :
    next.prospects rank forwarders ≤ flow.prospects rank forwarders := by
  have reserve := done.reserve descends calm
  have standings : next.network.system.standings ≤ flow.network.system.standings + events.countP Event.asks := by
    rcases done.system with ⟨action, moved⟩ | ⟨same, rfl⟩
    · exact orderly.owned.standings moved
    · rw [same]
      exact Nat.le_add_right _ _
  unfold Flow.prospects
  omega

theorem Flow.prospects_lt (reserve : 1 + next.reserve rank forwarders ≤ flow.reserve rank forwarders)
    (standings : next.network.system.standings ≤ flow.network.system.standings + 1) :
    next.prospects rank forwarders < flow.prospects rank forwarders := by
  unfold Flow.prospects
  omega

/-- A signal that was owed is worth more than the dispatch it asks for. -/
theorem Network.Done.announced {told : NodeId} {network : Network layout.wiring} (orderly : flow.Orderly)
    (done : flow.network.Done enforced (.announce told) events network) :
    Flow.prospects rank forwarders { flow with network } < flow.prospects rank forwarders := by
  cases done with
  | @announces _ events system owed moved =>
      obtain ⟨asked, alarms⟩ := moved.signals_alarms
      have standings := orderly.owned.standings moved
      have erased := List.length_erase_of_mem owed
      have some := List.length_pos_of_mem owed
      refine Flow.prospects_lt (Flow.reserve_le rfl (fun edge => Nat.le_of_eq ?_) ?_) ?_
      · exact Network.follow_length _ system events edge
      · show 1 + ((flow.network.owed.erase told).length + system.alarms) ≤ _
        omega
      · show system.standings ≤ _
        omega

theorem callsIn_le (budgetClass : BudgetClass) : 8 + callsIn budgetClass.units < dispatchMoves := by
  cases budgetClass <;> decide

/-- A move of the run thread brings its next dispatch or wait closer, or is the dispatch. -/
theorem Flow.Kept.runs {system : System Unit} (kept : flow.Kept)
    (moved : Moved enforced flow.network.system .run events system) :
    Flow.movesLeft { flow with network := flow.network.follow system events } < flow.movesLeft ∨
      system.standings < flow.network.system.standings ∧
        Flow.movesLeft { flow with network := flow.network.follow system events } < dispatchMoves := by
  cases moved with
  | locks pc | relocks pc =>
      have before : flow.movesLeft = 5 := by simp only [Flow.movesLeft, pc]
      left
      rw [before]
      exact Nat.lt_succ_self 4
  | drains pc =>
      have before : flow.movesLeft = 4 := by simp only [Flow.movesLeft, pc]
      left
      rw [before]
      show (if System.expired _ then 7 else 3) < 4
      refine lt_of_eq_of_lt (if_neg ?_) (Nat.lt_succ_self 3)
      exact Bool.eq_false_iff.mp (kept.sound.expired_drained pc)
  | leavesWait pc leaves =>
      have before : flow.movesLeft = if flow.network.system.expired then 7 else 3 := by simp only [Flow.movesLeft, pc]
      left
      rw [before]
      show 2 < _
      split <;> omega
  | mustWait pc running idle =>
      have before : flow.movesLeft = if flow.network.system.expired then 7 else 3 := by simp only [Flow.movesLeft, pc]
      left
      rw [before]
      show (if flow.network.system.expired then 6 else 1) < _
      split <;> omega
  | recheck pc timer expired =>
      have passed : flow.network.system.expired = true := by simp [System.expired, timer, expired]
      have before : flow.movesLeft = 6 := by simp only [Flow.movesLeft, pc, passed, if_true]
      left
      rw [before]
      show 4 < 6
      omega
  | parksTimed pc _ _ | parks pc _ =>
      have before : flow.movesLeft = if flow.network.system.expired then 6 else 1 := by simp only [Flow.movesLeft, pc]
      left
      rw [before]
      show 0 < _
      split <;> omega
  | leaves pc stopped =>
      have before : flow.movesLeft = 2 := by simp only [Flow.movesLeft, pc]
      left
      rw [before]
      exact Nat.succ_pos 1
  | goesOn pc running =>
      have before : flow.movesLeft = 2 := by simp only [Flow.movesLeft, pc]
      left
      rw [before]
      exact Nat.lt_succ_self 1
  | popsNothing pc nothing =>
      have queued := kept.waits
      rw [Waits, pc] at queued
      rcases flow.network.system.scheduler.state.checkOut_cases with ⟨empty, _⟩ | ⟨_, _, _, ⟨_, _, gone⟩ | found⟩
      · exact absurd empty queued
      · rw [gone] at nothing
        cases nothing
      · obtain ⟨_, _, _, _, _, taken⟩ := found
        rw [taken] at nothing
        cases nothing
  | popsUnavailable pc unavailable =>
      have consistent := kept.sound.consistent
      rw [pc] at consistent
      exact absurd unavailable (consistent.checkOut_available kept.sound.equipped)
  | dispatches pc taken =>
      obtain ⟨rest, metrics, queue, _, _, rfl⟩ := checkOut_taken taken
      right
      refine ⟨?_, callsIn_le _⟩
      have before : flow.network.system.standings = rest.length + 1 := by
        simp only [System.standings, queue, List.length_cons, pc, Pc.inFlight]
        rfl
      rw [before]
      exact Nat.lt_succ_self rest.length
  | @enters nodeId component context pc =>
      have before : flow.movesLeft = 8 + callsIn context.budgetClass.units := by simp only [Flow.movesLeft, pc]
      left
      rw [before]
      show 7 + Flow.callsLeft _ nodeId context.budgetClass.units < 8 + _
      have calls : Flow.callsLeft
          { flow with network := flow.network.follow (flow.network.system.enter nodeId component context) [] } nodeId
            context.budgetClass.units ≤ callsIn context.budgetClass.units := by
        unfold Flow.callsLeft callsIn
        cases known : layout.passing nodeId with
        | none => exact Nat.zero_le _
        | some passing =>
            have resting := (kept.framed nodeId passing known).resting (by simp [pc, Pc.executing])
            simp only [Frame.accessesLeft, resting]
            exact Nat.le_refl _
      omega
  | @concludes nodeId component context outcome pc =>
      have before : flow.movesLeft = 6 := by simp only [Flow.movesLeft, pc]
      have after : (flow.network.system.conclude nodeId component context outcome).1.pc = .top :=
        System.conclude_pc _ _ _ _ _
      left
      rw [before]
      simp only [Flow.movesLeft, Network.follow, after]
      omega

/-- The call in flight comes closer to its end. -/
theorem Flow.movesLeft_goOn {nextFlow : Flow layout} {frame : Frame} (executing : flow.network.system.pc.executing = some nodeId)
    (known : layout.passing nodeId = some passing) (pc : nextFlow.network.system.pc = flow.network.system.pc)
    (shorter : frame.accessesLeft passing flow.network.system.pc.remainingBudget <
      (flow.frames nodeId).accessesLeft passing flow.network.system.pc.remainingBudget) :
    (nextFlow.goOn nodeId frame).movesLeft < flow.movesLeft := by
  obtain ⟨component, context, outcome, here⟩ := Pc.executing_eq.mp executing
  rw [here] at shorter
  have there : (nextFlow.goOn nodeId frame).network.system.pc = .processing nodeId component context outcome :=
    pc.trans here
  have budget : (Pc.processing nodeId component context outcome : Pc Unit).remainingBudget = context.remainingBudget := rfl
  rw [budget] at shorter
  simp only [Flow.movesLeft, here, there, Flow.callsLeft, known, Flow.goOn_frames]
  omega

/-- A push signals the consumer, and the call in flight goes on. -/
theorem Network.Done.push_pc {wiring : Wiring} {network after : Network wiring} {edge : wiring.Edge} {packet : FbpMessage}
    (done : network.Done enforced (.push edge packet) events after) : after.system.pc = network.system.pc := by
  cases done with
  | signals executing _ _ _ moved =>
      obtain ⟨component, context, outcome, pc⟩ := Pc.executing_eq.mp executing
      cases moved with
      | signals _ _ =>
          show (if _ then network.system.pc.notify else network.system.pc) = network.system.pc
          rw [pc]
          split <;> rfl
  | pushes => rfl

theorem callsIn_lt {left budget : Nat} (less : left < budget) : callsIn left < budget * (4 * budget + 7) := by
  have most : (left + 1) * (4 * left + 7) ≤ budget * (4 * budget + 7) :=
    Nat.mul_le_mul less (by omega)
  rw [Nat.succ_mul] at most
  unfold callsIn
  omega

/-- A call that goes on after it has worked has less budget. -/
theorem System.settle_budget {system : System Unit} {context left : NodeContext} {outcome final : ExecutionOutcome}
    {reply : Reply Unit} {away : NodeId} {component : Unit} (funded : 0 < context.remainingBudget)
    (goesOn : (system.settle enforced nodeId context outcome reply).pc = .processing away component left final) :
    left.remainingBudget < context.remainingBudget := by
  unfold System.settle at goesOn
  dsimp only at goesOn
  split at goesOn
  · cases goesOn
  · cases answer : reply.returned with
    | panicked =>
        rw [answer] at goesOn
        cases goesOn
    | result result =>
        rw [answer] at goesOn
        cases result with
        | noWork | finished => cases goesOn
        | didWork units =>
            have lowers := context.accountWork_lowers reply.remainingBudget units system.clock funded
            dsimp only at goesOn
            split at goesOn
            · cases goesOn
            · cases goesOn
              exact lowers

theorem Flow.Performed.winds (kept : flow.Kept) (executing : flow.network.system.pc.executing = some nodeId)
    (known : layout.passing nodeId = some passing)
    (performed : flow.Performed enforced nodeId passing (passing.next (flow.frames nodeId)) events next) :
    next.movesLeft < flow.movesLeft := by
  have shortens := passing.shortens flow.network.system.pc.remainingBudget (flow.frames nodeId)
  generalize passing.next (flow.frames nodeId) = access at performed shortens
  cases performed with
  | enters => exact Flow.movesLeft_goOn executing known rfl shortens
  | pushes _ done => exact Flow.movesLeft_goOn executing known done.push_pc (shortens true)
  | refused _ => exact Flow.movesLeft_goOn executing known rfl (shortens false)
  | polls => exact Flow.movesLeft_goOn executing known rfl (shortens _)
  | pops _ => exact Flow.movesLeft_goOn executing known rfl (shortens _)
  | empty _ => exact Flow.movesLeft_goOn executing known rfl (shortens none)
  | probes => exact Flow.movesLeft_goOn executing known rfl (shortens _)
  | turns => exact Flow.movesLeft_goOn executing known rfl shortens
  | @leaves returned reply events system replied moved =>
      obtain ⟨component, context, outcome, pc⟩ := Pc.executing_eq.mp executing
      have funded := kept.funded
      rw [pc] at funded
      have before : flow.movesLeft = 7 + flow.callsLeft nodeId context.remainingBudget := by
        simp only [Flow.movesLeft, pc]
      rw [before]
      cases moved with
      | settles _ here =>
          rw [pc] at here
          cases here
          have budget : ∀ {left final}, (flow.network.system.settle enforced nodeId context outcome reply).pc =
              .processing nodeId reply.component left final → left.remainingBudget < context.remainingBudget :=
            System.settle_budget funded
          have settled := flow.network.system.settled enforced nodeId context outcome reply
          generalize flow.network.system.settle enforced nodeId context outcome reply = system at settled budget ⊢
          cases settled with
          | overran => exact Nat.lt_of_lt_of_le (Nat.succ_pos 6) (Nat.le_add_right _ _)
          | ended _ _ _ | idle _ _ _ | exhausted _ _ _ =>
              exact Nat.lt_of_lt_of_le (Nat.lt_succ_self 6) (Nat.le_add_right _ _)
          | @again left units why signal wake budgetLeft =>
              have less := callsIn_lt (budget rfl)
              simp only [Flow.movesLeft, Flow.goOn, Network.follow, Flow.callsLeft, known, Function.update_self]
              unfold callsIn at less
              show 7 + (_ + (4 * left.remainingBudget + 6)) < _
              omega

theorem Flow.fuel_lt (moves : next.prospects rank forwarders ≤ flow.prospects rank forwarders ∧
      next.movesLeft < flow.movesLeft ∨ next.prospects rank forwarders < flow.prospects rank forwarders ∧
        next.movesLeft < flow.movesLeft + dispatchMoves) :
    next.fuel rank forwarders < flow.fuel rank forwarders := by
  unfold Flow.fuel
  rcases moves with ⟨fewer, closer⟩ | ⟨fewer, bounded⟩
  · have most := Nat.mul_le_mul_left dispatchMoves fewer
    omega
  · have most := Nat.mul_le_mul_left dispatchMoves (Nat.succ_le_of_lt fewer)
    rw [Nat.mul_succ] at most
    omega

/-- A signal at most wakes the run thread. -/
theorem Flow.movesLeft_signalled {told : NodeId} {network : Network layout.wiring}
    (done : flow.network.Done enforced (.announce told) events network) :
    Flow.movesLeft { flow with network } < flow.movesLeft + dispatchMoves := by
  have enough : 5 < dispatchMoves := by decide
  cases done with
  | announces owed moved =>
      cases moved with
      | signals _ free =>
          cases pc : flow.network.system.pc with
          | draining | testing | choosing | retesting | popping => simp [System.lockFree, pc, Pc.holdsLock] at free
          | _ =>
              cases accepted : (flow.network.system.scheduler.signalReady told).2 <;>
                simp only [Flow.movesLeft, Network.follow, Bool.false_eq_true, if_false, if_true, pc, Pc.notify,
                  Flow.callsLeft] <;> omega

/-- A node that does not work comes to the end of its dispatch. -/
theorem Flow.movesLeft_returns {reply : Reply Unit} {system : System Unit}
    (moved : Moved enforced flow.network.system (.processReturns reply) events system)
    (idle : reply.returned.units = none) :
    Flow.movesLeft { flow with network := flow.network.follow system events } < flow.movesLeft := by
  cases moved with
  | @settles away component context outcome _ pc =>
      have before : flow.movesLeft = 7 + flow.callsLeft away context.remainingBudget := by
        simp only [Flow.movesLeft, pc]
      rw [before]
      have settled := flow.network.system.settled enforced away context outcome reply
      generalize flow.network.system.settle enforced away context outcome reply = system at settled ⊢
      cases settled with
      | overran => exact Nat.lt_of_lt_of_le (Nat.succ_pos 6) (Nat.le_add_right _ _)
      | ended _ _ _ | idle _ _ _ | exhausted _ _ _ =>
          exact Nat.lt_of_lt_of_le (Nat.lt_succ_self 6) (Nat.le_add_right _ _)
      | again why _ _ _ =>
          rw [why] at idle
          cases idle

/-- Every move of a network that is left alone uses up what bounds them. -/
theorem Flow.Kept.winds (kept : flow.Kept) (descends : layout.Descends rank forwarders)
    (done : flow.Done enforced doing events next) (driven : Driven flow doing) :
    next.fuel rank forwarders < flow.fuel rank forwarders := by
  have prospects := done.prospects descends kept.toOrderly driven.calm
  refine Flow.fuel_lt ?_
  cases done with
  | @deeds deed events network foreign done =>
      cases deed with
      | schedule action =>
          cases done with
          | @moves _ _ system moved =>
              cases action with
              | run =>
                  rcases kept.runs moved with closer | ⟨dispatched, bounded⟩
                  · exact .inl ⟨prospects, closer⟩
                  · refine .inr ⟨?_, Nat.lt_of_lt_of_le bounded (Nat.le_add_left _ _)⟩
                    have reserve : _ ≤ flow.reserve rank forwarders := Network.Done.reserve (.moves moved) driven.calm
                    unfold Flow.prospects
                    show 2 * Flow.reserve rank forwarders _ + system.standings < _
                    omega
              | processReturns reply => exact .inl ⟨prospects, Flow.movesLeft_returns moved driven⟩
              | _ => exact driven.elim
      | announce told => exact .inr ⟨done.announced kept.toOrderly, Flow.movesLeft_signalled done⟩
      | _ => exact driven.elim
  | tells _ _ => exact driven.elim
  | proceeds executing known performed => exact .inl ⟨prospects, performed.winds kept executing known⟩

theorem Flow.Kept.done (kept : flow.Kept) (done : flow.Done enforced doing events next) : next.Kept := by
  refine ⟨kept.toOrderly.done done, ?_, ?_, ?_, fun nodeId passing known =>
    (kept.framed nodeId passing known).done known kept.sound kept.funded done⟩
  · rcases done.system with ⟨action, moved⟩ | ⟨same, _⟩
    · exact kept.sound.moved moved
    · exact same ▸ kept.sound
  · rcases done.system with ⟨action, moved⟩ | ⟨same, _⟩
    · exact kept.waits.moved kept.sound.consistent moved
    · exact same ▸ kept.waits
  · rcases done.system with ⟨action, moved⟩ | ⟨same, _⟩
    · exact kept.funded.moved moved
    · exact same ▸ kept.funded

theorem kept_run {scheduler : Scheduler Unit} {clock : Instant} {rings : layout.wiring.Edge → Ring FbpMessage}
    (built : Built scheduler) (equipped : Equipped scheduler.state)
    (run : (flowMachine layout enforced).Run anyMove (.start scheduler clock rings) trace flow) : flow.Kept := by
  refine Machine.Run.invariant Flow.Kept run ?_ fun _ kept step => kept.done (Flow.done_of_step step)
  exact ⟨⟨built.owned clock, built.consistent.order⟩, built.sound equipped, waits_start, trivial,
    fun _ _ _ => ⟨fun _ => rfl, fun away => absurd rfl away, fun returns => by cases returns⟩⟩

/-- Nobody has a move to make before something comes from outside or the next timer runs out. -/
def Flow.AtRest (flow : Flow layout) : Prop :=
  flow.network.owed = [] ∧
    match flow.network.system.pc with
    | .parked deadline => flow.network.system.scheduler.state.readyQueue = [] ∧
        NextDeadline deadline flow.network.system.scheduler.state
    | .finished => flow.network.system.scheduler.running = false
    | .panicked _ => True
    | _ => False

/-- The run thread is neither in a call nor at an end nor waiting. -/
def Pc.goesOn {κ : Type} : Pc κ → Bool
  | .parked _ | .processing .. | .finished | .panicked _ => false
  | _ => true

theorem System.runStep_isSome {κ : Type} {system : System κ} (goesOn : system.pc.goesOn = true) :
    system.runStep.isSome = true := by
  unfold System.runStep
  cases pc : system.pc with
  | parked _ | processing _ _ _ _ | finished | panicked _ => simp [pc, Pc.goesOn] at goesOn
  | choosing =>
      dsimp only
      split
      · split <;> rfl
      · rfl
  | popping =>
      dsimp only
      split <;> rfl
  | _ => rfl

theorem Flow.run_isSome (goesOn : flow.network.system.pc.goesOn = true) :
    (flow.step enforced (.deed (.schedule .run))).isSome = true := by
  have foreign : flow.Foreign (.schedule .run) := fun call => by cases call
  simp only [Flow.step, if_pos foreign, Network.step, Network.act, System.step, Option.isSome_map]
  exact System.runStep_isSome goesOn

theorem Flow.announce_isSome {told : NodeId} (owed : told ∈ flow.network.owed)
    (free : flow.network.system.lockFree = true) : (flow.step enforced (.deed (.announce told))).isSome = true := by
  have foreign : flow.Foreign (.announce told) := fun call => by cases call
  simp only [Flow.step, if_pos foreign, Network.step, if_pos owed, Network.act, System.step, if_pos free,
    Option.isSome_map, Option.isSome_some]

theorem Flow.proceed_isSome (executing : flow.network.system.pc.executing = some nodeId)
    (known : layout.passing nodeId = some passing) : (flow.step enforced (.proceed 0)).isSome = true := by
  obtain ⟨component, context, outcome, pc⟩ := Pc.executing_eq.mp executing
  simp only [Flow.step, executing, known, Option.bind_some]
  cases passing.next (flow.frames nodeId) with
  | push packet onwards =>
      simp only [Flow.perform]
      cases pushed : (flow.network.rings (layout.out nodeId)).push packet with
      | none => rfl
      | some ring =>
          simp only [Network.delivered, Option.isSome_map]
          cases layout.wiring.target (layout.out nodeId) with
          | none => rfl
          | some consumer =>
              have free : (flow.network.loaded (layout.out nodeId) packet ring).system.lockFree = true := by
                simp [Network.loaded, Network.fed, System.lockFree, pc, Pc.holdsLock]
              simp only [Network.act, System.step, if_pos free, Option.isSome_map, Option.isSome_some]
  | pop onwards =>
      simp only [Flow.perform]
      cases (flow.network.rings (layout.inn nodeId)).pop <;> rfl
  | leave returned => simp only [Flow.perform, Network.act, System.step, pc, Option.isSome_map, Option.isSome_some]
  | _ => rfl

/-- A call that ends without having worked. -/
def idleReply : Reply Unit := ⟨(), 0, false, 0, .result .noWork⟩

theorem Flow.returns_isSome (executing : flow.network.system.pc.executing = some nodeId)
    (unknown : layout.passing nodeId = none) :
    (flow.step enforced (.deed (.schedule (.processReturns idleReply)))).isSome = true := by
  obtain ⟨component, context, outcome, pc⟩ := Pc.executing_eq.mp executing
  have foreign : flow.Foreign (.schedule (.processReturns idleReply)) := by
    intro _ other here
    rw [executing, Option.mem_some_iff] at here
    exact here ▸ unknown
  simp only [Flow.step, if_pos foreign, Network.step, Network.act, System.step, pc, Option.isSome_map, Option.isSome_some]

/-- At rest is where there is nothing to be done. -/
theorem Flow.Kept.atRest_iff (kept : flow.Kept) :
    flow.AtRest ↔ ∀ doing, Driven flow doing → flow.step enforced doing = none := by
  constructor
  · rintro ⟨quiet, stands⟩ doing driven
    have stays : flow.network.system.runStep = none ∧ flow.network.system.pc.executing = none := by
      unfold System.runStep
      cases pc : flow.network.system.pc with
      | parked _ | finished | panicked _ => exact ⟨rfl, rfl⟩
      | _ =>
          rw [pc] at stands
          exact stands.elim
    obtain ⟨still, idle⟩ := stays
    unfold Driven at driven
    split at driven
    · simp [Flow.step, Network.step, Network.act, System.step, still]
    · simp [Flow.step, Network.step, quiet]
    · simp [Flow.step, idle]
    · have none : ∀ component context outcome nodeId,
          flow.network.system.pc ≠ .processing nodeId component context outcome := by
        intro component context outcome nodeId pc
        rw [pc] at idle
        cases idle
      simp only [Flow.step, Network.step, Network.act, System.step]
      split
      · split
        · next pc => exact absurd pc (none _ _ _ _)
        · rfl
      · rfl
    · exact driven.elim
  · intro stuck
    have possible (doing : Doing layout) (driven : Driven flow doing) (goes : (flow.step enforced doing).isSome = true) :
        False := by
      rw [stuck doing driven] at goes
      cases goes
    have stays : flow.network.system.pc.goesOn = false :=
      Bool.eq_false_iff.mpr fun goesOn => possible (.deed (.schedule .run)) trivial (Flow.run_isSome goesOn)
    have waits := kept.waits
    have quiet (free : flow.network.system.lockFree = true) : flow.network.owed = [] :=
      List.eq_nil_iff_forall_not_mem.mpr fun told owed =>
        possible (.deed (.announce told)) trivial (Flow.announce_isSome owed free)
    unfold Flow.AtRest
    rw [Waits] at waits
    cases pc : flow.network.system.pc with
    | parked deadline | finished =>
        rw [pc] at waits
        exact ⟨quiet (by simp [System.lockFree, pc, Pc.holdsLock]), waits⟩
    | panicked nodeId => exact ⟨quiet (by simp [System.lockFree, pc, Pc.holdsLock]), trivial⟩
    | processing nodeId component context outcome =>
        have executing : flow.network.system.pc.executing = some nodeId := by rw [pc]; rfl
        cases known : layout.passing nodeId with
        | none => exact (possible (.deed (.schedule (.processReturns idleReply))) rfl (Flow.returns_isSome executing known)).elim
        | some passing => exact (possible (.proceed 0) trivial (Flow.proceed_isSome executing known)).elim
    | _ => simp [pc, Pc.goesOn] at stays

/-- However a network without cycles has come here: left alone it comes to rest after a bounded number
of moves, whatever their order, and it is at rest exactly where none of these moves is possible. -/
theorem comes_to_rest (layout : Layout) (rank : NodeId → Nat) (forwarders : Finset NodeId) (enforced : Bool)
    (scheduler : Scheduler Unit) (clock : Instant) (rings : layout.wiring.Edge → Ring FbpMessage)
    (earlier trace : List Event) (first here : Flow layout) (doings : List (Doing layout)) (built : Built scheduler)
    (equipped : Equipped scheduler.state) (descends : layout.Descends rank forwarders)
    (started : (flowMachine layout enforced).Run anyMove (.start scheduler clock rings) earlier first)
    (driven : (flowMachine layout enforced).Permits Driven first doings)
    (played : (flowMachine layout enforced).play first doings = some (here, trace)) :
    doings.length ≤ first.fuel rank forwarders ∧
      (here.AtRest ↔ ∀ doing, Driven here doing → here.step enforced doing = none) ∧
      ∃ more last later, (flowMachine layout enforced).Permits Driven here more ∧
        (flowMachine layout enforced).play here more = some (last, later) ∧ last.AtRest := by
  have winds {flow next : Flow layout} {doing : Doing layout} {events : List Event} (driven : Driven flow doing)
      (kept : flow.Kept) (step : (flowMachine layout enforced).step flow doing = some (next, events)) :
      next.Kept ∧ next.fuel rank forwarders < flow.fuel rank forwarders := by
    have done := Flow.done_of_step step
    exact ⟨kept.done done, kept.winds descends done driven⟩
  obtain ⟨kept, bounded⟩ := Machine.play_length Flow.Kept (Flow.fuel rank forwarders) winds
    (kept_run built equipped started) driven played
  obtain ⟨more, last, later, onwards, replayed, rests, ended⟩ := Machine.play_to_end Flow.Kept
    (Flow.fuel rank forwarders) winds kept
  exact ⟨Nat.le_trans (Nat.le_add_right _ _) bounded, kept.atRest_iff, more, last, later, onwards, replayed,
    rests.atRest_iff.mpr ended⟩

instance (flow : Flow repeatAndOut) : DecidablePred (Driven flow)
  | .deed (.schedule .run) | .deed (.announce _) | .proceed _ => isTrue trivial
  | .deed (.schedule (.processReturns reply)) => inferInstanceAs (Decidable (reply.returned.units = none))
  | .deed (.schedule .wakeUp) | .deed (.schedule .selfSignalReady) | .deed (.schedule (.selfWakeAt _)) => isFalse not_false
  | .deed (.schedule (.signalReady _)) | .deed (.schedule (.wakeAt _ _)) | .deed (.schedule .storeStop) => isFalse not_false
  | .deed (.schedule .notifyStop) | .deed (.schedule (.elapse _)) => isFalse not_false
  | .deed (.push ..) | .deed (.pop _) | .deed (.feed ..) | .deed (.drain _) | .tell .. => isFalse not_false

/-- The run thread goes on until it waits. -/
def thenWaits : List (Doing repeatAndOut) := takesItsCourse ++ List.replicate 4 (.deed (.schedule .run))

theorem comes_to_rest_repeatAndOut :
    let fed := (flowMachine repeatAndOut false).played roomyStart fedOnce
    thenWaits.length ≤ fed.fuel hopsLeft {"repeat", "out"} := by
  intro fed
  have started := (flowMachine repeatAndOut false).run_played (Machine.permits_any roomyStart fedOnce) (by decide +kernel)
  have driven : (flowMachine repeatAndOut false).Permits Driven fed thenWaits := by decide +kernel
  obtain ⟨⟨here, trace⟩, played⟩ := Option.isSome_iff_exists.mp
    (show ((flowMachine repeatAndOut false).play fed thenWaits).isSome = true by decide +kernel)
  exact (comes_to_rest repeatAndOut hopsLeft {"repeat", "out"} false twoForwarders 0 (fun _ => .empty 2) _ trace fed here
    thenWaits twoForwarders_built Equipped.new.add.add repeatAndOut_descends started driven played).1

/-- What has come out of an edge stays out. -/
theorem Network.Done.taken_le {network after : Network layout.wiring} {deed : Deed layout.wiring}
    (done : network.Done enforced deed events after) (edge : layout.wiring.Edge) :
    (network.taken edge).length ≤ (after.taken edge).length := by
  have popped (other : layout.wiring.Edge) (packet : FbpMessage) (ring : Ring FbpMessage) :
      (network.taken edge).length ≤ ((network.drained other packet ring).taken edge).length := by
    by_cases same : edge = other
    · subst same
      rw [Network.drained_taken, List.length_append]
      exact Nat.le_add_right _ _
    · simp [Network.drained, Function.update_of_ne same]
  cases done with
  | pops _ _ _ => exact popped _ _ _
  | drains _ _ => exact popped _ _ _
  | _ => exact Nat.le_refl _

theorem Flow.Done.taken_le (done : flow.Done enforced doing events next) (edge : layout.wiring.Edge) :
    (flow.network.taken edge).length ≤ (next.network.taken edge).length := by
  cases done with
  | deeds _ done => exact done.taken_le edge
  | tells _ _ => exact Nat.le_refl _
  | proceeds executing known performed =>
      rcases performed.network executing known with ⟨same, _⟩ | ⟨deed, done⟩
      · rw [same]
      · exact done.taken_le edge

/-- Left alone, the forwarders are the only ones that push. -/
theorem Flow.Done.entered_same {edge : layout.wiring.Edge} (done : flow.Done enforced doing events next)
    (driven : Driven flow doing) (outside : ∀ nodeId ∈ layout.wiring.source edge, layout.passing nodeId = none) :
    next.network.entered edge = flow.network.entered edge := by
  cases done with
  | deeds _ done =>
      cases done with
      | moves _ | announces _ _ | pops _ _ _ | drains _ _ => rfl
      | signals | pushes | feeds => exact driven.elim
  | tells _ _ => exact driven.elim
  | @proceeds _ nodeId passing _ _ _ known performed =>
      generalize passing.next (flow.frames nodeId) = access at performed
      cases performed with
      | pushes _ done =>
          obtain ⟨entered, _⟩ := done.pushed
          have different : edge ≠ layout.out nodeId := by
            rintro rfl
            have unknown := outside nodeId (layout.source known)
            rw [known] at unknown
            cases unknown
          exact (congrFun entered edge).trans (Function.update_of_ne different _ _)
      | _ => rfl

/-- Left alone, nobody sets a timer. -/
theorem Flow.Done.alarms_le (done : flow.Done enforced doing events next) (driven : Driven flow doing) :
    next.network.system.alarms ≤ flow.network.system.alarms := by
  cases done with
  | @deeds deed _ _ _ done =>
      cases done with
      | @moves action _ _ moved =>
          have brings : action.brings = 0 := driven.calm
          have asked := moved.alarms
          exact Nat.le_trans (Nat.le_add_left _ _) (brings ▸ asked)
      | announces _ moved => exact moved.signals_alarms.2
      | signals | pushes | feeds => exact driven.elim
      | pops _ _ _ | drains _ _ => exact Nat.le_refl _
  | tells _ _ => exact driven.elim
  | @proceeds _ nodeId passing _ _ _ _ performed =>
      generalize passing.next (flow.frames nodeId) = access at performed
      cases performed with
      | pushes _ done =>
          cases done with
          | signals _ _ _ _ moved => exact moved.signals_alarms.2
          | pushes => exact Nat.le_refl _
      | leaves _ moved => exact moved.returns_alarms.2
      | _ => exact Nat.le_refl _

/-- There is room in the OUT edge of a forwarder for what is in it and for everything that is on its
way there, in a chain that begins with an edge from outside. -/
def Flow.Roomy (nodeId : NodeId) (flow : Flow layout) : Prop :=
  ∃ front chain, layout.Chain front chain (layout.out nodeId) ∧
    (∀ other ∈ layout.wiring.source front, layout.passing other = none) ∧
    (flow.network.rings (layout.out nodeId)).buffer.length + Multiset.card (flow.underway chain) <
      (flow.network.rings (layout.out nodeId)).capacity

theorem Flow.supplied_card {rings : layout.wiring.Edge → Ring FbpMessage} {edge : layout.wiring.Edge}
    (fifo : flow.network.Fifo (rings edge).buffer edge) : Multiset.card (flow.supplied rings edge) =
      (flow.network.taken edge).length + (flow.network.rings edge).buffer.length := by
  rw [Flow.supplied, fifo, Multiset.coe_card, List.length_append]

/-- A forwarder for whose packets there is room finds no full edge as long as the network is left alone. -/
theorem Flow.Roomy.not_full {scheduler : Scheduler Unit} {clock : Instant} {rings : layout.wiring.Edge → Ring FbpMessage}
    {earlier later : List Event} (roomy : first.Roomy nodeId)
    (started : (flowMachine layout enforced).Run anyMove (.start scheduler clock rings) earlier first)
    (alone : (flowMachine layout enforced).Run Driven first later last)
    (fresh : ∀ nodeId passing, layout.passing nodeId = some passing → (rings (layout.out nodeId)).buffer = []) :
    ¬ last.Full nodeId := by
  obtain ⟨front, chain, joined, outside, room⟩ := roomy
  have run := started.append alone.any
  have entered : last.network.entered front = first.network.entered front :=
    Machine.Run.invariant (fun flow : Flow layout => flow.network.entered front = first.network.entered front) alone rfl
      fun driven same step => ((Flow.done_of_step step).entered_same driven outside).trans same
  have taken : (first.network.taken (layout.out nodeId)).length ≤ (last.network.taken (layout.out nodeId)).length :=
    Machine.Run.invariant (fun flow : Flow layout => (first.network.taken (layout.out nodeId)).length ≤
      (flow.network.taken (layout.out nodeId)).length) alone (Nat.le_refl _)
      fun _ most step => most.trans ((Flow.done_of_step step).taken_le _)
  have capacity := capacity_run alone.any (layout.out nodeId)
  have before := Flow.delivers_chain (fifo_run started) (fun _ _ known => passes_run started known) fresh joined
  have after := Flow.delivers_chain (fifo_run run) (fun _ _ known => passes_run run known) fresh joined
  have supplied : last.supplied rings front = first.supplied rings front := by rw [Flow.supplied, entered]; rfl
  rw [supplied, before] at after
  have counted := congrArg Multiset.card after
  rw [Multiset.card_add, Multiset.card_add, Flow.supplied_card (fifo_run started _),
    Flow.supplied_card (fifo_run run _)] at counted
  unfold Flow.Full
  rw [capacity]
  omega

theorem Flow.AtRest.quiescent {deadline : Option Instant} (rests : flow.AtRest)
    (pc : flow.network.system.pc = .parked deadline) (untimed : flow.network.system.alarms = 0) :
    flow.network.Quiescent := by
  obtain ⟨owed, stands⟩ := rests
  rw [pc] at stands
  refine ⟨stands.1, by rw [pc]; rfl, ?_, owed⟩
  unfold System.alarms at untimed
  exact List.eq_nil_of_length_eq_zero (Nat.eq_zero_of_add_eq_zero_right untimed)

/-- A chain of live forwarders that have room is empty when the network is at rest. -/
theorem Flow.chain_done (quiescent : flow.network.Quiescent) (sound : Sound flow.network.system)
    (tended : ∀ nodeId passing, layout.passing nodeId = some passing → flow.Tended nodeId passing)
    {chain : List (NodeId × Passing)} {front last : layout.wiring.Edge} (joined : layout.Chain front chain last)
    (live : ∀ member ∈ chain, member.1 ∈ flow.network.system.scheduler.state.nodes)
    (room : ∀ member ∈ chain, ¬ flow.Full member.1) :
    (∀ member ∈ chain, (flow.frames member.1).pending = [] ∧ flow.Empty member.1) ∧ flow.underway chain = 0 := by
  induction joined with
  | nil edge => exact ⟨by simp, rfl⟩
  | @cons nodeId passing chain last known rest ih =>
      have here := List.mem_cons_self (a := (nodeId, passing)) (l := chain)
      obtain ⟨others, beyond⟩ := ih (fun member there => live member (List.mem_cons_of_mem _ there))
        fun member there => room member (List.mem_cons_of_mem _ there)
      obtain ⟨pending, waiting, nothing⟩ := (tended nodeId passing known).empty quiescent sound (live _ here) (room _ here)
      have empty : (flow.network.rings (layout.inn nodeId)).buffer = [] := nothing
      refine ⟨fun member member_chain => ?_, ?_⟩
      · rcases List.mem_cons.mp member_chain with rfl | there
        · exact ⟨pending, nothing⟩
        · exact others member there
      · rw [Flow.underway, empty, waiting, beyond]
        simp [delivers_zero]

theorem Layout.Chain.known {chain : List (NodeId × Passing)} {front last : layout.wiring.Edge}
    (joined : layout.Chain front chain last) : ∀ member ∈ chain, layout.passing member.1 = some member.2 := by
  induction joined with
  | nil edge => simp
  | cons known rest ih =>
      intro member there
      rcases List.mem_cons.mp there with rfl | there
      · exact known
      · exact ih member there

/-- Where there is room for all packets that are under way, no timer is set and nobody interferes, a
network that comes to rest with the forwarders of a chain alive has delivered everything that has ever
gone into the chain, each packet turned into what the chain makes of it. -/
theorem left_alone_arrives (layout : Layout) (enforced : Bool) (scheduler : Scheduler Unit) (clock : Instant)
    (rings : layout.wiring.Edge → Ring FbpMessage) (earlier later : List Event) (first here : Flow layout)
    (built : Built scheduler) (equipped : Equipped scheduler.state)
    (fresh : ∀ nodeId passing, layout.passing nodeId = some passing → (rings (layout.out nodeId)).buffer = [])
    (queued : ∀ nodeId passing, layout.passing nodeId = some passing →
      (rings (layout.inn nodeId)).buffer = [] ∨ nodeId ∈ scheduler.state.readyQueue)
    (started : (flowMachine layout enforced).Run (SparesFull enforced) (.start scheduler clock rings) earlier first)
    (untimed : first.network.system.alarms = 0)
    (roomy : ∀ nodeId passing, layout.passing nodeId = some passing → first.Roomy nodeId)
    (alone : (flowMachine layout enforced).Run Driven first later here) (rests : here.AtRest)
    (waits : ∃ deadline, here.network.system.pc = .parked deadline) (chain : List (NodeId × Passing))
    (front last : layout.wiring.Edge) (joined : layout.Chain front chain last)
    (live : ∀ member ∈ chain, member.1 ∈ here.network.system.scheduler.state.nodes) :
    (∀ member ∈ chain, (here.frames member.1).pending = [] ∧ here.Empty member.1) ∧
      delivers chain (here.supplied rings front) = here.supplied rings last := by
  have spares : (flowMachine layout enforced).Run (SparesFull enforced) first later here :=
    alone.restrict fun driven _ done member nodeId passing known _ full =>
      absurd full ((roomy nodeId passing known).not_full started.any driven fresh)
  have run := started.append spares
  obtain ⟨sound, tended⟩ := tended_of_start built equipped queued run
  have still : here.network.system.alarms = 0 := by
    have fewer : here.network.system.alarms ≤ first.network.system.alarms :=
      Machine.Run.invariant (fun flow : Flow layout => flow.network.system.alarms ≤ first.network.system.alarms) alone
        (Nat.le_refl _) fun driven most step => ((Flow.done_of_step step).alarms_le driven).trans most
    omega
  obtain ⟨deadline, pc⟩ := waits
  have quiescent := rests.quiescent pc still
  have room : ∀ member ∈ chain, ¬ here.Full member.1 := fun member there =>
    (roomy member.1 member.2 (joined.known member there)).not_full started.any alone fresh
  obtain ⟨empty, beyond⟩ := Flow.chain_done quiescent sound tended joined live room
  have accounted := Flow.delivers_chain (fifo_run run.any) (fun _ _ known => passes_run run.any known) fresh joined
  rw [beyond, add_zero] at accounted
  exact ⟨empty, accounted⟩

/-- A run thread that is not stopped, in no dispatch and without a move of its own is waiting. -/
theorem Flow.Kept.atRest_of_idle (kept : flow.Kept) (still : flow.network.system.pc.goesOn = false)
    (idle : flow.network.system.pc.inFlight = none) (running : flow.network.system.scheduler.running = true)
    (owed : flow.network.owed = []) : flow.AtRest ∧ ∃ deadline, flow.network.system.pc = .parked deadline := by
  have waits := kept.waits
  unfold Flow.AtRest
  rw [Waits] at waits
  cases pc : flow.network.system.pc with
  | parked deadline =>
      rw [pc] at waits
      exact ⟨⟨owed, waits⟩, deadline, rfl⟩
  | finished =>
      rw [pc, running] at waits
      cases waits
  | processing nodeId component context outcome => simp [pc, Pc.inFlight] at idle
  | panicked nodeId => simp [pc, Pc.inFlight] at idle
  | _ => simp [pc, Pc.goesOn] at still

theorem left_alone_arrives_repeatAndOut :
    let fed := (flowMachine repeatAndOut false).played roomyStart fedOnce
    let here := (flowMachine repeatAndOut false).played fed thenWaits
    delivers [("repeat", Repeat.passing), ("out", Output.passing)]
      (here.supplied (fun _ => .empty 2) (0 : Fin 3)) = here.supplied (fun _ => .empty 2) (2 : Fin 3) := by
  intro fed here
  have permits : (flowMachine repeatAndOut false).Permits HasRoom roomyStart fedOnce := by decide +kernel
  have started := ((flowMachine repeatAndOut false).run_played permits (by decide +kernel)).weaken
    fun _ _ room => HasRoom.spares room
  have driven : (flowMachine repeatAndOut false).Permits Driven fed thenWaits := by decide +kernel
  have alone := (flowMachine repeatAndOut false).run_played driven (by decide +kernel)
  have kept : here.Kept := kept_run twoForwarders_built Equipped.new.add.add (started.any.append alone.any)
  obtain ⟨rests, waits⟩ := kept.atRest_of_idle (by decide +kernel) (by decide +kernel) (by decide +kernel)
    (by decide +kernel)
  have roomy : ∀ nodeId passing, repeatAndOut.passing nodeId = some passing → fed.Roomy nodeId := by
    intro nodeId passing known
    have member := repeatAndOut_descends.known nodeId passing known
    rcases Finset.mem_insert.mp member with rfl | last
    · exact ⟨_, _, @Layout.Chain.cons repeatAndOut "repeat" Repeat.passing [] (1 : Fin 3) rfl (.nil _), by decide,
        by decide +kernel⟩
    · rw [Finset.mem_singleton.mp last]
      exact ⟨_, _, repeatAndOut_chain, by decide, by decide +kernel⟩
  exact (left_alone_arrives repeatAndOut false twoForwarders 0 (fun _ => .empty 2) _ _ fed here twoForwarders_built
    Equipped.new.add.add (fun _ _ _ => rfl) (fun _ _ _ => .inl rfl) started (by decide +kernel) roomy alone rests waits
    _ _ _ repeatAndOut_chain (by decide +kernel)).2

end Flowd
