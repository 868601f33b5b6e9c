import Flowd.Network.Arrival
import Flowd.Scheduler.Budget
import Flowd.Scheduler.Causes

namespace Flowd

/-! A network that is left alone settles: what is on its way pays for every dispatch to come.

A packet in front of a forwarder is worth what it can still set off: that it is kept, that it is sent,
the signal for that, and all of this again at the next forwarder.
-/

open Transition

section
variable {κ : Type} {enforced : Bool} {system next : System κ} {action : Action κ} {events : List Event}
variable {nodeId : NodeId}

/-- The event asks for a dispatch of some node. -/
def Event.asks : Event → Bool
  | .signalled _ true | .timerExpired _ _ | .selfSignalled _ => true
  | .returned _ (.result (.didWork _)) => true
  | _ => false

theorem Event.asks_of_asksFor {event : Event} (asks : event.asksFor nodeId = true) : event.asks = true := by
  unfold Event.asksFor at asks
  split at asks
  · rfl
  · rfl
  · rfl
  · rfl
  · cases asks

/-- The node in flight is going to register a timer. -/
def Pc.wakes : Pc κ → Bool
  | .processing _ _ context outcome | .checkingIn _ _ context outcome => context.wakeAt.isSome && !outcome.finished
  | _ => false

/-- The timers that are in force or about to be. -/
def System.alarms (system : System κ) : Nat :=
  system.scheduler.state.timerLatestByNode.keys.length + system.pc.wakes.toNat

theorem Scheduler.drainRounds_alarms (now : Instant) (rounds : Nat) (scheduler : Scheduler κ) :
    (Scheduler.drainRounds now rounds scheduler).2.length +
        (Scheduler.drainRounds now rounds scheduler).1.state.timerLatestByNode.keys.length ≤
      scheduler.state.timerLatestByNode.keys.length := by
  induction rounds generalizing scheduler with
  | zero => simp [Scheduler.drainRounds]
  | succ rounds ih =>
      rcases Scheduler.drainRounds_succ now rounds scheduler with ⟨_, last⟩ | ⟨entry, rest, _, _, latest, fired⟩
      · rw [last]
        simp
      · rw [fired]
        obtain ⟨flags, same, _⟩ := scheduler.discard.fireFirst_eq entry
        have before := ih (scheduler.discard.fireFirst entry)
        have erased : (scheduler.discard.fireFirst entry).state.timerLatestByNode.keys.length + 1 ≤
            scheduler.state.timerLatestByNode.keys.length := by
          have known : entry.nodeId ∈ scheduler.state.timerLatestByNode.keys :=
            AList.mem_keys.mp (AList.lookup_isSome.mp (by rw [latest]; rfl))
          rw [same, SchedulerState.enqueue_timerLatestByNode]
          dsimp only
          rw [AList.keys_erase, Scheduler.discard_timerLatestByNode, List.length_erase_of_mem known]
          have some := List.length_pos_of_mem known
          omega
        dsimp only
        rw [List.length_cons]
        omega

theorem Scheduler.drainExpiredTimers_alarms (scheduler : Scheduler κ) (now : Instant) :
    (scheduler.drainExpiredTimers now).2.length +
        (scheduler.drainExpiredTimers now).1.state.timerLatestByNode.keys.length ≤
      scheduler.state.timerLatestByNode.keys.length := by
  obtain ⟨rounds, same, fired⟩ := scheduler.drainExpiredTimers_eq now
  rw [same, fired]
  exact Scheduler.drainRounds_alarms now rounds scheduler

@[simp] theorem Pc.notify_wakes (pc : Pc κ) : pc.notify.wakes = pc.wakes := by
  cases pc <;> rfl

theorem HashMap.keys_insert_le {K V : Type} [DecidableEq K] (map : HashMap K V) (key : K) (value : V) :
    (map.insert key value).keys.length ≤ map.keys.length + 1 := by
  rw [AList.keys_insert, List.length_cons]
  exact Nat.succ_le_succ (List.length_erase_le)

/-- The dispatches and timers that an action of another thread or of a call asks for. -/
def Action.brings : Action κ → Nat
  | .signalReady _ | .selfSignalReady | .wakeAt _ _ | .selfWakeAt _ => 1
  | .processReturns reply => reply.returned.units.isSome.toNat
  | _ => 0

theorem Settled.wakes {component : κ} {context : NodeContext} {outcome : ExecutionOutcome} {reply : Reply κ}
    (settled : Settled system nodeId context outcome reply next)
    (pc : system.pc = .processing nodeId component context outcome) :
    next.alarms ≤ system.alarms := by
  unfold System.alarms
  rw [pc]
  cases settled with
  | overran => exact Nat.add_le_add_left (Nat.zero_le _) _
  | ended _ _ finished =>
      have silent (left : NodeContext) (final : ExecutionOutcome) (ends : final.finished = true) :
          (Pc.checkingIn nodeId reply.component left final).wakes.toNat = 0 := by
        simp [Pc.wakes, ends]
      rw [silent _ _ finished]
      exact Nat.add_le_add_left (Nat.zero_le _) _
  | idle _ _ wake | exhausted _ _ wake | again _ _ wake _ =>
      simp only [Pc.wakes, wake, ExecutionOutcome.accountWork]
      exact Nat.le_refl _

theorem System.conclude_alarms {component : κ} {context : NodeContext} {outcome : ExecutionOutcome}
    (pc : system.pc = .checkingIn nodeId component context outcome) :
    (system.conclude nodeId component context outcome).1.alarms ≤ system.alarms := by
  have done : (system.conclude nodeId component context outcome).1.pc.wakes = false := by rw [System.conclude_pc]; rfl
  have bound : (system.conclude nodeId component context outcome).1.scheduler.state.timerLatestByNode.keys.length ≤
      system.alarms := by
    cases finished : outcome.finished with
    | true =>
        obtain ⟨running, same, _⟩ := system.conclude_finished nodeId component context finished
        have erased : ((system.scheduler.state.account nodeId outcome).retire nodeId).timerLatestByNode =
            system.scheduler.state.timerLatestByNode.erase nodeId := rfl
        rw [same]
        dsimp only
        rw [erased, AList.keys_erase]
        exact Nat.le_add_right_of_le List.length_erase_le
    | false =>
        obtain ⟨state, same, states⟩ := system.conclude_unfinished nodeId component context finished
        have latest : state.timerLatestByNode =
            ((system.scheduler.state.account nodeId outcome).checkIn nodeId component context).timerLatestByNode := by
          rcases states with ⟨_, rfl⟩ | ⟨_, rfl⟩
          · simp
          · rfl
        rw [same]
        dsimp only
        rw [latest, System.alarms, pc]
        unfold SchedulerState.checkIn
        cases wake : context.wakeAt with
        | none => exact Nat.le_add_right _ _
        | some when =>
            have wakes : (Pc.checkingIn nodeId component context outcome).wakes = true := by simp [Pc.wakes, wake, finished]
            rw [wakes]
            exact HashMap.keys_insert_le system.scheduler.state.timerLatestByNode nodeId when
  rw [System.alarms, done]
  exact bound

/-- A signal asks for one dispatch at most and sets no timer. -/
theorem Moved.signals_alarms (moved : Moved enforced system (.signalReady nodeId) events next) :
    events.countP Event.asks ≤ 1 ∧ next.alarms ≤ system.alarms := by
  cases moved with
  | signals _ free =>
      have latest : (system.scheduler.signalReady nodeId).1.state.timerLatestByNode =
          system.scheduler.state.timerLatestByNode := by
        rcases system.scheduler.signalReady_eq nodeId with ⟨_, same⟩ | ⟨_, _, same⟩ <;> simp [same]
      have wakes : (if (system.scheduler.signalReady nodeId).2 then system.pc.notify else system.pc).wakes =
          system.pc.wakes := by
        split <;> simp
      refine ⟨List.countP_le_length, Nat.le_of_eq ?_⟩
      simp only [System.alarms, latest, wakes]

theorem Moved.returns_alarms {reply : Reply κ} (moved : Moved enforced system (.processReturns reply) events next) :
    events.countP Event.asks = reply.returned.units.isSome.toNat ∧ next.alarms ≤ system.alarms := by
  cases moved with
  | @settles away component context outcome reply pc =>
      refine ⟨?_, (system.settled enforced away context outcome reply).wakes pc⟩
      cases answer : reply.returned with
      | panicked => rfl
      | result result => cases result <;> rfl

/-- What a move asks for was brought by its action or was a timer in force. -/
theorem Moved.alarms (moved : Moved enforced system action events next) :
    events.countP Event.asks + next.alarms ≤ system.alarms + action.brings := by
  have stays (same : next.scheduler.state.timerLatestByNode = system.scheduler.state.timerLatestByNode)
      (wakes : next.pc.wakes = true → system.pc.wakes = true) : next.alarms ≤ system.alarms := by
    unfold System.alarms
    rw [same]
    cases later : next.pc.wakes with
    | false => exact Nat.le_add_right _ _
    | true => exact Nat.le_of_eq (by rw [wakes later])
  cases moved with
  | drains pc =>
      have fired : (((system.scheduler.drainExpiredTimers system.clock).2.map fun entry =>
          Event.timerExpired entry.nodeId entry.when).countP Event.asks) =
          (system.scheduler.drainExpiredTimers system.clock).2.length := by
        rw [List.countP_map, List.countP_eq_length]
        exact fun _ _ => rfl
      have drained := system.scheduler.drainExpiredTimers_alarms system.clock
      rw [fired]
      exact Nat.le_trans drained (Nat.le_add_right_of_le (Nat.le_add_right _ _))
  | popsUnavailable pc unavailable =>
      obtain ⟨_, rest, _, _, _, queue, rfl⟩ := SchedulerState.checkOut_unavailable unavailable
      simpa [Action.brings] using stays rfl fun wakes => by cases wakes
  | dispatches pc taken =>
      obtain ⟨rest, metrics, queue, _, _, rfl⟩ := checkOut_taken taken
      simpa [Action.brings, Event.asks] using stays rfl fun wakes => by cases wakes
  | enters pc => simpa [Action.brings] using stays rfl fun wakes => by cases wakes
  | @concludes away component context outcome pc =>
      have silent : (system.conclude away component context outcome).2.countP Event.asks = 0 := by
        rcases system.conclude_events away component context outcome with reports | reports | reports <;>
          simp [reports, Event.asks]
      rw [silent, Nat.zero_add]
      exact System.conclude_alarms pc
  | @settles away component context outcome reply pc =>
      have settles : Moved enforced system (.processReturns reply) _ _ := .settles reply pc
      obtain ⟨asked, kept⟩ := settles.returns_alarms
      rw [asked, Nat.add_comm]
      exact Nat.add_le_add_right kept _
  | selfSignals pc =>
      rw [Nat.add_comm]
      exact Nat.add_le_add_right (stays rfl id) 1
  | @selfWakes away component context outcome when pc =>
      rw [List.countP_nil, Nat.zero_add]
      exact Nat.add_le_add (Nat.le_refl _) (Bool.toNat_le _) |>.trans (Nat.add_le_add_right (Nat.le_add_right _ _) 1)
  | signals other free =>
      have signals : Moved enforced system (.signalReady other) _ _ := .signals other free
      obtain ⟨one, kept⟩ := signals.signals_alarms
      rw [Nat.add_comm]
      exact Nat.add_le_add kept one
  | registers other when free =>
      have unasked : [Event.wakeRegistered other (system.scheduler.wakeAt other when).2].countP Event.asks = 0 := rfl
      have wakes : (if (system.scheduler.wakeAt other when).2 then system.pc.notify else system.pc).wakes =
          system.pc.wakes := by
        split <;> simp
      have latest : (system.scheduler.wakeAt other when).1.state.timerLatestByNode.keys.length ≤
          system.scheduler.state.timerLatestByNode.keys.length + 1 := by
        rcases system.scheduler.wakeAt_eq other when with ⟨_, same⟩ | ⟨_, same⟩
        · rw [same]
          exact Nat.le_succ _
        · rw [same]
          exact HashMap.keys_insert_le _ other when
      rw [unasked, Nat.zero_add]
      unfold System.alarms
      rw [wakes]
      dsimp only [Action.brings]
      omega
  | storesStop => simpa [Action.brings] using stays rfl id
  | notifiesStop _ => simpa [Action.brings, Event.asks] using stays rfl fun wakes => by simpa using wakes
  | elapses _ _ => simpa [Action.brings] using stays rfl id
  | leavesWait pc _ | mustWait pc _ _ | leaves pc _ | goesOn pc _ =>
      simpa [Action.brings, Event.asks] using stays rfl fun wakes => by cases wakes
  | _ pc => simpa [Action.brings] using stays rfl fun wakes => by cases wakes

end

namespace Frame

/-- What the packets of a forwarder can still set off. -/
def worth (rank : Nat) (frame : Frame) : Nat :=
  frame.pending.length * (3 * rank + 2) +
    match frame.stage with
    | .offering _ => 3 * rank + 3 + frame.workUnits
    | .returning returned => returned.units.isSome.toNat
    | _ => frame.workUnits

end Frame

/-- No access costs more than the frame is worth; a push pays for its signal and for the packet in
the next edge, and a pop is paid by the packet. -/
def Access.Pays (rank : Nat) (frame : Frame) : Access → Prop
  | .enter next => ∀ remainingBudget, (next remainingBudget).worth rank ≤ frame.worth rank
  | .push _ next => (next true).worth rank + (3 * rank + 1) ≤ frame.worth rank ∧
      (next false).worth rank ≤ frame.worth rank
  | .poll next | .probe next => ∀ answer, (next answer).worth rank ≤ frame.worth rank
  | .pop next => (next none).worth rank ≤ frame.worth rank ∧
      ∀ ip, (next (some ip)).worth rank ≤ frame.worth rank + (3 * rank + 3)
  | .turn next => next.worth rank ≤ frame.worth rank
  | .leave returned => (Frame.rest frame.pending).worth rank + returned.units.isSome.toNat ≤ frame.worth rank

theorem Returned.units_of_finish {passing : Passing} {workUnits : Nat} {pending : List FbpMessage} {abandoned : Bool} :
    (passing.finish workUnits pending abandoned).units.isSome.toNat ≤ workUnits := by
  rcases passing.finishes workUnits pending abandoned with finished | worked
  · rw [finished]
    exact Nat.zero_le _
  · rw [worked, Returned.ofWork]
    split
    · next works => exact works
    · exact Nat.zero_le _

theorem Passing.pays (passing : Passing) (rank : Nat) (frame : Frame) : (passing.next frame).Pays rank frame := by
  obtain ⟨stage, pending, remainingBudget, workUnits⟩ := frame
  have started (remainingBudget : Nat) : Frame.worth rank ⟨passing.first, pending, remainingBudget, 0⟩ =
      pending.length * (3 * rank + 2) := by
    unfold Passing.first
    cases passing.flushesFirst <;> rfl
  have flushed (pending : List FbpMessage) (remainingBudget workUnits : Nat) :
      Frame.worth rank ⟨passing.afterFlush, pending, remainingBudget, workUnits⟩ =
        pending.length * (3 * rank + 2) + workUnits := by
    unfold Passing.afterFlush
    cases passing.flushesFirst <;> rfl
  have polled : Frame.worth rank ⟨passing.afterPoll, pending, remainingBudget, workUnits⟩ =
      pending.length * (3 * rank + 2) + workUnits := by
    unfold Passing.afterPoll
    cases passing.flushesFirst <;> rfl
  cases stage with
  | resting =>
      intro remainingBudget
      exact (Nat.le_of_eq (started remainingBudget)).trans (Nat.le_add_right _ _)
  | flushing =>
      cases remainingBudget with
      | zero => exact Nat.le_of_eq (flushed pending 0 workUnits)
      | succ remainingBudget =>
          cases pending with
          | nil => exact Nat.le_of_eq (flushed [] (remainingBudget + 1) workUnits)
          | cons packet rest =>
              refine ⟨?_, Nat.le_of_eq (flushed (packet :: rest) (remainingBudget + 1) workUnits)⟩
              have offered : (packet :: rest).length * (3 * rank + 2) = rest.length * (3 * rank + 2) + (3 * rank + 2) := by
                rw [List.length_cons, Nat.succ_mul]
              show rest.length * (3 * rank + 2) + (workUnits + 1) + (3 * rank + 1) ≤
                (packet :: rest).length * (3 * rank + 2) + workUnits
              omega
  | polling =>
      intro stop
      cases stop with
      | true => exact Nat.add_le_add_left (Nat.zero_le _) _
      | false => exact Nat.le_of_eq polled
  | receiving =>
      cases remainingBudget with
      | zero => exact Nat.le_refl _
      | succ remainingBudget =>
          intro stop
          cases stop with
          | true => exact Nat.add_le_add_left (Nat.zero_le _) _
          | false => exact Nat.le_refl _
  | taking =>
      refine ⟨Nat.le_refl _, fun ip => ?_⟩
      cases transformed : passing.spec.transform ip with
      | none =>
          simp only [transformed]
          exact Nat.le_add_right_of_le (Nat.add_le_add_left (Nat.zero_le _) _)
      | some packet =>
          simp only [transformed]
          show pending.length * (3 * rank + 2) + (3 * rank + 3 + workUnits) ≤
            pending.length * (3 * rank + 2) + workUnits + (3 * rank + 3)
          omega
  | offering packet =>
      refine ⟨?_, ?_⟩
      · show pending.length * (3 * rank + 2) + (workUnits + 1) + (3 * rank + 1) ≤
          pending.length * (3 * rank + 2) + (3 * rank + 3 + workUnits)
        omega
      · have kept : (pending ++ [packet]).length * (3 * rank + 2) = pending.length * (3 * rank + 2) + (3 * rank + 2) := by
          rw [List.length_append, List.length_singleton, Nat.succ_mul]
        show Frame.worth rank (if passing.spec.leavesWhenFull then _ else _) ≤
          pending.length * (3 * rank + 2) + (3 * rank + 3 + workUnits)
        cases passing.spec.leavesWhenFull with
        | true =>
            show (pending ++ [packet]).length * (3 * rank + 2) + workUnits ≤ _
            omega
        | false =>
            show (pending ++ [packet]).length * (3 * rank + 2) + (workUnits + 1) ≤ _
            omega
  | finishing =>
      intro abandoned
      exact Nat.add_le_add_left Returned.units_of_finish _
  | returning returned => exact Nat.le_refl _

variable {layout : Layout} {enforced : Bool} {flow next first last : Flow layout} {doing : Doing layout}
variable {events trace : List Event} {nodeId other : NodeId} {passing : Passing}
variable {rank : NodeId → Nat} {forwarders : Finset NodeId}

/-- What the packets in an IN edge can still set off. -/
def Flow.stock (rank : NodeId → Nat) (flow : Flow layout) (nodeId : NodeId) : Nat :=
  (flow.network.rings (layout.inn nodeId)).buffer.length * (3 * rank nodeId + 3)

/-- What is on its way to be asked for. -/
def Flow.reserve (rank : NodeId → Nat) (forwarders : Finset NodeId) (flow : Flow layout) : Nat :=
  flow.network.owed.length + flow.network.system.alarms +
    (∑ nodeId ∈ forwarders, flow.stock rank nodeId + ∑ nodeId ∈ forwarders, (flow.frames nodeId).worth (rank nodeId))

/-- The forwarders of a network without cycles, each further from the end than the next one. -/
structure Layout.Descends (layout : Layout) (rank : NodeId → Nat) (forwarders : Finset NodeId) : Prop where
  known : ∀ nodeId passing, layout.passing nodeId = some passing → nodeId ∈ forwarders
  member : ∀ nodeId ∈ forwarders, ∃ passing, layout.passing nodeId = some passing
  further : ∀ nodeId ∈ forwarders, ∀ other ∈ forwarders, layout.out nodeId = layout.inn other → rank other < rank nodeId

/-- Nothing comes from outside, and the other nodes do not work. -/
def Calm (_ : Flow layout) : Doing layout → Prop
  | .deed (.schedule action) => action.brings = 0
  | .deed (.pop _) | .deed (.drain _) | .deed (.announce _) => True
  | .deed (.push ..) | .deed (.feed ..) => False
  | .tell .. | .proceed _ => True

/-- The IN edges of two forwarders are two edges. -/
theorem Layout.Descends.inn_inj (descends : layout.Descends rank forwarders) (here : nodeId ∈ forwarders)
    (there : other ∈ forwarders) (same : layout.inn nodeId = layout.inn other) : nodeId = other := by
  obtain ⟨_, known⟩ := descends.member nodeId here
  obtain ⟨_, otherKnown⟩ := descends.member other there
  by_contra different
  exact layout.inn_inj known otherKnown different same

/-- A frame that changes for the better. -/
theorem Flow.worth_update {frame : Frame} {lost won : Nat} (here : nodeId ∈ forwarders)
    (paid : frame.worth (rank nodeId) + lost ≤ (flow.frames nodeId).worth (rank nodeId) + won) :
    (∑ other ∈ forwarders, (Function.update flow.frames nodeId frame other).worth (rank other)) + lost ≤
      (∑ other ∈ forwarders, (flow.frames other).worth (rank other)) + won := by
  rw [← Finset.add_sum_erase forwarders _ here, ← Finset.add_sum_erase forwarders (fun other =>
    (flow.frames other).worth (rank other)) here, Function.update_self]
  have others : ∑ other ∈ forwarders.erase nodeId, (Function.update flow.frames nodeId frame other).worth (rank other) =
      ∑ other ∈ forwarders.erase nodeId, (flow.frames other).worth (rank other) := by
    refine Finset.sum_congr rfl fun other member => ?_
    rw [Function.update_of_ne (Finset.ne_of_mem_erase member)]
  omega

/-- The rings hold no more than before. -/
theorem Flow.stock_mono (fewer : ∀ edge, (next.network.rings edge).buffer.length ≤ (flow.network.rings edge).buffer.length) :
    ∑ other ∈ forwarders, next.stock rank other ≤ ∑ other ∈ forwarders, flow.stock rank other :=
  Finset.sum_le_sum fun _ _ => Nat.mul_le_mul_right _ (fewer _)

/-- A packet that is pushed into an OUT edge adds no more than the forwarder is away from the end. -/
theorem Flow.stock_push (descends : layout.Descends rank forwarders) (here : nodeId ∈ forwarders)
    (pushed : ∀ edge, (next.network.rings edge).buffer.length ≤
      (flow.network.rings edge).buffer.length + if edge = layout.out nodeId then 1 else 0) :
    ∑ other ∈ forwarders, next.stock rank other ≤ ∑ other ∈ forwarders, flow.stock rank other + 3 * rank nodeId := by
  have added : ∑ other ∈ forwarders, (if layout.inn other = layout.out nodeId then 3 * rank other + 3 else 0) ≤
      3 * rank nodeId := by
    by_cases joined : ∃ other ∈ forwarders, layout.inn other = layout.out nodeId
    · obtain ⟨consumer, there, same⟩ := joined
      have only : ∀ other ∈ forwarders, (if layout.inn other = layout.out nodeId then 3 * rank other + 3 else 0) =
          if consumer = other then 3 * rank other + 3 else 0 := by
        intro other member
        by_cases equal : consumer = other
        · subst equal
          rw [if_pos same, if_pos rfl]
        · rw [if_neg equal, if_neg fun inn => equal (descends.inn_inj there member (same.trans inn.symm))]
      rw [Finset.sum_congr rfl only, Finset.sum_ite_eq, if_pos there]
      have closer := descends.further nodeId here consumer there same.symm
      omega
    · have none : ∀ other ∈ forwarders, (if layout.inn other = layout.out nodeId then 3 * rank other + 3 else 0) = 0 :=
        fun other member => if_neg fun same => joined ⟨other, member, same⟩
      rw [Finset.sum_eq_zero none]
      exact Nat.zero_le _
  calc ∑ other ∈ forwarders, next.stock rank other
      ≤ ∑ other ∈ forwarders, (flow.stock rank other +
          if layout.inn other = layout.out nodeId then 3 * rank other + 3 else 0) := by
        refine Finset.sum_le_sum fun other _ => ?_
        refine (Nat.mul_le_mul_right _ (pushed (layout.inn other))).trans ?_
        rw [Nat.add_mul]
        refine Nat.add_le_add_left (Nat.le_of_eq ?_) _
        split <;> simp
    _ ≤ ∑ other ∈ forwarders, flow.stock rank other + 3 * rank nodeId := by
        rw [Finset.sum_add_distrib]
        exact Nat.add_le_add_left added _

/-- A packet that is popped from an IN edge is no longer in stock. -/
theorem Flow.stock_pop (here : nodeId ∈ forwarders)
    (popped : (next.network.rings (layout.inn nodeId)).buffer.length + 1 =
      (flow.network.rings (layout.inn nodeId)).buffer.length)
    (fewer : ∀ edge, (next.network.rings edge).buffer.length ≤ (flow.network.rings edge).buffer.length) :
    ∑ other ∈ forwarders, next.stock rank other + (3 * rank nodeId + 3) ≤ ∑ other ∈ forwarders, flow.stock rank other := by
  rw [← Finset.add_sum_erase forwarders _ here, ← Finset.add_sum_erase forwarders (flow.stock rank) here]
  have others : ∑ other ∈ forwarders.erase nodeId, next.stock rank other ≤
      ∑ other ∈ forwarders.erase nodeId, flow.stock rank other := Flow.stock_mono fewer
  have mine : next.stock rank nodeId + (3 * rank nodeId + 3) = flow.stock rank nodeId := by
    unfold Flow.stock
    rw [← popped]
    exact (Nat.succ_mul _ _).symm
  omega

section
variable {wiring : Wiring} {network after : Network wiring} {edge : wiring.Edge} {packet : FbpMessage} {ring : Ring FbpMessage}

theorem Network.drained_fewer (popped : (network.rings edge).pop = some (packet, ring)) (other : wiring.Edge) :
    ((network.drained edge packet ring).rings other).buffer.length ≤ (network.rings other).buffer.length := by
  by_cases same : other = edge
  · subst same
    obtain ⟨buffer, _⟩ := Ring.pop_some popped
    simp [Network.drained, buffer]
  · simp [Network.drained, Function.update_of_ne same]

theorem Network.fed_more (pushed : (network.rings edge).push packet = some ring) (other : wiring.Edge) :
    ((network.fed edge packet ring).rings other).buffer.length =
      (network.rings other).buffer.length + if other = edge then 1 else 0 := by
  by_cases same : other = edge
  · subst same
    obtain ⟨_, buffer, _⟩ := Ring.push_some pushed
    simp [Network.fed, buffer]
  · simp [Network.fed, same]

theorem Network.follow_length (network : Network wiring) (system : System Unit) (events : List Event) (edge : wiring.Edge) :
    ((network.follow system events).rings edge).buffer.length = (network.rings edge).buffer.length := by
  unfold Network.follow
  rw [Wiring.dropEnds_buffer]

/-- What a push adds, and the signal that it sends. -/
theorem Network.Done.push_reserve (done : network.Done enforced (.push edge packet) events after) :
    (∀ other, (after.rings other).buffer.length = (network.rings other).buffer.length + if other = edge then 1 else 0) ∧
      after.owed = network.owed ∧ events.countP Event.asks + after.system.alarms ≤ network.system.alarms + 1 := by
  cases done with
  | signals _ _ _ pushed moved =>
      refine ⟨fun other => ?_, rfl, moved.alarms⟩
      rw [Network.follow_length]
      exact Network.fed_more pushed other
  | pushes _ _ _ pushed => exact ⟨Network.fed_more pushed, rfl, by simp [Network.loaded, Network.fed]⟩

end

theorem Flow.reserve_le {asked : Nat} (frames : next.frames = flow.frames)
    (fewer : ∀ edge, (next.network.rings edge).buffer.length ≤ (flow.network.rings edge).buffer.length)
    (rest : asked + (next.network.owed.length + next.network.system.alarms) ≤
      flow.network.owed.length + flow.network.system.alarms) :
    asked + next.reserve rank forwarders ≤ flow.reserve rank forwarders := by
  have stock : ∑ other ∈ forwarders, next.stock rank other ≤ ∑ other ∈ forwarders, flow.stock rank other :=
    Flow.stock_mono fewer
  unfold Flow.reserve
  rw [frames]
  omega

/-- A calm deed of the others costs nothing. -/
theorem Network.Done.reserve {network : Network layout.wiring} {deed : Deed layout.wiring}
    (done : flow.network.Done enforced deed events network) (calm : Calm flow (.deed deed)) :
    events.countP Event.asks + Flow.reserve rank forwarders { flow with network } ≤ flow.reserve rank forwarders := by
  cases done with
  | @moves action events system moved =>
      have asked := moved.alarms
      have brings : action.brings = 0 := calm
      refine Flow.reserve_le rfl (fun edge => Nat.le_of_eq (flow.network.follow_length system events edge)) ?_
      show _ + (flow.network.owed.length + system.alarms) ≤ _
      omega
  | signals | pushes | feeds => exact calm.elim
  | pops _ _ popped => exact Flow.reserve_le rfl (Network.drained_fewer popped) (by simp [Network.drained])
  | drains _ popped => exact Flow.reserve_le rfl (Network.drained_fewer popped) (by simp [Network.drained])
  | @announces told events system member moved =>
      have asked := moved.alarms
      have brings : (Action.signalReady told : Action Unit).brings = 1 := rfl
      have erased := List.length_erase_of_mem member
      have some := List.length_pos_of_mem member
      refine Flow.reserve_le rfl (fun edge => Nat.le_of_eq ?_) ?_
      · exact Network.follow_length { flow.network with owed := flow.network.owed.erase told } system events edge
      · show _ + ((flow.network.owed.erase told).length + system.alarms) ≤ _
        omega

/-- What a call pays and what it gets. -/
theorem Flow.reserve_goOn (next : Flow layout) {frame : Frame} {asked : Nat} (lost won : Nat) (here : nodeId ∈ forwarders)
    (frames : next.frames = flow.frames)
    (paid : frame.worth (rank nodeId) + lost ≤ (flow.frames nodeId).worth (rank nodeId) + won)
    (rest : asked + (next.network.owed.length + next.network.system.alarms) + ∑ other ∈ forwarders, next.stock rank other + won ≤
      flow.network.owed.length + flow.network.system.alarms + ∑ other ∈ forwarders, flow.stock rank other + lost) :
    asked + (next.goOn nodeId frame).reserve rank forwarders ≤ flow.reserve rank forwarders := by
  have worth := Flow.worth_update here paid
  have stock : ∑ other ∈ forwarders, (next.goOn nodeId frame).stock rank other =
      ∑ other ∈ forwarders, next.stock rank other := rfl
  have owed : (next.goOn nodeId frame).network = next.network := rfl
  have became : (next.goOn nodeId frame).frames = Function.update flow.frames nodeId frame := by
    rw [← frames]
    rfl
  unfold Flow.reserve
  rw [owed, stock, became]
  omega

/-- Nor do the accesses of the forwarders. -/
theorem Flow.Performed.reserve (descends : layout.Descends rank forwarders) (here : nodeId ∈ forwarders)
    (performed : flow.Performed enforced nodeId passing (passing.next (flow.frames nodeId)) events next) :
    events.countP Event.asks + next.reserve rank forwarders ≤ flow.reserve rank forwarders := by
  have pays := passing.pays (rank nodeId) (flow.frames nodeId)
  have stays {frame : Frame} (paid : frame.worth (rank nodeId) ≤ (flow.frames nodeId).worth (rank nodeId)) :
      ([] : List Event).countP Event.asks + (flow.goOn nodeId frame).reserve rank forwarders ≤
        flow.reserve rank forwarders :=
    Flow.reserve_goOn flow 0 0 here rfl paid (by simp)
  generalize passing.next (flow.frames nodeId) = access at performed pays
  cases performed with
  | enters => exact stays (pays _)
  | @pushes packet onwards ring events network _ done =>
      obtain ⟨length, owed, asked⟩ := done.push_reserve
      have stock : ∑ other ∈ forwarders, Flow.stock rank { flow with network } other ≤
          ∑ other ∈ forwarders, flow.stock rank other + 3 * rank nodeId :=
        Flow.stock_push descends here fun edge => Nat.le_of_eq (length edge)
      refine Flow.reserve_goOn { flow with network } (3 * rank nodeId + 1) 0 here rfl pays.1 ?_
      show _ + (network.owed.length + network.system.alarms) + _ + 0 ≤ _
      rw [owed]
      omega
  | refused _ => exact stays pays.2
  | polls => exact Flow.reserve_goOn (flow.polled nodeId passing.spec.reads) 0 0 here rfl (pays _) (by simp [Flow.polled, Flow.stock])
  | @pops packet onwards ring popped =>
      have fewer := Network.drained_fewer popped
      have popped_one : ((flow.network.drained (layout.inn nodeId) packet ring).rings (layout.inn nodeId)).buffer.length + 1 =
          (flow.network.rings (layout.inn nodeId)).buffer.length := by
        obtain ⟨buffer, _⟩ := Ring.pop_some popped
        simp [Network.drained, buffer]
      have stock : ∑ other ∈ forwarders,
            Flow.stock rank { flow with network := flow.network.drained (layout.inn nodeId) packet ring } other +
          (3 * rank nodeId + 3) ≤ ∑ other ∈ forwarders, flow.stock rank other :=
        Flow.stock_pop here popped_one fewer
      refine Flow.reserve_goOn { flow with network := flow.network.drained (layout.inn nodeId) packet ring } 0
        (3 * rank nodeId + 3) here rfl (pays.2 packet) ?_
      show _ + (flow.network.owed.length + flow.network.system.alarms) + _ + _ ≤ _
      rw [List.countP_nil]
      omega
  | empty _ => exact stays pays.1
  | probes => exact stays (pays _)
  | turns => exact stays pays
  | @leaves returned reply events system replied moved =>
      have asked := moved.alarms
      have brings : (Action.processReturns reply).brings = returned.units.isSome.toNat := by rw [← replied]; rfl
      have stock : ∑ other ∈ forwarders, Flow.stock rank { flow with network := flow.network.follow system events } other ≤
          ∑ other ∈ forwarders, flow.stock rank other :=
        Flow.stock_mono fun edge => Nat.le_of_eq (flow.network.follow_length system events edge)
      refine Flow.reserve_goOn { flow with network := flow.network.follow system events } returned.units.isSome.toNat 0
        here rfl pays ?_
      show _ + (flow.network.owed.length + system.alarms) + _ + 0 ≤ _
      omega

theorem Flow.Done.reserve (descends : layout.Descends rank forwarders) (done : flow.Done enforced doing events next)
    (calm : Calm flow doing) :
    events.countP Event.asks + next.reserve rank forwarders ≤ flow.reserve rank forwarders := by
  cases done with
  | deeds _ done => exact done.reserve calm
  | tells _ _ => exact Nat.le_of_eq (Nat.zero_add _)
  | proceeds _ known performed => exact performed.reserve descends (descends.known _ _ known)

/-- The flags of a scheduler that is set up are told apart. -/
theorem Built.owned {κ : Type} {scheduler : Scheduler κ} (built : Built scheduler) (clock : Instant) :
    Owned (System.start scheduler clock) := by
  induction built with
  | new =>
      refine ⟨fun _ _ found => (by cases found), fun _ _ carries => ?_⟩
      cases carries with
      | home found _ => cases found
      | away flight _ _ => cases flight
  | addNode nodeId budgetClass now _ ih => exact ih.addNode
  | addComponent component nodeId _ ih =>
      exact ih.change (.of_home ⟨fun _ context found => ⟨context, found, rfl⟩,
        fun _ present => (AList.mem_insert _).mpr (.inr present), rfl⟩ rfl rfl fun context found => ⟨context, found, rfl⟩)
  | @signalReady scheduler nodeId _ ih =>
      refine ih.change (.of_home .signalReady ?_ rfl fun _ found => by cases found)
      rcases scheduler.signalReady_eq nodeId with ⟨_, same⟩ | ⟨_, _, same⟩ <;> simp [System.start, same]
  | @wakeAt scheduler nodeId when _ ih =>
      refine ih.change (.of_home .wakeAt ?_ rfl fun _ found => by cases found)
      rcases scheduler.wakeAt_eq nodeId when with ⟨_, same⟩ | ⟨_, same⟩ <;>
        simp [System.start, same, SchedulerState.registerTimer]

/-- What the doings keep of the scheduler. -/
structure Flow.Orderly (flow : Flow layout) : Prop where
  owned : Owned flow.network.system
  order : QueuesMatch flow.network.system.scheduler.state

theorem Flow.Orderly.done (orderly : flow.Orderly) (done : flow.Done enforced doing events next) : next.Orderly := by
  rcases done.system with ⟨action, moved⟩ | ⟨same, _⟩
  · exact ⟨orderly.owned.change moved.sameFlags, orderly.order.moved moved⟩
  · constructor
    · rw [same]
      exact orderly.owned
    · rw [same]
      exact orderly.order

theorem Flow.Orderly.standing (orderly : flow.Orderly) (done : flow.Done enforced doing events next) (nodeId : NodeId) :
    events.count (.dispatched nodeId) + next.network.system.standing nodeId ≤
      flow.network.system.standing nodeId + events.countP (Event.asksFor nodeId) := by
  rcases done.system with ⟨action, moved⟩ | ⟨same, rfl⟩
  · exact orderly.owned.standing moved nodeId
  · rw [same]
    exact Nat.le_of_eq (Nat.zero_add _)

/-- However a network without cycles has come here, when it is left alone every node is dispatched at
most once more than what is on its way is worth. -/
theorem calm_settles (layout : Layout) (rank : NodeId → Nat) (forwarders : Finset NodeId) (enforced : Bool)
    (scheduler : Scheduler Unit) (clock : Instant) (rings : layout.wiring.Edge → Ring FbpMessage)
    (earlier later : List Event) (first last : Flow layout) (built : Built scheduler)
    (descends : layout.Descends rank forwarders)
    (started : (flowMachine layout enforced).Run anyMove (.start scheduler clock rings) earlier first)
    (run : (flowMachine layout enforced).Run Calm first later last) :
    later.countP Event.asks + last.reserve rank forwarders ≤ first.reserve rank forwarders ∧
      ∀ nodeId, later.count (.dispatched nodeId) ≤ first.reserve rank forwarders + 1 := by
  have orderly : first.Orderly := by
    refine Machine.Run.invariant Flow.Orderly started ⟨built.owned clock, built.consistent.order⟩ ?_
    exact fun _ orderly step => orderly.done (Flow.done_of_step step)
  obtain ⟨_, asked⟩ := Machine.Run.account (fun _ => True) (Flow.reserve rank forwarders) Event.asks (fun _ => false) run
    trivial fun calm _ step => ⟨trivial, by simpa using (Flow.done_of_step step).reserve descends calm⟩
  have bounded : later.countP Event.asks + last.reserve rank forwarders ≤ first.reserve rank forwarders := by
    simpa using asked
  refine ⟨bounded, fun nodeId => ?_⟩
  obtain ⟨_, dispatched⟩ := Machine.Run.account Flow.Orderly (fun flow => flow.network.system.standing nodeId)
    (· == Event.dispatched nodeId) (Event.asksFor nodeId) run orderly
    fun _ orderly step => ⟨orderly.done (Flow.done_of_step step), orderly.standing (Flow.done_of_step step) nodeId⟩
  have fewer : later.countP (Event.asksFor nodeId) ≤ later.countP Event.asks :=
    List.countP_mono_left fun _ _ => Event.asks_of_asksFor
  have once := orderly.order.lined.standing_le_one nodeId
  have counted : later.count (.dispatched nodeId) = later.countP (· == Event.dispatched nodeId) := rfl
  omega

/-- How far a forwarder is from the end. -/
def hopsLeft (nodeId : NodeId) : Nat := if nodeId = "repeat" then 1 else 0

theorem repeatAndOut_descends : repeatAndOut.Descends hopsLeft {"repeat", "out"} := by
  constructor
  · intro nodeId passing known
    by_cases first : nodeId = "repeat"
    · simp [first]
    · by_cases second : nodeId = "out"
      · simp [second]
      · simp [repeatAndOut, first, second] at known
  · intro nodeId member
    rcases Finset.mem_insert.mp member with rfl | last
    · exact ⟨Repeat.passing, rfl⟩
    · exact ⟨Output.passing, by rw [Finset.mem_singleton.mp last]; rfl⟩
  · decide

instance (flow : Flow repeatAndOut) : DecidablePred (Calm flow)
  | .deed (.schedule action) => inferInstanceAs (Decidable (action.brings = 0))
  | .deed (.pop _) | .deed (.drain _) | .deed (.announce _) => isTrue trivial
  | .deed (.push ..) | .deed (.feed ..) => isFalse not_false
  | .tell .. | .proceed _ => isTrue trivial

/-- What the packet sets off. -/
def takesItsCourse : List (Doing repeatAndOut) :=
  [.deed (.announce "repeat")] ++ dispatchFor 17 ++ dispatchFor 17 ++ dispatchFor 7 ++ dispatchFor 7

theorem calm_settles_repeatAndOut :
    let fed := (flowMachine repeatAndOut false).played roomyStart fedOnce
    let settled := (flowMachine repeatAndOut false).played fed takesItsCourse
    settled.reserve hopsLeft {"repeat", "out"} ≤ fed.reserve hopsLeft {"repeat", "out"} := by
  intro fed settled
  have started := (flowMachine repeatAndOut false).run_played (Machine.permits_any roomyStart fedOnce) (by decide +kernel)
  have permits : (flowMachine repeatAndOut false).Permits Calm fed takesItsCourse := by decide +kernel
  have run := (flowMachine repeatAndOut false).run_played permits (by decide +kernel)
  have settles := calm_settles repeatAndOut hopsLeft {"repeat", "out"} false twoForwarders 0 (fun _ => .empty 2) _ _ _ _
    twoForwarders_built repeatAndOut_descends started run
  exact Nat.le_trans (Nat.le_add_left _ _) settles.1

end Flowd
