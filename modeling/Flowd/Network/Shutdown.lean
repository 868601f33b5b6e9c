import Flowd.Network.Machine
import Flowd.Scheduler.Stop
import Flowd.Scheduler.Timers

namespace Flowd

/-! The end of a stream, from a node that is retired to the nodes behind it.

Dropping a component abandons its edges without a word to the scheduler, so a consumer learns of
it only if it is dispatched again for some other reason.
-/

open Transition

section
variable {κ : Type} {enforced : Bool} {system next : System κ} {action : Action κ} {events : List Event}
variable {nodeId : NodeId}

def Timed (nodeId : NodeId) (system : System κ) : Prop := nodeId ∈ system.scheduler.state.timerLatestByNode

/-- The node is retired, queued or has a timer. -/
def Roused (nodeId : NodeId) (system : System κ) : Prop :=
  nodeId ∉ system.scheduler.state.readyFlags ∨ Queued nodeId system ∨ Timed nodeId system

/-- A timer stays until it fires, which queues the node. -/
theorem Timed.moved (timed : Timed nodeId system) (sound : Sound system)
    (moved : Moved enforced system action events next) :
    .retired nodeId ∈ events ∨ Queued nodeId next ∨ Timed nodeId next := by
  have consistent := sound.consistent
  cases moved with
  | drains pc =>
      have drained : Drained system.clock system.scheduler _ _ := drained_timers consistent.order
      obtain ⟨when, latest⟩ := Option.isSome_iff_exists.mp (AList.lookup_isSome.mpr timed)
      by_cases due : when ≤ system.clock
      · have fired : nodeId ∈ ((system.scheduler.drainExpiredTimers system.clock).2).map TimerWake.nodeId :=
          List.mem_map.mpr ⟨⟨when, nodeId⟩, (drained.fires _).mpr ⟨latest, due⟩, rfl⟩
        exact .inr (.inl ((drained.queued nodeId).mpr (.inr fired)))
      · refine .inr (.inr (AList.lookup_isSome.mp ?_))
        rw [drained.latest, latest]
        simp [remaining, Nat.lt_of_not_le due]
  | popsUnavailable pc unavailable =>
      rw [pc] at consistent
      exact absurd unavailable (consistent.checkOut_available sound.equipped)
  | dispatches pc taken =>
      obtain ⟨rest, metrics, _, _, _, rfl⟩ := checkOut_taken taken
      exact .inr (.inr timed)
  | @concludes away component context outcome pc =>
      cases finished : outcome.finished with
      | true =>
          obtain ⟨running, same, reports⟩ := system.conclude_finished away component context finished
          by_cases here : nodeId = away
          · subst here
            left
            rcases reports with ⟨_, reports⟩ | ⟨_, reports⟩ <;> rw [reports] <;> simp
          · refine .inr (.inr ?_)
            rw [same]
            exact (AList.mem_erase).mpr ⟨here, timed⟩
      | false =>
          obtain ⟨state, same, states⟩ := system.conclude_unfinished away component context finished
          have kept : nodeId ∈ ((system.scheduler.state.account away outcome).checkIn away component
              context).timerLatestByNode := by
            rw [SchedulerState.checkIn_timerLatestByNode]
            cases context.wakeAt with
            | none => exact timed
            | some when => exact (AList.mem_insert _).mpr (.inr timed)
          refine .inr (.inr ?_)
          rw [same]
          rcases states with ⟨_, rfl⟩ | ⟨_, rfl⟩
          · show nodeId ∈ (SchedulerState.enqueueRecorded _ away).timerLatestByNode
            rw [SchedulerState.enqueueRecorded_timerLatestByNode]
            exact kept
          · exact kept
  | @settles away component context outcome reply pc =>
      have settled := system.settled enforced away context outcome reply
      refine .inr (.inr ?_)
      generalize system.settle enforced away context outcome reply = last at settled ⊢
      cases settled <;> exact timed
  | signals signalled free =>
      refine .inr (.inr ?_)
      rcases system.scheduler.signalReady_eq signalled with ⟨_, same⟩ | ⟨flag, _, same⟩
      · simpa only [Timed, same] using timed
      · simpa [Timed, same] using timed
  | registers registered when free =>
      refine .inr (.inr ?_)
      rcases system.scheduler.wakeAt_eq registered when with ⟨_, same⟩ | ⟨_, same⟩
      · simpa only [Timed, same] using timed
      · rw [same]
        exact (AList.mem_insert _).mpr (.inr timed)
  | _ => exact .inr (.inr timed)

/-- A node that was roused stays so until it is dispatched. -/
theorem Roused.moved (roused : Roused nodeId system) (sound : Sound system)
    (moved : Moved enforced system action events next) : .dispatched nodeId ∈ events ∨ Roused nodeId next := by
  have retired (member : .retired nodeId ∈ events) : Roused nodeId next :=
    .inl fun flagged => ((mem_readyFlags_moved moved).mp flagged).2 member
  rcases roused with gone | queued | timed
  · exact .inr (.inl fun flagged => gone ((mem_readyFlags_moved moved).mp flagged).1)
  · rcases queued.moved sound moved with ⟨event, member, rfl | rfl⟩ | queued
    · exact .inl member
    · exact .inr (retired member)
    · exact .inr (.inr (.inl queued))
  · rcases timed.moved sound moved with member | queued | timed
    · exact .inr (retired member)
    · exact .inr (.inr (.inl queued))
    · exact .inr (.inr (.inr timed))

/-- A signal rouses its node. -/
theorem Roused.signalled (sound : Sound system) (moved : Moved enforced system (.signalReady nodeId) events next) :
    Roused nodeId next := by
  cases moved with
  | signals _ _ =>
      rcases system.scheduler.signalReady_eq nodeId with ⟨gone, same⟩ | ⟨flag, _, same⟩
      · refine .inl ?_
        rw [same]
        exact gone
      · refine .inr (.inl ?_)
        simpa only [Queued, same] using sound.consistent.mem_enqueueRecorded.mpr (.inl rfl)

/-- Only the check-in of a node that is done retires it. -/
theorem Moved.retires (moved : Moved enforced system action events next) (member : .retired nodeId ∈ events) :
    action = .run ∧ (∃ component context outcome, system.pc = .checkingIn nodeId component context outcome ∧
      outcome.finished = true ∧ next = (system.conclude nodeId component context outcome).1) ∧
        ∀ other, .dispatched other ∉ events := by
  cases moved with
  | @concludes away component context outcome pc =>
      cases finished : outcome.finished with
      | true =>
          obtain ⟨running, _, ⟨_, reports⟩ | ⟨_, reports⟩⟩ := system.conclude_finished away component context finished
          · simp only [reports, List.mem_singleton, Event.retired.injEq] at member
            subst member
            exact ⟨rfl, ⟨component, context, outcome, pc, finished, rfl⟩, by simp [reports]⟩
          · simp only [reports, List.mem_cons, Event.retired.injEq, reduceCtorEq, List.not_mem_nil, or_false] at member
            subst member
            exact ⟨rfl, ⟨component, context, outcome, pc, finished, rfl⟩, by simp [reports]⟩
      | false =>
          obtain ⟨state, same, _⟩ := system.conclude_unfinished away component context finished
          simp [same] at member
  | drains pc => simp at member
  | _ => simp at member

/-- A retirement rouses nobody else. -/
theorem Roused.of_retired {component : κ} {context : NodeContext} {outcome : ExecutionOutcome} {away : NodeId}
    (finished : outcome.finished = true) (other : nodeId ≠ away)
    (roused : Roused nodeId (system.conclude away component context outcome).1) : Roused nodeId system := by
  obtain ⟨running, same, _⟩ := system.conclude_finished away component context finished
  obtain ⟨metrics, retired⟩ := (system.scheduler.state.account away outcome).retire_eq away
  rw [same, retired] at roused
  rcases roused with gone | queued | timed
  · exact .inl fun flagged => gone (AList.mem_erase.mpr ⟨other, flagged⟩)
  · exact .inr (.inl (List.mem_of_mem_filter queued))
  · exact .inr (.inr (AList.mem_erase.mp timed).2)

/-- Every node has a component, and every component a node. -/
def Matched (state : SchedulerState κ) : Prop := ∀ nodeId, nodeId ∈ state.nodes ↔ nodeId ∈ state.components

theorem Matched.drainExpiredTimers {scheduler : Scheduler κ} {now : Instant} (matched : Matched scheduler.state) :
    Matched (scheduler.drainExpiredTimers now).1.state := by
  refine Scheduler.drainExpiredTimers_keeps (fun scheduler => Matched scheduler.state) ?_ ?_ ?_ matched
  · exact fun _ same => same
  · intro between entry same other
    obtain ⟨flags, fired, _⟩ := between.fireFirst_eq entry
    rw [fired, SchedulerState.enqueue_nodes, SchedulerState.enqueue_components, HashMap.mem_adjust]
    exact same other
  · exact fun _ same => same

theorem Matched.moved (matched : Matched system.scheduler.state) (sound : Sound system)
    (moved : Moved enforced system action events next) : Matched next.scheduler.state := by
  cases moved with
  | drains pc => exact matched.drainExpiredTimers
  | popsUnavailable pc unavailable =>
      have consistent := sound.consistent
      rw [pc] at consistent
      exact absurd unavailable (consistent.checkOut_available sound.equipped)
  | dispatches pc taken =>
      obtain ⟨rest, metrics, _, _, _, rfl⟩ := checkOut_taken taken
      intro other
      simp only [AList.mem_erase, matched other]
  | @concludes away component context outcome pc =>
      cases finished : outcome.finished with
      | true =>
          obtain ⟨running, same, _⟩ := system.conclude_finished away component context finished
          obtain ⟨metrics, retired⟩ := (system.scheduler.state.account away outcome).retire_eq away
          rw [same, retired]
          exact matched
      | false =>
          obtain ⟨state, same, states⟩ := system.conclude_unfinished away component context finished
          have home : Matched ((system.scheduler.state.account away outcome).checkIn away component context) := by
            intro other
            rw [SchedulerState.checkIn_nodes, SchedulerState.checkIn_components, AList.mem_insert, AList.mem_insert]
            exact or_congr_right (matched other)
          rw [same]
          rcases states with ⟨_, rfl⟩ | ⟨_, rfl⟩
          · obtain ⟨metrics, recorded⟩ := SchedulerState.enqueueRecorded_eq
              ((system.scheduler.state.account away outcome).checkIn away component context) away
            intro other
            rw [recorded, SchedulerState.enqueue_nodes, SchedulerState.enqueue_components]
            exact home other
          · exact home
  | @settles away component context outcome reply pc =>
      have settled := system.settled enforced away context outcome reply
      generalize system.settle enforced away context outcome reply = last at settled ⊢
      cases settled <;> exact matched
  | signals signalled free =>
      rcases system.scheduler.signalReady_eq signalled with ⟨_, same⟩ | ⟨flag, _, same⟩
      · rw [same]
        exact matched
      · obtain ⟨metrics, recorded⟩ := system.scheduler.state.enqueueRecorded_eq signalled
        intro other
        rw [same, recorded, SchedulerState.enqueue_nodes, SchedulerState.enqueue_components]
        exact matched other
  | registers registered when free =>
      rcases system.scheduler.wakeAt_eq registered when with ⟨_, same⟩ | ⟨_, same⟩
      · rw [same]
        exact matched
      · rw [same]
        exact matched
  | _ => exact matched

/-- The last node to be retired stops the scheduler. -/
theorem Matched.stops {component : κ} {context : NodeContext} {outcome : ExecutionOutcome}
    (matched : Matched system.scheduler.state) (finished : outcome.finished = true)
    (last : ∀ other, other ∉ system.scheduler.state.nodes) :
    (system.conclude nodeId component context outcome).1.scheduler.running = false := by
  have nodes : system.scheduler.state.nodes.entries = [] := by
    refine List.eq_nil_iff_forall_not_mem.mpr fun entry member => last entry.1 ?_
    exact List.mem_map.mpr ⟨entry, member, rfl⟩
  have components : system.scheduler.state.components.entries = [] := by
    refine List.eq_nil_iff_forall_not_mem.mpr fun entry member => last entry.1 ((matched entry.1).mpr ?_)
    exact List.mem_map.mpr ⟨entry, member, rfl⟩
  obtain ⟨metrics, retired⟩ := (system.scheduler.state.account nodeId outcome).retire_eq nodeId
  have all : ((system.scheduler.state.account nodeId outcome).retire nodeId).allFinished = true := by
    rw [retired]
    simp [SchedulerState.allFinished, SchedulerState.account, nodes, components]
  simp [System.conclude, finished, all]

end

variable {wiring : Wiring} {enforced : Bool} {network next : Network wiring} {deed : Deed wiring}
variable {events trace : List Event} {nodeId : NodeId}

/-- A node has pushed into each of its edges since its dispatch, or the consumer is retired, queued
or has a timer anyway. -/
def Announces (network : Network wiring) (nodeId : NodeId) : Prop :=
  ∀ edge, wiring.source edge = some nodeId → ∀ consumer ∈ wiring.target edge, consumer ≠ nodeId →
    edge ∈ network.pushed ∨ Roused consumer network.system

/-- The node that a deed retires. -/
def Network.retiring (network : Network wiring) : Deed wiring → Option NodeId
  | .schedule .run =>
      match network.system.pc with
      | .checkingIn nodeId _ _ outcome => if outcome.finished then some nodeId else none
      | _ => none
  | _ => none

/-- Nodes announce their retirement. -/
def Announced (network : Network wiring) (deed : Deed wiring) : Prop :=
  ∀ nodeId ∈ network.retiring deed, Announces network nodeId

/-- The consumers of what the node in flight has pushed are roused. -/
def Told (network : Network wiring) : Prop :=
  ∀ edge ∈ network.pushed, ∀ consumer ∈ wiring.target edge, Roused consumer network.system

theorem Told.follow {system : System Unit}
    (told : ∀ edge ∈ network.pushed, ∀ consumer ∈ wiring.target edge,
      .dispatched consumer ∈ events ∨ Roused consumer system) : Told (network.follow system events) := by
  intro edge member consumer target
  by_cases dispatch : events.any Event.isDispatch = true
  · simp [Network.follow, dispatch] at member
  · simp only [Network.follow, dispatch, Bool.false_eq_true, if_false] at member
    refine (told edge member consumer target).resolve_left fun dispatched => dispatch ?_
    exact List.any_eq_true.mpr ⟨_, dispatched, rfl⟩

theorem Told.done (told : Told network) (sound : Sound network.system)
    (done : network.Done enforced deed events next) : Told next := by
  cases done with
  | moves moved => exact .follow fun edge member consumer target => (told edge member consumer target).moved sound moved
  | signals _ _ here _ moved =>
      refine .follow fun edge member consumer target => ?_
      rcases List.mem_cons.mp member with rfl | member
      · rw [here] at target
        cases target
        exact .inr (.signalled sound moved)
      · exact (told edge member consumer target).moved sound moved
  | pushes _ _ nobody _ =>
      intro edge member consumer target
      rcases List.mem_cons.mp member with rfl | member
      · rw [nobody] at target
        cases target
      · exact told edge member consumer target
  | announces _ moved =>
      exact .follow fun edge member consumer target => (told edge member consumer target).moved sound moved
  | pops | feeds | drains => exact told

theorem Told.run {permitted : Network wiring → Deed wiring → Prop} {first : Network wiring} (told : Told first)
    (sound : Sound first.system) (run : (networkMachine wiring enforced).Run permitted first trace network) :
    Told network :=
  Machine.Run.history (fun _ network => Told network) run told fun prior _ told step =>
    told.done (sound.networked prior) (Network.done_of_step step)

/-- Only a check-in retires a node, and it dispatches nobody. -/
theorem Network.Done.retires (done : network.Done enforced deed events next) (member : .retired nodeId ∈ events) :
    nodeId ∈ network.retiring deed ∧ ∃ action, Moved enforced network.system action events next.system ∧
      ∀ other, .dispatched other ∉ events := by
  cases done with
  | moves moved =>
      obtain ⟨rfl, ⟨component, context, outcome, pc, finished, _⟩, quiet⟩ := moved.retires member
      refine ⟨?_, _, moved, quiet⟩
      simp [Network.retiring, pc, finished]
  | signals _ _ _ _ moved =>
      obtain ⟨impossible, _⟩ := moved.retires member
      cases impossible
  | announces _ moved =>
      obtain ⟨impossible, _⟩ := moved.retires member
      cases impossible
  | pushes | pops | feeds | drains => cases member

/-- After the retirement of its producer a consumer is dispatched, or it is roused. -/
theorem owes_notice {first : Network wiring} {edge : wiring.Edge} {producer consumer : NodeId} (told : Told first)
    (sound : Sound first.system) (run : (networkMachine wiring enforced).Run Announced first trace network)
    (source : wiring.source edge = some producer) (target : wiring.target edge = some consumer) :
    Owes (fun network : Network wiring => Roused consumer network.system) (· = .retired producer)
      (· = .dispatched consumer) trace network := by
  refine run.owes ?_ ?_
  · rintro earlier network deed next events before event after prior announced step split rfl
    have member : .retired producer ∈ events := by rw [split]; simp
    obtain ⟨retiring, action, moved, quiet⟩ := (Network.done_of_step step).retires member
    right
    by_cases here : consumer = producer
    · subst here
      exact .inl fun flagged => ((mem_readyFlags_moved moved).mp flagged).2 member
    · have roused : Roused consumer network.system := by
        rcases announced producer retiring edge source consumer target here with pushed | roused
        · exact told.run sound prior edge pushed consumer target
        · exact roused
      exact (roused.moved (sound.networked prior) moved).resolve_left (quiet consumer)
  · intro earlier network deed next events prior _ step roused
    rcases (Network.done_of_step step).system with ⟨action, moved⟩ | ⟨same, _⟩
    · exact (roused.moved (sound.networked prior) moved).imp (fun dispatched => ⟨_, dispatched, rfl⟩) id
    · rw [same]
      exact .inr roused

/-- When no node is left, the last retirement has stopped the scheduler. -/
theorem stopped_of_all_retired {permitted : Network wiring → Deed wiring → Prop} {first : Network wiring}
    (sound : Sound first.system) (matched : Matched first.system.scheduler.state)
    (run : (networkMachine wiring enforced).Run permitted first trace network) (retired : ∃ nodeId, .retired nodeId ∈ trace)
    (last : ∀ nodeId, nodeId ∉ network.system.scheduler.state.readyFlags) :
    network.system.scheduler.running = false := by
  have kept : Matched network.system.scheduler.state ∧ ((∃ nodeId, .retired nodeId ∈ trace) →
      (∀ nodeId, nodeId ∉ network.system.scheduler.state.readyFlags) →
        network.system.scheduler.running = false) := by
    refine Machine.Run.history (fun trace network => Matched (Network.system network).scheduler.state ∧
      ((∃ nodeId, .retired nodeId ∈ trace) → (∀ nodeId, nodeId ∉ (Network.system network).scheduler.state.readyFlags) →
        (Network.system network).scheduler.running = false)) run ?_ ?_
    · refine ⟨matched, fun retired => ?_⟩
      obtain ⟨_, member⟩ := retired
      cases member
    · rintro earlier network deed next events prior _ ⟨matched, stopped⟩ step
      rcases (Network.done_of_step step).system with ⟨action, moved⟩ | ⟨same, silent⟩
      · have sound := sound.networked prior
        refine ⟨matched.moved sound moved, fun retired last => ?_⟩
        by_cases now : ∃ nodeId, .retired nodeId ∈ events
        · obtain ⟨nodeId, member⟩ := now
          obtain ⟨_, ⟨component, context, outcome, pc, finished, after⟩, _⟩ := moved.retires member
          rw [after]
          refine matched.stops finished fun other home => ?_
          have flagged := (sound.consistent.flagHome other).mpr (.inl home)
          have gone : .retired other ∈ events := by
            by_contra stays
            exact last other ((mem_readyFlags_moved moved).mpr ⟨flagged, stays⟩)
          obtain ⟨_, ⟨_, _, _, there, _⟩, _⟩ := moved.retires gone
          have away : network.system.pc.inFlight = some other := by rw [there]; rfl
          exact sound.consistent.awayGone other away home
        · have before (nodeId : NodeId) : nodeId ∉ network.system.scheduler.state.readyFlags := fun flagged =>
            last nodeId ((mem_readyFlags_moved moved).mpr ⟨flagged, fun member => now ⟨nodeId, member⟩⟩)
          obtain ⟨nodeId, member⟩ := retired
          have earlier : .retired nodeId ∈ earlier :=
            (List.mem_append.mp member).resolve_right fun member => now ⟨nodeId, member⟩
          exact (stopped_moved (stopped ⟨nodeId, earlier⟩ before) moved).2
      · rw [same, silent, List.append_nil]
        exact ⟨matched, stopped⟩
  exact kept.2 retired last

theorem Network.Quiescent.not_timed (quiescent : network.Quiescent) : ¬ Timed nodeId network.system := by
  intro timed
  have member := AList.mem_keys.mp timed
  rw [quiescent.timers] at member
  cases member

/-- In a network at rest a live node has not been roused. -/
theorem Network.Quiescent.not_roused (quiescent : network.Quiescent) (sound : Sound network.system)
    (live : nodeId ∈ network.system.scheduler.state.nodes) : ¬ Roused nodeId network.system := by
  rintro (gone | queued | timed)
  · exact gone ((sound.consistent.flagHome nodeId).mpr (.inl live))
  · rw [Queued, quiescent.queue] at queued
    cases queued
  · exact quiescent.not_timed timed

/-- How the end of a stream spreads: behind a retired node everyone is dispatched once more, or is
going to be, and the last one to go stops the scheduler. -/
structure Noticed (trace : List Event) (network : Network wiring) : Prop where
  roused : ∀ {edge producer consumer before after}, wiring.source edge = some producer →
    wiring.target edge = some consumer → trace = before ++ .retired producer :: after →
      .dispatched consumer ∈ after ∨ Roused consumer network.system
  dispatched : network.Quiescent → ∀ {edge producer consumer before after}, wiring.source edge = some producer →
    wiring.target edge = some consumer → trace = before ++ .retired producer :: after →
      consumer ∈ network.system.scheduler.state.nodes → .dispatched consumer ∈ after
  stopped : (∃ nodeId, .retired nodeId ∈ trace) →
    (∀ nodeId, nodeId ∉ network.system.scheduler.state.readyFlags) → network.system.scheduler.running = false
  exact : ∀ {nodeId component context outcome}, network.system.pc = .checkingIn nodeId component context outcome →
    outcome.finished = true →
      ((∀ edge, wiring.source edge = some nodeId → ∀ consumer ∈ wiring.target edge, consumer ≠ nodeId →
        Roused consumer (network.system.conclude nodeId component context outcome).1) ↔ Announces network nodeId)

/-- In every run in which the nodes announce their retirement, the end of a stream spreads. -/
theorem retirement_noticed (wiring : Wiring) (enforced : Bool) (scheduler : Scheduler Unit) (clock : Instant)
    (rings : wiring.Edge → Ring FbpMessage) (trace : List Event) (network : Network wiring) (built : Built scheduler)
    (matched : Matched scheduler.state)
    (run : (networkMachine wiring enforced).Run Announced (.start scheduler clock rings) trace network) :
    Noticed trace network := by
  have sound : Sound (Network.start scheduler clock rings).system := built.sound fun _ => (matched _).mp
  have told : Told (Network.start scheduler clock rings) := fun _ member => by cases member
  have roused {edge producer consumer before after} (source : wiring.source edge = some producer)
      (target : wiring.target edge = some consumer) (split : trace = before ++ .retired producer :: after) :
      Event.dispatched consumer ∈ after ∨ Roused consumer network.system := by
    rcases owes_notice told sound run source target before _ after split rfl with ⟨_, member, rfl⟩ | roused
    · exact .inl member
    · exact .inr roused
  have soundNow := sound.networked run
  refine ⟨roused, ?_, stopped_of_all_retired sound matched run, ?_⟩
  · intro quiescent edge producer consumer before after source target split live
    exact (roused source target split).resolve_right (quiescent.not_roused soundNow live)
  · intro nodeId component context outcome pc finished
    constructor
    · exact fun all edge source consumer target other =>
        .inr ((all edge source consumer target other).of_retired finished other)
    · intro announces edge source consumer target other
      have before : Roused consumer network.system :=
        (announces edge source consumer target other).elim (fun pushed => told.run sound run edge pushed consumer target) id
      have moved : Moved enforced network.system .run _ _ := .concludes pc
      refine (before.moved soundNow moved).resolve_left fun dispatched => ?_
      rcases network.system.conclude_events nodeId component context outcome with reports | reports | reports <;>
        simp [reports] at dispatched

theorem Matched.new : Matched (Scheduler.new : Scheduler Unit).state := fun _ => Iff.rfl

theorem Matched.add {scheduler : Scheduler Unit} {budgetClass : BudgetClass} {now : Instant}
    (matched : Matched scheduler.state) :
    Matched ((scheduler.addNode nodeId budgetClass now).addComponent () nodeId).state := by
  intro other
  show other ∈ AList.insert nodeId _ scheduler.state.nodes ↔ other ∈ AList.insert nodeId _ scheduler.state.components
  rw [AList.mem_insert, AList.mem_insert]
  exact or_congr_right (matched other)

/-- A file is read and printed. -/
def fileToOut : Wiring where
  Edge := Unit
  source _ := some "file"
  target _ := some "out"

instance : Fintype fileToOut.Edge := inferInstanceAs (Fintype Unit)

def fileAndOut : Scheduler Unit :=
  (((Scheduler.new.addNode "file" .normal 0).addComponent () "file").addNode "out" .normal 0).addComponent () "out"

theorem fileAndOut_built : Built fileAndOut :=
  .addComponent () "out" (.addNode "out" .normal 0 (.addComponent () "file" (.addNode "file" .normal 0 .new)))

theorem fileAndOut_matched : Matched fileAndOut.state := Matched.new.add.add

def fileStart : Network fileToOut := .start fileAndOut 0 fun _ => .empty 1

/-- The first of the queue is dispatched, and its call returns that. -/
def dispatching : List (Deed fileToOut) := List.replicate 6 (.schedule .run)

def returning (returned : Returned) : Deed fileToOut := .schedule (.processReturns ⟨(), 32, false, 0, returned⟩)

/-- Both nodes are called once; FileReader waits for the file. -/
def bothIdle : List (Deed fileToOut) :=
  [.schedule (.signalReady "file"), .schedule (.signalReady "out")] ++
    dispatching ++ [.schedule (.selfWakeAt 100), returning (.result .noWork), .schedule .run] ++
    dispatching ++ [returning (.result .noWork), .schedule .run]

/-- The thread that reads the file has woken FileReader, which gets its work done and ends. -/
def fileEnds (work : List (Deed fileToOut)) : List (Deed fileToOut) :=
  bothIdle ++ [.schedule (.signalReady "file")] ++ dispatching ++ work ++
    [returning (.result (.didWork 1)), returning (.result .finished), .schedule .run]

instance decidableRoused (nodeId : NodeId) (system : System Unit) : Decidable (Roused nodeId system) :=
  inferInstanceAs (Decidable (_ ∨ nodeId ∈ system.scheduler.state.readyQueue ∨
    nodeId ∈ system.scheduler.state.timerLatestByNode))

instance decidableAnnounced [Fintype wiring.Edge] (network : Network wiring) : DecidablePred (Announced network) :=
  fun deed => inferInstanceAs (Decidable (∀ nodeId ∈ network.retiring deed, ∀ edge,
    wiring.source edge = some nodeId → ∀ consumer ∈ wiring.target edge, consumer ≠ nodeId →
      edge ∈ network.pushed ∨ Roused consumer network.system))

/-- The contents are pushed before FileReader ends. -/
def fileRead : List (Deed fileToOut) := fileEnds [.push () (.text "line")]

theorem retirement_noticed_file :
    .retired "file" ∈ (networkMachine fileToOut false).reported fileStart fileRead ∧
      Noticed ((networkMachine fileToOut false).reported fileStart fileRead)
        ((networkMachine fileToOut false).played fileStart fileRead) := by
  have permits : (networkMachine fileToOut false).Permits Announced fileStart fileRead := by decide +kernel
  have run := (networkMachine fileToOut false).run_played permits (by decide +kernel)
  exact ⟨by decide +kernel, retirement_noticed fileToOut false fileAndOut 0 _ _ _ fileAndOut_built fileAndOut_matched run⟩

/-- What the call in flight returns with a deed. -/
def Deed.reply : Deed wiring → Option (Reply Unit)
  | .schedule (.processReturns reply) => some reply
  | _ => none

/-- A consumer does not go on when all its edges are empty and abandoned. -/
def FinishesAtEnd (network : Network wiring) (deed : Deed wiring) : Prop :=
  ∀ reply ∈ deed.reply, ∀ consumer ∈ network.system.pc.executing, (∃ edge, wiring.target edge = some consumer) →
    (∀ edge, wiring.target edge = some consumer →
      (network.rings edge).isEmpty = true ∧ (network.rings edge).isAbandoned = true) →
        reply.returned ≠ .result .noWork

instance decidableFinishesAtEnd [Fintype wiring.Edge] (network : Network wiring) : DecidablePred (FinishesAtEnd network) :=
  fun deed => inferInstanceAs (Decidable (∀ reply ∈ deed.reply, ∀ consumer ∈ network.system.pc.executing,
    (∃ edge, wiring.target edge = some consumer) → (∀ edge, wiring.target edge = some consumer →
      (network.rings edge).isEmpty = true ∧ (network.rings edge).isAbandoned = true) →
        reply.returned ≠ .result .noWork))

/-- The file cannot be read: FileReader ends, and Output never hears of it. -/
theorem retirement_unnoticed :
    ¬ ∀ (wiring : Wiring) (depth : NodeId → Nat) (scheduler : Scheduler Unit) (rings : wiring.Edge → Ring FbpMessage)
        (trace : List Event) (network : Network wiring),
      (∀ edge producer consumer, wiring.source edge = some producer → wiring.target edge = some consumer →
        depth producer < depth consumer) →
      Built scheduler → Matched scheduler.state →
      (networkMachine wiring false).Run FinishesAtEnd (.start scheduler 0 rings) trace network → network.Quiescent →
      ∀ edge producer consumer before after, wiring.source edge = some producer → wiring.target edge = some consumer →
        trace = before ++ .retired producer :: after → consumer ∈ network.system.scheduler.state.nodes →
          .dispatched consumer ∈ after := by
  intro claim
  have permits : (networkMachine fileToOut false).Permits FinishesAtEnd fileStart (fileEnds []) := by decide +kernel
  have run := (networkMachine fileToOut false).run_played permits (by decide +kernel)
  have acyclic : ∀ edge producer consumer, fileToOut.source edge = some producer →
      fileToOut.target edge = some consumer →
        (if producer = "file" then 0 else 1) < (if consumer = "file" then 0 else 1) := by
    rintro edge producer consumer ⟨⟩ ⟨⟩
    decide
  have dispatched := claim fileToOut (fun nodeId => if nodeId = "file" then 0 else 1) fileAndOut _ _ _ acyclic
    fileAndOut_built fileAndOut_matched run ⟨by decide +kernel, by decide +kernel, by decide +kernel, by decide +kernel⟩
    () "file" "out" ((networkMachine fileToOut false).reported fileStart (fileEnds [])).dropLast [] rfl rfl
    (by decide +kernel) (by decide +kernel)
  cases dispatched

end Flowd
