import Flowd.Component.Dispatch
import Flowd.Component.EndOfStream

namespace Flowd

/-! How far the private queues of the forwarding components grow. -/

open Transition

section
variable {component : Component}

theorem Call.inbox_of_closed {ι ο : Type} {call : Call ι ο} {port : ι}
    (full : (call.ins port).ring.capacity = 0) : call.inbox port = [] := by
  have bounded := (call.ins port).ring.bounded
  exact List.length_eq_zero_iff.mp (by rw [Call.inbox]; omega)

/-- Nothing gets onto an edge of capacity 0. -/
theorem closed_run {permitted : Stream component → Traffic component → Prop} {inCapacity : component.In → Nat}
    {outCapacity : component.Out → Nat} {trace : List Returned} {stream : Stream component} {inn : component.In}
    (holds : component.State → Prop)
    (keeps : ∀ state call budget, (call.ins inn).ring.capacity = 0 → holds state →
      ((component.process state call budget).call.ins inn).ring.capacity = 0 ∧
        holds (component.process state call budget).component)
    (full : inCapacity inn = 0) (new : holds component.new)
    (run : (streamMachine component).Run permitted (.start inCapacity outCapacity) trace stream) :
    (stream.ports.ins inn).ring.capacity = 0 ∧ holds stream.state := by
  refine Machine.Run.invariant (fun stream : Stream component =>
    (stream.ports.ins inn).ring.capacity = 0 ∧ holds stream.state) run ⟨full, new⟩ ?_
  intro stream traffic next events _ closed step
  obtain ⟨full, kept⟩ := closed
  cases traffic with
  | feed port packet =>
      simp only [streamMachine, Stream.step] at step
      split at step
      · obtain ⟨ring, pushed, same⟩ := Option.map_eq_some_iff.mp step
        cases same
        refine ⟨?_, kept⟩
        dsimp only
        by_cases here : inn = port
        · subst here
          have room := (Ring.push_some pushed).1
          omega
        · rw [Function.update_of_ne here]
          exact full
      · cases step
  | close port =>
      cases step
      refine ⟨?_, kept⟩
      dsimp only
      by_cases here : inn = port
      · subst here
        rw [Function.update_self]
        exact full
      · rw [Function.update_of_ne here]
        exact full
  | signal message =>
      cases step
      exact ⟨full, kept⟩
  | drain port count =>
      cases step
      exact ⟨full, kept⟩
  | invoke remainingBudget schedule =>
      simp only [streamMachine, Stream.step] at step
      split at step
      · cases step
      · cases step
        exact keeps stream.state _ remainingBudget full kept

end

variable {σ ι ο π : Type} [DecidableEq ι] [DecidableEq ο]

namespace Buffering

variable {spec : Buffering ι ο π} {pending : List π} {call : Call ι ο} {out : ο}

/-- No downstream pop falls into the call, and everything held waits for one output
that is full. -/
structure Jammed (spec : Buffering ι ο π) (out : ο) (pending : List π) (call : Call ι ο) : Prop where
  unscheduled : ∀ port, (call.outs port).schedule = []
  route : ∀ packet ∈ pending, (spec.route packet).1 = out
  full : pending = [] ∨ (call.outs out).ring.buffer.length = (call.outs out).ring.capacity

omit [DecidableEq ι] in
theorem push_full (unscheduled : ∀ port, (call.outs port).schedule = []) (packet : FbpMessage)
    (full : (call.outs out).ring.buffer.length = (call.outs out).ring.capacity) :
    call.push (out, packet) = (call, false) := by
  unfold Call.push Outlets.push
  rw [Outlet.push_full packet (unscheduled out) full, Function.update_eq_self]

omit [DecidableEq ι] in
theorem flush_jammed (jammed : spec.Jammed out pending call) (budget : Nat) :
    spec.flush budget pending call = ⟨pending, call, budget, none⟩ := by
  cases budget with
  | zero => rfl
  | succ budget =>
      cases pending with
      | nil => rfl
      | cons first rest =>
          have route : spec.route first = (out, (spec.route first).2) := by
            rw [← jammed.route first List.mem_cons_self]
          rcases jammed.full with none | full
          · cases none
          · unfold flush
            rw [route, push_full jammed.unscheduled _ full]

theorem receive_empty (quiet : call.signalsIn = []) (empty : call.inbox spec.inn = []) (budget : Nat) :
    spec.receive budget pending call = ⟨pending, call, budget, none⟩ := by
  cases budget with
  | zero => rfl
  | succ budget =>
      have polled : call.poll spec.reads = (call, false) := by
        unfold Call.poll
        rw [quiet]
      unfold receive
      rw [polled]
      dsimp only
      rcases call.pop_cases spec.inn with ⟨_, popped⟩ | ⟨_, _, _, found, _⟩
      · rw [popped]
      · cases empty.symm.trans found

/-- Jammed, with IN empty but open.  `count` packets fill the output and the queue. -/
structure Quiet (spec : Buffering ι ο π) (out : ο) (capacity count : Nat) (pending : List π) (call : Call ι ο) :
    Prop extends Jammed spec out pending call where
  signals : call.signalsIn = []
  alive : call.isAbandoned spec.inn = false
  room : 0 < (call.ins spec.inn).ring.capacity
  capacity : (call.outs out).ring.capacity = capacity
  total : (call.outs out).ring.buffer.length + pending.length = count

omit [DecidableEq ι] [DecidableEq ο] in
theorem Quiet.length_le {capacity count : Nat} (quiet : spec.Quiet out capacity count pending call) :
    count ≤ capacity + pending.length := by
  have bounded := (call.outs out).ring.bounded
  rw [quiet.capacity] at bounded
  have total := quiet.total
  omega

omit [DecidableEq ι] [DecidableEq ο] in
/-- Only where packets are taken and sent counts. -/
theorem Quiet.congr {capacity count : Nat} {other : Buffering ι ο π} {next : Call ι ο}
    (quiet : spec.Quiet out capacity count pending call) (inn : other.inn = spec.inn) (route : other.route = spec.route)
    (inlet : next.ins spec.inn = call.ins spec.inn) (outs : next.outs = call.outs)
    (signals : next.signalsIn = call.signalsIn) : other.Quiet out capacity count pending next := by
  obtain ⟨⟨unscheduled, routes, full⟩, silent, alive, room, size, total⟩ := quiet
  refine ⟨⟨outs ▸ unscheduled, route ▸ routes, outs ▸ full⟩, signals.trans silent, ?_, ?_, outs ▸ size, outs ▸ total⟩
  · rw [inn, Call.isAbandoned, inlet]
    exact alive
  · rw [inn, inlet]
    exact room

/-- Nothing happens before the receiving loop. -/
theorem Quiet.loops {capacity count : Nat} (quiet : spec.Quiet out capacity count pending call) (budget : Nat) :
    spec.flushFirst budget pending call = spec.receive budget pending call ∧
      spec.pollFirst budget pending call = spec.receive budget pending call := by
  have polled : call.poll spec.reads = (call, false) := by
    unfold Call.poll
    rw [quiet.signals]
  unfold flushFirst pollFirst
  rw [flush_jammed quiet.toJammed, polled]
  dsimp only
  rw [polled, flush_jammed quiet.toJammed]
  exact ⟨rfl, rfl⟩

/-- The one packet on IN ends on the output or in the queue. -/
theorem receive_one {capacity count budget : Nat} {packet : FbpMessage} {made : π}
    (quiet : spec.Quiet out capacity count pending call) (found : call.inbox spec.inn = [packet])
    (good : spec.transform packet = some made) (route : (spec.route made).1 = out) :
    ∃ kept next left, spec.receive (budget + 1) pending call = ⟨kept, next, left, none⟩ ∧
      spec.Quiet out capacity (count + 1) kept next ∧ next.inbox spec.inn = [] := by
  have polled : call.poll spec.reads = (call, false) := by
    unfold Call.poll
    rw [quiet.signals]
  rcases call.pop_cases spec.inn with ⟨empty, _⟩ | ⟨_, rest, next, waits, popped, took, left, outs, heard, work⟩
  · cases found.symm.trans empty
  · cases found.symm.trans waits
    have signals : next.signalsIn = [] := (Call.pop_keeps popped).1.trans quiet.signals
    have room : 0 < (next.ins spec.inn).ring.capacity := by
      rw [(Call.pop_keeps popped).2]
      exact quiet.room
    have alive : next.isAbandoned spec.inn = false := (took.abandoned _).trans quiet.alive
    have target : spec.route made = (out, (spec.route made).2) := by
      rw [← route]
    unfold receive
    rw [polled]
    simp only [popped, good]
    rw [target]
    by_cases full : (call.outs out).ring.buffer.length = (call.outs out).ring.capacity
    · have kept : spec.Quiet out capacity (count + 1) (pending ++ [made]) next := by
        refine ⟨⟨outs ▸ quiet.unscheduled, ?_, .inr (outs ▸ full)⟩, signals, alive, room, outs ▸ quiet.capacity, ?_⟩
        · intro other member
          rcases List.mem_append.mp member with old | new
          · exact quiet.route other old
          · rw [List.mem_singleton.mp new]
            exact route
        · rw [outs, List.length_append, List.length_singleton, ← quiet.total]
          omega
      have refused : next.push (out, (spec.route made).2) = (next, false) :=
        push_full (outs ▸ quiet.unscheduled) _ (outs ▸ full)
      rw [refused]
      dsimp only
      split
      · exact ⟨_, _, _, rfl, kept, left⟩
      · have worked : spec.Quiet out capacity (count + 1) (pending ++ [made]) next.worked :=
          ⟨⟨kept.unscheduled, kept.route, kept.full⟩, kept.signals, kept.alive, kept.room, kept.capacity, kept.total⟩
        exact ⟨_, _, _, receive_empty worked.signals left budget, worked, left⟩
    · have empty : pending = [] := by
        rcases quiet.full with empty | other
        · exact empty
        · exact absurd other full
      have space : (next.outs out).ring.buffer.length < (next.outs out).ring.capacity := by
        have bounded := (call.outs out).ring.bounded
        rw [outs]
        omega
      obtain ⟨ring, pushed, buffer, same⟩ :=
        Outlet.push_room (spec.route made).2 ((outs ▸ quiet.unscheduled : ∀ port, (next.outs port).schedule = []) out) space
      have accepted : next.push (out, (spec.route made).2) =
          ({ next with outs := Function.update next.outs out { next.outs out with ring } }, true) := by
        unfold Call.push Outlets.push
        rw [pushed]
      rw [accepted]
      dsimp only
      have sent : spec.Quiet out capacity (count + 1) pending
          ({ next with outs := Function.update next.outs out { next.outs out with ring } } : Call ι ο).worked := by
        refine ⟨⟨fun port => ?_, quiet.route, .inl empty⟩, signals, alive, room, ?_, ?_⟩
        · by_cases here : port = out
          · subst here
            simpa [Call.worked, outs] using quiet.unscheduled port
          · simpa [Call.worked, Function.update_of_ne here, outs] using quiet.unscheduled port
        · simpa [Call.worked, same, outs] using quiet.capacity
        · have total := quiet.total
          simp only [Call.worked, Function.update_self, buffer, outs, List.length_append, List.length_singleton]
          omega
      exact ⟨_, _, _, receive_empty sent.signals left budget, sent, left⟩

end Buffering

namespace Overflow

variable {overflow : Overflow σ ι ο π} {new : σ} {process : σ → Call ι ο → Nat → Outcome σ ι ο}
variable {ready : σ → Call ι ο → Prop} {packet : FbpMessage} {out : ο} {capacity count : Nat}

/-- While a component is `ready`, `packet` becomes something for `out`, a call that is
not asked to stop ends with the two loops, and the component stays ready. -/
structure Steady (overflow : Overflow σ ι ο π) (process : σ → Call ι ο → Nat → Outcome σ ι ο)
    (ready : σ → Call ι ο → Prop) (packet : FbpMessage) (out : ο) : Prop where
  stable : ∀ {state call next}, ready state call →
    (∀ other, other ≠ overflow.base.inn → next.ins other = call.ins other) → ready state next
  makes : ∀ {state call}, ready state call →
    ∃ made, overflow.inForce state call packet = some made ∧ (overflow.base.route made).1 = out
  loops : ∀ {state call} budget, ready state call → ∃ prepared after,
    (after = (overflow.spec state call).flushFirst budget (overflow.pending state) prepared ∨
      after = (overflow.spec state call).pollFirst budget (overflow.pending state) prepared) ∧
    prepared.ins overflow.base.inn = call.ins overflow.base.inn ∧ prepared.outs = call.outs ∧
    prepared.signalsIn = call.signalsIn ∧
    (after.ended = none → after.call.isAbandoned overflow.base.inn = false →
      overflow.pending (process state call budget).component = after.pending ∧
      (process state call budget).call = after.call ∧
      (process state call budget).returned = after.call.didWork ∧
      ready (process state call budget).component (process state call budget).call)

/-- The stream is ready and quiet, with `waiting` on IN. -/
structure Holds (overflow : Overflow σ ι ο π) (ready : σ → Call ι ο → Prop) (out : ο) (capacity count : Nat)
    (waiting : List FbpMessage) (stream : Stream (overflow.component new process).toComponent) : Prop where
  going : stream.isOver = false
  prepared : ready stream.state stream.ports
  quiet : overflow.base.Quiet out capacity count (overflow.pending stream.state) stream.ports
  inbox : Call.inbox stream.ports overflow.base.inn = waiting

/-- A call takes the one packet that waits, if any. -/
theorem Steady.call {state : σ} {call : Call ι ο} {waiting : List FbpMessage}
    (steady : overflow.Steady process ready packet out) (prepared : ready state call)
    (quiet : overflow.base.Quiet out capacity count (overflow.pending state) call)
    (inbox : call.inbox overflow.base.inn = waiting) (kind : waiting = [] ∨ waiting = [packet])
    {budget : Nat} (positive : 0 < budget) :
    (process state call budget).returned = (process state call budget).call.didWork ∧
      ready (process state call budget).component (process state call budget).call ∧
      overflow.base.Quiet out capacity (count + waiting.length) (overflow.pending (process state call budget).component)
        (process state call budget).call ∧
      (process state call budget).call.inbox overflow.base.inn = [] := by
  obtain ⟨between, after, loops, inlet, sameOuts, sameSignals, ends⟩ := steady.loops budget prepared
  obtain ⟨made, makes, route⟩ := steady.makes prepared
  have quietBetween : (overflow.spec state call).Quiet out capacity count (overflow.pending state) between :=
    quiet.congr rfl rfl inlet sameOuts sameSignals
  have received : after = (overflow.spec state call).receive budget (overflow.pending state) between := by
    rcases loops with flush | poll
    · exact flush.trans (quietBetween.loops budget).1
    · exact poll.trans (quietBetween.loops budget).2
  have waits : between.inbox overflow.base.inn = waiting := by
    rw [← inbox, Call.inbox, inlet]
    rfl
  obtain ⟨kept, next, left, result, quietAfter, empty⟩ : ∃ kept next left,
      after = ⟨kept, next, left, none⟩ ∧
        (overflow.spec state call).Quiet out capacity (count + waiting.length) kept next ∧
        next.inbox overflow.base.inn = [] := by
    rcases kind with none | one
    · subst none
      have nothing : between.inbox (overflow.spec state call).inn = [] := waits
      have result : (overflow.spec state call).receive budget (overflow.pending state) between =
          ⟨overflow.pending state, between, budget, none⟩ := Buffering.receive_empty quietBetween.signals nothing budget
      exact ⟨_, _, _, received.trans result, quietBetween, waits⟩
    · subst one
      obtain ⟨budget, rfl⟩ : ∃ less, budget = less + 1 := ⟨budget - 1, by omega⟩
      obtain ⟨kept, next, left, result, facts⟩ := Buffering.receive_one quietBetween waits makes route
      exact ⟨kept, next, left, received.trans result, facts⟩
  subst result
  obtain ⟨pending, same, returned, still⟩ := ends rfl quietAfter.alive
  rw [returned, pending, same]
  rw [same] at still
  exact ⟨rfl, still, quietAfter.congr rfl rfl rfl rfl rfl, empty⟩

theorem Steady.after {waiting : List FbpMessage} {stream : Stream (overflow.component new process).toComponent}
    (steady : overflow.Steady process ready packet out) (holds : overflow.Holds ready out capacity count waiting stream)
    (kind : waiting = [] ∨ waiting = [packet]) {budget : Nat} (positive : 0 < budget) :
    overflow.Holds ready out capacity (count + waiting.length) []
      (stream.after (stream.invocation budget fun _ => [])) := by
  obtain ⟨going, prepared, quiet, inbox⟩ := holds
  obtain ⟨(state : σ), (ports : Call ι ο), owed, history, last⟩ := stream
  have outs : (fun port => { ports.outs port with schedule := [] }) = ports.outs := by
    funext port
    have unscheduled := quiet.unscheduled port
    dsimp only at unscheduled
    rw [← unscheduled]
  have called : ({ ports with outs := fun port => { ports.outs port with schedule := [] } } : Call ι ο) = ports := by
    rw [outs]
  obtain ⟨returned, still, quietAfter, empty⟩ := steady.call prepared quiet inbox kind positive
  dsimp only at returned still quietAfter empty
  have outcome : (Stream.invocation ⟨state, ports, owed, history, last⟩ budget fun _ => [] :
      Invocation (overflow.component new process).toComponent).outcome = process state ports budget :=
    congrArg (fun call => process state call budget) called
  refine ⟨?_, ?_, ?_, ?_⟩
  · unfold Stream.isOver Stream.after
    rw [outcome, returned]
    unfold Call.didWork
    split <;> rfl
  · unfold Stream.after
    rw [outcome]
    exact still
  · unfold Stream.after
    rw [outcome]
    exact quietAfter
  · unfold Stream.after
    rw [outcome]
    exact empty

/-- A dispatch takes the one packet that waits. -/
theorem Steady.rounds {waiting : List FbpMessage} {stream : Stream (overflow.component new process).toComponent}
    {context : NodeContext} {now : Instant} {total : Nat} (rounds : Nat) (outcome : ExecutionOutcome)
    (steady : overflow.Steady process ready packet out) (holds : overflow.Holds ready out capacity count waiting stream)
    (kind : waiting = [] ∨ waiting = [packet]) (positive : 0 < context.remainingBudget)
    (sum : count + waiting.length = total) :
    overflow.Holds ready out capacity total [] (stream.rounds now (rounds + 1) [] context outcome).stream := by
  induction rounds generalizing stream context outcome count waiting with
  | zero =>
      have after := steady.after holds kind positive
      rw [sum] at after
      unfold Stream.rounds
      dsimp only
      split
      · exact after
      · exact after
      · exact after
      · split <;> exact after
  | succ rounds ih =>
      have after := steady.after holds kind positive
      rw [sum] at after
      unfold Stream.rounds
      dsimp only
      split
      · exact after
      · exact after
      · exact after
      · next units _ =>
          split
          · exact after
          · next left => exact ih (outcome.accountWork units) after (.inl rfl) (Nat.pos_of_ne_zero left) rfl

/-- Pushing a packet to IN and dispatching the node takes it. -/
theorem Steady.grow {first station : Station (overflow.component new process).toComponent} {trace : List Returned}
    (steady : overflow.Steady process ready packet out)
    (run : (stationMachine (overflow.component new process).toComponent).Run anyMove first trace station)
    (holds : overflow.Holds ready out capacity count [] station.stream) :
    ∃ later next, (stationMachine (overflow.component new process).toComponent).Run anyMove first later next ∧
      overflow.Holds ready out capacity (count + 1) [] next.stream := by
  obtain ⟨going, prepared, quiet, inbox⟩ := holds
  obtain ⟨⟨(state : σ), (ports : Call ι ο), owed, history, last⟩, context, queued⟩ := station
  dsimp only at prepared quiet inbox going
  have alive : (ports.ins overflow.base.inn).ring.producerAlive = true := by
    simpa [Call.isAbandoned, Ring.isAbandoned] using quiet.alive
  have empty : (ports.ins overflow.base.inn).ring.buffer = [] := inbox
  have space : (ports.ins overflow.base.inn).ring.buffer.length < (ports.ins overflow.base.inn).ring.capacity := by
    rw [empty]
    exact quiet.room
  obtain ⟨ring, pushed, buffer, size, producer, _⟩ := Ring.push_of_room packet space
  let fed : Call ι ο := { ports with
    ins := Function.update ports.ins overflow.base.inn { ports.ins overflow.base.inn with ring } }
  let loaded : Station (overflow.component new process).toComponent :=
    ⟨⟨state, fed, owed, history, last⟩, context, true⟩
  have push : (stationMachine (overflow.component new process).toComponent).step
      ⟨⟨state, ports, owed, history, last⟩, context, queued⟩ (.push overflow.base.inn packet) = some (loaded, []) := by
    have feed : Stream.step (⟨state, ports, owed, history, last⟩ : Stream (overflow.component new process).toComponent)
        (.feed overflow.base.inn packet) = some (loaded.stream, []) := by
      unfold Stream.step
      dsimp only
      rw [if_pos alive, pushed]
      rfl
    change (Stream.step _ _).map _ = _
    rw [feed]
    rfl
  have inlet : fed.ins overflow.base.inn = { ports.ins overflow.base.inn with ring } := Function.update_self _ _ _
  have waits : overflow.Holds ready out capacity count [packet] loaded.stream := by
    refine ⟨going, steady.stable prepared fun other different => Function.update_of_ne different _ _, ?_, ?_⟩
    · refine ⟨⟨quiet.unscheduled, quiet.route, quiet.full⟩, quiet.signals, ?_, ?_, quiet.capacity, quiet.total⟩
      · change (fed.ins overflow.base.inn).ring.isAbandoned = false
        rw [inlet, Ring.isAbandoned, producer, alive]
        rfl
      · change 0 < (fed.ins overflow.base.inn).ring.capacity
        rw [inlet, size]
        exact quiet.room
    · change (fed.ins overflow.base.inn).ring.buffer = [packet]
      rw [inlet, buffer, empty]
      rfl
  have idle : (loaded.queued && !loaded.stream.isOver) = true := by
    rw [waits.going]
    rfl
  have dispatch : (stationMachine (overflow.component new process).toComponent).step loaded (.dispatch [] 0) =
      some (_, _) := if_pos idle
  refine ⟨_, _, .snoc (.snoc run trivial push) trivial dispatch, ?_⟩
  obtain ⟨rounds, units⟩ : ∃ rounds, context.budgetClass.units = rounds + 1 :=
    ⟨context.budgetClass.units - 1, (Nat.succ_pred_eq_of_pos context.budgetClass.units_pos).symm⟩
  change overflow.Holds ready out capacity (count + 1) [] (loaded.stream.rounds 0 context.budgetClass.units [] _ _).stream
  rw [units]
  exact steady.rounds rounds .default waits (.inr rfl) (Nat.succ_pos rounds) rfl

/-- Without downstream pops the queue grows beyond any bound. -/
theorem Steady.unbounded {first station : Station (overflow.component new process).toComponent} {trace : List Returned}
    (steady : overflow.Steady process ready packet out)
    (run : (stationMachine (overflow.component new process).toComponent).Run anyMove first trace station)
    (holds : overflow.Holds ready out capacity 0 [] station.stream) (bound : Nat) :
    ∃ later last, (stationMachine (overflow.component new process).toComponent).Run anyMove first later last ∧
      bound < ((overflow.component new process).held last.stream.state).length := by
  have reach (count : Nat) : ∃ later last,
      (stationMachine (overflow.component new process).toComponent).Run anyMove first later last ∧
        overflow.Holds ready out capacity count [] last.stream := by
    induction count with
    | zero => exact ⟨trace, station, run, holds⟩
    | succ count ih =>
        obtain ⟨earlier, middle, run, holds⟩ := ih
        exact steady.grow run holds
  obtain ⟨later, last, run, full⟩ := reach (capacity + bound + 1)
  refine ⟨later, last, run, ?_⟩
  have longer := full.quiet.length_le
  have held : ((overflow.component new process).held last.stream.state).length =
      (overflow.pending last.stream.state).length := List.length_map _
  omega

omit [DecidableEq ι] in
/-- A call with nothing on IN and nothing held ends so. -/
theorem Calls.closed {state : σ} {call : Call ι ο} {budget : Nat} {outcome : Outcome σ ι ο}
    (calls : overflow.Calls state call budget outcome) (full : (call.ins overflow.base.inn).ring.capacity = 0)
    (none : overflow.pending state = []) :
    (outcome.call.ins overflow.base.inn).ring.capacity = 0 ∧ overflow.pending outcome.component = [] := by
  have empty := Call.inbox_of_closed full
  cases calls with
  | aside returned inlet outs pending => exact ⟨by rw [inlet]; exact full, pending.trans none⟩
  | @loops prepared after exchanged inletBefore outsBefore inlet outs heard pending returned =>
      obtain ⟨new, took, _⟩ := exchanged.took
      refine ⟨?_, pending.trans (exchanged.still none ?_)⟩
      · rw [inlet, ← full, ← inletBefore]
        exact took.capacity _
      · rw [← empty, Call.inbox, Call.inbox, ← inletBefore]
        rfl

/-- Nothing is held at the start. -/
theorem quiet_start {inCapacity : ι → Nat} (outCapacity : ο → Nat) (none : overflow.pending new = [])
    (room : 0 < inCapacity overflow.base.inn) :
    overflow.base.Quiet out (outCapacity out) 0 (overflow.pending new)
      (Stream.start inCapacity outCapacity : Stream (overflow.component new process).toComponent).ports := by
  rw [none]
  exact ⟨⟨fun _ => rfl, fun _ member => (nomatch member), .inl rfl⟩, rfl, rfl, room, rfl, rfl⟩

theorem holds_start {inCapacity : ι → Nat} {outCapacity : ο → Nat}
    (prepared : ready new (Stream.start inCapacity outCapacity :
      Stream (overflow.component new process).toComponent).ports)
    (none : overflow.pending new = []) (room : 0 < inCapacity overflow.base.inn) :
    overflow.Holds ready out (outCapacity out) 0 [] (Stream.start inCapacity outCapacity :
      Stream (overflow.component new process).toComponent) :=
  ⟨rfl, prepared, quiet_start outCapacity none room, rfl⟩

/-- Behind a closed IN edge nothing is ever held. -/
theorem nothing_held {nodeId : NodeId} {budgetClass : BudgetClass} {inCapacity : ι → Nat} {outCapacity : ο → Nat}
    {trace : List Returned} {station : Station (overflow.component new process).toComponent}
    (calls : ∀ state call budget, overflow.Calls state call budget (process state call budget))
    (none : overflow.pending new = []) (full : inCapacity overflow.base.inn = 0)
    (run : (stationMachine (overflow.component new process).toComponent).Run anyMove
      (.start nodeId budgetClass inCapacity outCapacity) trace station) :
    ((overflow.component new process).held station.stream.state).length = 0 := by
  obtain ⟨later, run⟩ := Station.stream_run run
  have keeps : ∀ (state : σ) (call : Call ι ο) budget, (call.ins overflow.base.inn).ring.capacity = 0 →
      overflow.pending state = [] → ((process state call budget).call.ins overflow.base.inn).ring.capacity = 0 ∧
        overflow.pending (process state call budget).component = [] :=
    fun state call budget => (calls state call budget).closed
  have last : overflow.pending station.stream.state = [] := (closed_run (fun state => overflow.pending state = []) keeps full none run).2
  exact List.length_eq_zero_iff.mpr (List.map_eq_nil_iff.mpr last)

end Overflow

/-- Repeat, Trim and Output answer a quiet call alike. -/
theorem Forwarder.steady {spec : Forwarder} {verdict : Received InPort OutPort FbpMessage → Returned}
    {process : List FbpMessage → Call InPort OutPort → Nat → Outcome (List FbpMessage) InPort OutPort}
    {packet made : FbpMessage}
    (loops : ∀ pending call budget, ∃ after, (after = spec.flushFirst budget pending call.begin ∨
      after = spec.pollFirst budget pending call.begin) ∧ process pending call budget = after.conclude verdict)
    (going : ∀ received, received.call.isAbandoned spec.inn = false → verdict received = received.call.didWork)
    (makes : spec.transform packet = some made) :
    spec.overflow.Steady process (fun _ _ => True) packet .out where
  stable := fun _ _ => trivial
  makes := fun _ => ⟨made, makes, rfl⟩
  loops := by
    intro pending call budget _
    obtain ⟨after, kind, same⟩ := loops pending call budget
    refine ⟨call.begin, after, kind, rfl, rfl, rfl, fun ended alive => ?_⟩
    rw [same]
    refine ⟨rfl, rfl, ?_, trivial⟩
    simp only [Received.conclude, ended, Option.getD_none]
    exact going after alive

theorem Repeat.steady : Repeat.spec.overflow.Steady Repeat.process (fun _ _ => True) (.text "a") .out := by
  refine Forwarder.steady (fun pending call budget => ⟨_, .inl rfl, rfl⟩) (fun received alive => ?_) rfl
  unfold Repeat.finish
  rw [show received.call.isAbandoned InPort.inn = false from alive]
  rfl

theorem Trim.steady : Trim.spec.overflow.Steady Trim.process (fun _ _ => True) (.text "a") .out := by
  refine Forwarder.steady (fun pending call budget => ⟨_, .inl rfl, rfl⟩) (fun received alive => ?_) rfl
  unfold Trim.finish
  rw [show received.call.isAbandoned InPort.inn = false from alive]
  rfl

theorem Output.steady : Output.spec.overflow.Steady Output.process (fun _ _ => True) (.text "a") .out := by
  refine Forwarder.steady (fun pending call budget => ⟨_, .inr rfl, rfl⟩) (fun received alive => ?_) rfl
  unfold Output.finish
  rw [show received.call.isAbandoned InPort.inn = false from alive]
  rfl

namespace TextReplace

/-- The configuration is complete, or will be found to be. -/
def Ready (state : State) (call : Call ConfInPort OutPort) : Prop :=
  (state.configComplete = true ∨ call.isAbandoned .conf = true) ∧ call.inbox .conf = []

theorem readConf_ready {state : State} {call : Call ConfInPort OutPort} (ready : Ready state call) :
    readConf state call.begin = (some state.replacements, call.begin) := by
  unfold readConf
  split
  · rfl
  · have empty : call.begin.inbox .conf = [] := ready.2
    rw [empty]
    rfl

theorem steady : overflow.Steady process Ready (.text "a") .out where
  stable := by
    intro state call next ready others
    have conf := others .conf ConfInPort.inn_ne_conf.symm
    unfold Ready Call.isAbandoned Call.inbox
    rw [conf]
    exact ready
  makes := fun _ => ⟨_, rfl, rfl⟩
  loops := by
    intro state call budget ready
    have force : overflow.inForce state call = transform state.replacements := by
      change transform ((readConf state call.begin).1.getD []) = _
      rw [readConf_ready ready]
      rfl
    have same : overflow.spec state call = { base with transform := transform state.replacements } := by
      unfold Overflow.spec
      rw [force]
      rfl
    refine ⟨call.begin, _, .inr rfl, rfl, rfl, rfl, fun ended alive => ?_⟩
    obtain ⟨new, took, _⟩ := ((overflow.spec state call).pollFirst_exchanged budget state.pendingPackets call.begin).took
    have complete : (state.configComplete || call.begin.isAbandoned .conf) = true := by
      rcases ready.1 with done | abandoned
      · rw [done]
        rfl
      · rw [show call.begin.isAbandoned .conf = true from abandoned, Bool.or_true]
    unfold process
    rw [readConf_ready ready]
    dsimp only
    rw [complete, ← same]
    change ((overflow.spec state call).pollFirst budget state.pendingPackets call.begin).ended = none at ended
    change ((overflow.spec state call).pollFirst budget state.pendingPackets call.begin).call.isAbandoned .inn = false
      at alive
    refine ⟨rfl, rfl, ?_, .inl rfl, ?_⟩
    · simp only [Bool.not_true, Bool.false_and, Bool.false_eq_true, if_false, ended, Option.getD_none,
        Received.finishAbandoned, alive]
      rfl
    · have others := took.others .conf ConfInPort.inn_ne_conf.symm
      have empty : (call.begin.ins .conf).ring.buffer = [] := ready.2
      rw [← others] at empty
      exact empty

end TextReplace

namespace Equals

/-- The value to compare with is "x", or it is the only packet on CMP. -/
def Ready (state : State) (call : Call In Out) : Prop :=
  state.cmpValue = some (.text "x") ∧ call.inbox .cmp = [] ∨
    state.cmpValue = none ∧ call.inbox .cmp = [.text "x"]

theorem inn_ne_cmp : In.inn ≠ .cmp := by decide

theorem readCmp_ready {state : State} {call : Call In Out} (ready : Ready state call) :
    ∃ prepared, readCmp state call.begin = (some (.text "x"), prepared) ∧ prepared.inbox .cmp = [] ∧
      prepared.ins .inn = call.ins .inn ∧ prepared.outs = call.outs ∧ prepared.signalsIn = call.signalsIn := by
  unfold readCmp
  rcases ready with ⟨value, empty⟩ | ⟨none, waits⟩
  · rw [value]
    exact ⟨call.begin, rfl, empty, rfl, rfl, rfl⟩
  · rw [none]
    have begun : call.begin.inbox .cmp = [.text "x"] := waits
    rcases call.begin.pop_cases .cmp with ⟨empty, _⟩ | ⟨packet, rest, next, found, popped, took, left, outs, _⟩
    · cases begun.symm.trans empty
    · cases begun.symm.trans found
      dsimp only
      rw [popped]
      exact ⟨next, rfl, left, took.others .inn inn_ne_cmp, outs, (Call.pop_keeps popped).1⟩

theorem inForce_of_read {state : State} {call prepared : Call In Out} {value : FbpMessage}
    (read : readCmp state call.begin = (some value, prepared)) : overflow.inForce state call = transform value := by
  change inForce state call = _
  unfold inForce
  rw [read]

theorem steady : overflow.Steady process Ready (.text "a") .false where
  stable := by
    intro state call next ready others
    have cmp := others .cmp inn_ne_cmp.symm
    unfold Ready Call.inbox
    rw [cmp]
    exact ready
  makes := by
    intro state call ready
    obtain ⟨prepared, read, _⟩ := readCmp_ready ready
    refine ⟨(.text "a", false), ?_, rfl⟩
    rw [inForce_of_read read]
    have differs : (FbpMessage.text "a" == .text "x") = false := by decide
    change some (FbpMessage.text "a", FbpMessage.text "a" == .text "x") = _
    rw [differs]
  loops := by
    intro state call budget ready
    obtain ⟨prepared, read, empty, inlet, outs, signals⟩ := readCmp_ready ready
    have force : overflow.inForce state call = transform (.text "x") := inForce_of_read read
    have same : overflow.spec state call = { base with transform := transform (.text "x") } := by
      unfold Overflow.spec
      rw [force]
      rfl
    refine ⟨prepared, _, .inr rfl, inlet, outs, signals, fun ended alive => ?_⟩
    obtain ⟨new, took, _⟩ := ((overflow.spec state call).pollFirst_exchanged budget state.pendingPackets prepared).took
    change ((overflow.spec state call).pollFirst budget state.pendingPackets prepared).ended = none at ended
    change ((overflow.spec state call).pollFirst budget state.pendingPackets prepared).call.isAbandoned .inn = false
      at alive
    have others := took.others .cmp inn_ne_cmp.symm
    have unconfigured : ((overflow.spec state call).pollFirst budget state.pendingPackets prepared).call.inbox .cmp = [] := by
      rw [← empty, Call.inbox, others]
      rfl
    unfold process
    rw [read]
    dsimp only
    rw [← same, ended]
    dsimp only
    rcases Call.pop_cases ((overflow.spec state call).pollFirst budget state.pendingPackets prepared).call In.cmp with
      ⟨_, popped⟩ | ⟨_, _, _, found, _⟩
    · rw [popped]
      refine ⟨rfl, rfl, ?_, .inl ⟨rfl, unconfigured⟩⟩
      simp only [Received.finishAbandoned, alive, Bool.false_eq_true, if_false]
      rfl
    · cases unconfigured.symm.trans found

/-- Without a value to compare with a call leaves everything as it is. -/
theorem process_unconfigured {call : Call In Out} (full : (call.ins .cmp).ring.capacity = 0) (budget : Nat) :
    process new call budget = ⟨new, call.begin, budget, .result .noWork⟩ := by
  have empty : call.begin.inbox .cmp = [] := Call.inbox_of_closed full
  have read : readCmp new call.begin = (none, call.begin) := by
    unfold readCmp
    rcases call.begin.pop_cases .cmp with ⟨_, popped⟩ | ⟨_, _, _, found, _⟩
    · rw [popped]
      rfl
    · cases empty.symm.trans found
  unfold process
  rw [read]

end Equals

/-- The components with a private queue for what an output refuses. -/
inductive QueueKind where
  | repeating
  | trim
  | output
  | textReplace
  | equals

namespace QueueKind

def component : QueueKind → Component
  | repeating => repeatComponent.toComponent
  | trim => trimComponent.toComponent
  | output => outputComponent.toComponent
  | textReplace => TextReplace.component.toComponent
  | equals => Equals.component.toComponent

/-- No packet ever gets past the IN edge. -/
def Closed : (kind : QueueKind) → (kind.component.In → Nat) → Prop
  | repeating, inCapacity => inCapacity InPort.inn = 0
  | trim, inCapacity => inCapacity InPort.inn = 0
  | output, inCapacity => inCapacity InPort.inn = 0
  | textReplace, inCapacity => inCapacity ConfInPort.inn = 0
  | equals, inCapacity => inCapacity Equals.In.inn = 0 ∨ inCapacity Equals.In.cmp = 0

/-- The packets that have been removed from IN and are not delivered. -/
def undelivered (kind : QueueKind) (station : Station kind.component) : Nat :=
  (kind.component.held station.stream.state).length

/-- Where IN is open, upstream pushes alone make the queue as long as one likes. -/
theorem exceeds (kind : QueueKind) (nodeId : NodeId) (budgetClass : BudgetClass) (inCapacity : kind.component.In → Nat)
    (outCapacity : kind.component.Out → Nat) (isOpen : ¬ kind.Closed inCapacity) (bound : Nat) :
    ∃ trace station, (stationMachine kind.component).Run anyMove
      (.start nodeId budgetClass inCapacity outCapacity) trace station ∧ bound < kind.undelivered station := by
  cases kind with
  | repeating =>
      exact Repeat.steady.unbounded .nil (Overflow.holds_start trivial rfl (Nat.pos_of_ne_zero isOpen)) bound
  | trim => exact Trim.steady.unbounded .nil (Overflow.holds_start trivial rfl (Nat.pos_of_ne_zero isOpen)) bound
  | output =>
      exact Output.steady.unbounded .nil (Overflow.holds_start trivial rfl (Nat.pos_of_ne_zero isOpen)) bound
  | textReplace =>
      -- the configuration is complete as soon as CONF is closed
      let start : Station TextReplace.component.toComponent := .start nodeId budgetClass inCapacity outCapacity
      let ports : Call ConfInPort OutPort := { start.stream.ports with
        ins := Function.update start.stream.ports.ins .conf
          { start.stream.ports.ins .conf with ring := (Ring.empty (inCapacity ConfInPort.conf)).dropProducer } }
      let station : Station TextReplace.component.toComponent :=
        ⟨{ start.stream with ports }, start.context, false⟩
      have closed : (stationMachine TextReplace.component.toComponent).step start (.close ConfInPort.conf) =
        some (station, []) := rfl
      have quiet : TextReplace.base.Quiet OutPort.out (outCapacity OutPort.out) 0 [] start.stream.ports :=
        ⟨⟨fun _ => rfl, fun _ member => (nomatch member), .inl rfl⟩, rfl, rfl, Nat.pos_of_ne_zero isOpen, rfl, rfl⟩
      have holds : TextReplace.overflow.Holds TextReplace.Ready OutPort.out (outCapacity OutPort.out) 0 []
          station.stream := ⟨rfl, ⟨.inr rfl, rfl⟩, quiet.congr rfl rfl rfl rfl rfl, rfl⟩
      exact TextReplace.steady.unbounded (.snoc .nil trivial closed) holds bound
  | equals =>
      obtain ⟨inn, cmp⟩ := not_or.mp isOpen
      let start : Station Equals.component.toComponent := .start nodeId budgetClass inCapacity outCapacity
      have space : (Ring.empty (inCapacity Equals.In.cmp) : Ring FbpMessage).buffer.length <
        (Ring.empty (inCapacity Equals.In.cmp) : Ring FbpMessage).capacity := Nat.pos_of_ne_zero cmp
      obtain ⟨ring, pushed, buffer, _⟩ := Ring.push_of_room (.text "x") space
      let ports : Call Equals.In Equals.Out := { start.stream.ports with
        ins := Function.update start.stream.ports.ins .cmp { start.stream.ports.ins .cmp with ring } }
      let station : Station Equals.component.toComponent :=
        ⟨{ start.stream with ports }, start.context, true⟩
      have fed : start.stream.step (.feed Equals.In.cmp (.text "x")) = some (station.stream, []) := by
        have pushed : (start.stream.ports.ins Equals.In.cmp).ring.push (.text "x") = some ring := pushed
        unfold Stream.step
        dsimp only
        rw [pushed]
        rfl
      have push : (stationMachine Equals.component.toComponent).step start (.push Equals.In.cmp (.text "x")) =
          some (station, []) := by
        change (start.stream.step _).map _ = _
        rw [fed]
        rfl
      have quiet : Equals.base.Quiet Equals.Out.false (outCapacity Equals.Out.false) 0 [] start.stream.ports :=
        ⟨⟨fun _ => rfl, fun _ member => (nomatch member), .inl rfl⟩, rfl, rfl, Nat.pos_of_ne_zero inn, rfl, rfl⟩
      have holds : Equals.overflow.Holds Equals.Ready Equals.Out.false (outCapacity Equals.Out.false) 0 []
          station.stream := ⟨rfl, .inr ⟨rfl, buffer⟩, quiet.congr rfl rfl rfl rfl rfl, rfl⟩
      exact Equals.steady.unbounded (.snoc .nil trivial push) holds bound

/-- Behind a closed IN edge nothing is ever removed from it. -/
theorem undelivered_closed (kind : QueueKind) {nodeId : NodeId} {budgetClass : BudgetClass}
    {inCapacity : kind.component.In → Nat} {outCapacity : kind.component.Out → Nat} {trace : List Returned}
    {station : Station kind.component} (closed : kind.Closed inCapacity)
    (run : (stationMachine kind.component).Run anyMove
      (.start nodeId budgetClass inCapacity outCapacity) trace station) : kind.undelivered station = 0 := by
  cases kind with
  | repeating => exact Overflow.nothing_held Repeat.calls rfl closed run
  | trim => exact Overflow.nothing_held Trim.calls rfl closed run
  | output => exact Overflow.nothing_held Output.calls rfl closed run
  | textReplace => exact Overflow.nothing_held TextReplace.calls rfl closed run
  | equals =>
      rcases closed with inn | cmp
      · exact Overflow.nothing_held Equals.calls rfl inn run
      · obtain ⟨later, run⟩ := Station.stream_run run
        have keeps : ∀ (state : Equals.State) (call : Call Equals.In Equals.Out) budget,
            (call.ins .cmp).ring.capacity = 0 → state = Equals.new →
              ((Equals.process state call budget).call.ins .cmp).ring.capacity = 0 ∧
                (Equals.process state call budget).component = Equals.new := by
          intro state call budget full same
          subst same
          rw [Equals.process_unconfigured full]
          exact ⟨full, rfl⟩
        have last : station.stream.state = Equals.new := (closed_run (fun state => state = Equals.new) keeps cmp rfl run).2
        unfold undelivered
        rw [last]
        rfl

end QueueKind

/-- There is a bound on the undelivered packets, for some budget class and capacities,
exactly if no packet gets past the IN edge. -/
theorem backlog_bounded_iff (kind : QueueKind) (nodeId : NodeId) (budgetClass : BudgetClass)
    (inCapacity : kind.component.In → Nat) (outCapacity : kind.component.Out → Nat) :
    (∃ bound, ∀ trace station, (stationMachine kind.component).Run anyMove
      (.start nodeId budgetClass inCapacity outCapacity) trace station → kind.undelivered station ≤ bound) ↔
      kind.Closed inCapacity := by
  constructor
  · rintro ⟨bound, bounded⟩
    by_contra isOpen
    obtain ⟨trace, station, run, more⟩ := kind.exceeds nodeId budgetClass inCapacity outCapacity isOpen bound
    exact absurd (bounded trace station run) (by omega)
  · intro closed
    exact ⟨0, fun trace station run => Nat.le_of_eq (kind.undelivered_closed closed run)⟩

/-- Edges of capacity 1 do not bound the queue of Repeat. -/
theorem backlog_unbounded_repeat : ¬ ∃ bound, ∀ trace station, (stationMachine QueueKind.repeating.component).Run anyMove
    (.start "Repeat" .normal (fun _ => 1) fun _ => 1) trace station →
      QueueKind.repeating.undelivered station ≤ bound := by
  rintro ⟨bound, bounded⟩
  obtain ⟨trace, station, run, more⟩ :=
    QueueKind.repeating.exceeds "Repeat" .normal (fun _ => 1) (fun _ => 1) Nat.one_ne_zero bound
  exact absurd (bounded trace station run) (by omega)

end Flowd
