import Flowd.Api.Message
import Flowd.Lib.Ring
import Flowd.Lib.Transition

namespace Flowd

/-! The thread that broadcasts what arrives at the exported outports, with the
scheduler thread and `Runtime::stop` beside it. -/

open Transition

def PROCESSEDGE_SIGNAL_BUFSIZE : Nat := 2

def STOP_SIGNAL_MAX_RETRIES : Nat := 64

/-- Where the graph outport thread stands. -/
inductive OutportThread (π : Type) where
  | starting
  | connecting (ports : List π)
  | checkingSignals
  | receiving (ports : List π)
  | parked
  | disconnecting (ports : List π)
  | exited
  | panicked

namespace OutportThread

variable {π : Type}

/-- `joinhandle.is_finished()` -/
def isFinished : OutportThread π → Bool
  | exited | panicked => true
  | _ => false

/-- The thread has left its loop and reads nothing any more. -/
def isLeaving : OutportThread π → Bool
  | disconnecting _ | exited | panicked => true
  | _ => false

end OutportThread

inductive SchedulerThread where
  | waiting
  | dispatching
  | exited

/-- Where `Runtime::stop` stands, as far as the outport thread is concerned. -/
inductive StopCall where
  | signaling (retries : Nat)
  | stoppingSchedulers
  | joiningSchedulers
  | joiningThreads
  | returned

structure Boundary (π : Type) where
  /-- The exported outports. -/
  inports : List π
  rings : π → Ring FbpMessage
  signals : List FbpMessage
  thread : OutportThread π
  scheduler : SchedulerThread
  /-- The flag `running` of the scheduler. -/
  running : Bool
  stop : Option StopCall

inductive BoundaryMove (π : Type) where
  | dispatch
  /-- A node pushes to an exported outport. -/
  | push (port : π) (packet : FbpMessage)
  | returned
  | schedulerExits
  | outport
  | requestStop
  | stop

/-- What clients and nodes see at the boundary. -/
inductive BoundaryEvent (π : Type) where
  | connect (port : π)
  | pushed (port : π) (packet : FbpMessage)
  | data (port : π) (payload : String)
  | disconnect (port : π)

namespace Boundary

variable {π : Type} [DecidableEq π]

def start (inports : List π) (capacity : Nat) : Boundary π :=
  ⟨inports, fun _ => .empty capacity, [], .starting, .waiting, true, none⟩

/-- The thread ends and drops its consumers. -/
def ended (boundary : Boundary π) (thread : OutportThread π) : Boundary π :=
  { boundary with thread, rings := fun port => (boundary.rings port).dropConsumer }

def outport (boundary : Boundary π) : Option (Boundary π × List (BoundaryEvent π)) :=
  match boundary.thread with
  | .starting =>
      if boundary.inports.isEmpty then some (boundary.ended .exited, [])
      else some ({ boundary with thread := .connecting boundary.inports }, [])
  | .connecting [] => some ({ boundary with thread := .checkingSignals }, [])
  | .connecting (port :: rest) => some ({ boundary with thread := .connecting rest }, [.connect port])
  | .checkingSignals =>
      match boundary.signals with
      | [] => some ({ boundary with thread := .receiving boundary.inports }, [])
      | signal :: rest =>
          let signalText := signal.textOrUtf8.getD ""
          if signalText = "stop" then
            some ({ boundary with signals := rest, thread := .disconnecting boundary.inports }, [])
          else some ({ boundary with signals := rest, thread := .receiving boundary.inports }, [])
  | .receiving [] => some ({ boundary with thread := .parked }, [])
  | .receiving (port :: rest) =>
      match (boundary.rings port).pop with
      | none => some ({ boundary with thread := .receiving rest }, [])
      | some (ip, ring) =>
          let boundary := { boundary with rings := Function.update boundary.rings port ring }
          match ip.textOrUtf8 with
          | some payloadText => some (boundary, [.data port payloadText])
          -- `expect("graph outport payload must be UTF-8 text")`
          | none => some (boundary.ended .panicked, [])
  | .parked => some ({ boundary with thread := .checkingSignals }, [])
  | .disconnecting [] => some (boundary.ended .exited, [])
  | .disconnecting (port :: rest) => some ({ boundary with thread := .disconnecting rest }, [.disconnect port])
  | .exited | .panicked => none

def stopStep (boundary : Boundary π) : StopCall → Option (Boundary π)
  | .signaling 0 => some { boundary with stop := some .stoppingSchedulers }
  | .signaling (retries + 1) =>
      -- the thread is finished, or its end of the channel is gone
      if boundary.thread.isFinished then some { boundary with stop := some .stoppingSchedulers }
      else if boundary.signals.length < PROCESSEDGE_SIGNAL_BUFSIZE then
        some { boundary with signals := boundary.signals ++ [.text "stop"], stop := some .stoppingSchedulers }
      else some { boundary with stop := some (.signaling retries) }
  | .stoppingSchedulers => some { boundary with running := false, stop := some .joiningSchedulers }
  -- both joins may run out of their grace time
  | .joiningSchedulers => some { boundary with stop := some .joiningThreads }
  | .joiningThreads => some { boundary with stop := some .returned }
  | .returned => none

def step (boundary : Boundary π) : BoundaryMove π → Option (Boundary π × List (BoundaryEvent π))
  | .dispatch =>
      match boundary.scheduler with
      | .waiting => if boundary.running then some ({ boundary with scheduler := .dispatching }, []) else none
      | _ => none
  | .push port packet =>
      match boundary.scheduler with
      | .dispatching =>
          if port ∈ boundary.inports then
            match (boundary.rings port).push packet with
            | some ring =>
                some ({ boundary with rings := Function.update boundary.rings port ring }, [.pushed port packet])
            | none => some (boundary, [])
          else none
      | _ => none
  | .returned =>
      match boundary.scheduler with
      | .dispatching => some ({ boundary with scheduler := .waiting }, [])
      | _ => none
  | .schedulerExits =>
      match boundary.scheduler with
      | .waiting => some ({ boundary with scheduler := .exited }, [])
      | _ => none
  | .outport => boundary.outport
  | .requestStop =>
      match boundary.stop with
      | none | some .returned => some ({ boundary with stop := some (.signaling STOP_SIGNAL_MAX_RETRIES) }, [])
      | _ => none
  | .stop => (boundary.stop.bind boundary.stopStep).map (·, [])

end Boundary

def boundaryMachine (π : Type) [DecidableEq π] : Machine (Boundary π) (BoundaryMove π) (BoundaryEvent π) :=
  ⟨Boundary.step⟩

section
variable {π : Type} [DecidableEq π]

/-- The packets pushed to a port, in push order. -/
def pushes (port : π) (trace : List (BoundaryEvent π)) : List FbpMessage :=
  trace.filterMap fun
    | .pushed target packet => if target = port then some packet else none
    | _ => none

/-- The payloads of the data events of a port. -/
def broadcasts (port : π) (trace : List (BoundaryEvent π)) : List String :=
  trace.filterMap fun
    | .data source payload => if source = port then some payload else none
    | _ => none

/-- Every packet pushed to the boundary is broadcast once, in order, and before its
port is reported as disconnected; until then it waits on its ring. -/
structure Delivered (trace : List (BoundaryEvent π)) (boundary : Boundary π) : Prop where
  alive : boundary.thread ≠ .panicked
  account : ∀ port, (pushes port trace).map FbpMessage.textOrUtf8 =
    (broadcasts port trace).map some ++ (boundary.rings port).buffer.map FbpMessage.textOrUtf8
  complete : ∀ port before after, trace = before ++ .disconnect port :: after →
    (pushes port trace).map FbpMessage.textOrUtf8 = (broadcasts port before).map some
  closed : boundary.thread = .exited → ∀ port ∈ boundary.inports, .disconnect port ∈ trace

/-- The packets are text, "stop" is read when every ring is empty, and nothing is
pushed after that. -/
def Orderly (boundary : Boundary π) : BoundaryMove π → Prop
  | .push port packet => (boundary.rings port).isFull = false →
      packet.textOrUtf8.isSome = true ∧ boundary.thread.isLeaving = false
  | .outport =>
      match boundary.thread, boundary.signals with
      | .checkingSignals, signal :: _ => signal.textOrUtf8 = some "stop" →
          ∀ port ∈ boundary.inports, (boundary.rings port).isEmpty = true
      | _, _ => True
  | _ => True

instance (boundary : Boundary π) : DecidablePred (Orderly boundary)
  | .push port packet => inferInstanceAs (Decidable ((boundary.rings port).isFull = false →
      packet.textOrUtf8.isSome = true ∧ boundary.thread.isLeaving = false))
  | .outport => by
      unfold Orderly
      dsimp only
      split <;> infer_instance
  | .dispatch | .returned | .schedulerExits | .requestStop | .stop => inferInstanceAs (Decidable True)


variable {boundary next : Boundary π} {trace events : List (BoundaryEvent π)} {port : π}

@[simp] theorem pushes_append (port : π) (left right : List (BoundaryEvent π)) :
    pushes port (left ++ right) = pushes port left ++ pushes port right := List.filterMap_append

@[simp] theorem broadcasts_append (port : π) (left right : List (BoundaryEvent π)) :
    broadcasts port (left ++ right) = broadcasts port left ++ broadcasts port right := List.filterMap_append

/-- What one step of the outport thread can do. -/
inductive OutportStep (boundary : Boundary π) : Boundary π → List (BoundaryEvent π) → Prop where
  | goesOn {thread : OutportThread π} {signals : List FbpMessage} {events : List (BoundaryEvent π)} :
      boundary.thread.isLeaving = false → thread.isLeaving = false → signals <:+ boundary.signals →
      (events = [] ∨ ∃ port, events = [.connect port]) →
      OutportStep boundary { boundary with thread, signals } events
  | broadcasts {port : π} {ip : FbpMessage} {rest : List FbpMessage} {payload : String} :
      boundary.thread.isLeaving = false → (boundary.rings port).buffer = ip :: rest →
      ip.textOrUtf8 = some payload →
      OutportStep boundary { boundary with
        rings := Function.update boundary.rings port ((boundary.rings port).drop 1) } [.data port payload]
  | panics {port : π} {ip : FbpMessage} {rest : List FbpMessage} {next : Boundary π} :
      (boundary.rings port).buffer = ip :: rest → ip.textOrUtf8 = none → next.thread = .panicked →
      OutportStep boundary next []
  | stops {signal : FbpMessage} {rest : List FbpMessage} :
      boundary.thread = .checkingSignals → boundary.signals = signal :: rest → signal.textOrUtf8 = some "stop" →
      OutportStep boundary
        { boundary with signals := rest, thread := .disconnecting boundary.inports } []
  | idle : boundary.thread = .starting → boundary.inports = [] → OutportStep boundary (boundary.ended .exited) []
  | reports {port : π} {rest : List π} : boundary.thread = .disconnecting (port :: rest) →
      OutportStep boundary { boundary with thread := .disconnecting rest } [.disconnect port]
  | exits : boundary.thread = .disconnecting [] → OutportStep boundary (boundary.ended .exited) []

theorem Boundary.outport_cases (step : boundary.outport = some (next, events)) :
    OutportStep boundary next events := by
  unfold Boundary.outport at step
  cases position : boundary.thread with
  | starting =>
      rw [position] at step
      dsimp only at step
      split at step
      · next none =>
          cases step
          exact .idle position (List.isEmpty_iff.mp none)
      · cases step
        exact .goesOn (by rw [position]; rfl) rfl (List.suffix_refl _) (.inl rfl)
  | connecting ports =>
      cases ports with
      | nil =>
          rw [position] at step
          cases step
          exact .goesOn (by rw [position]; rfl) rfl (List.suffix_refl _) (.inl rfl)
      | cons port rest =>
          rw [position] at step
          cases step
          exact .goesOn (by rw [position]; rfl) rfl (List.suffix_refl _) (.inr ⟨port, rfl⟩)
  | checkingSignals =>
      rw [position] at step
      dsimp only at step
      split at step
      · cases step
        exact .goesOn (by rw [position]; rfl) rfl (List.suffix_refl _) (.inl rfl)
      · next signal rest queued =>
          split at step
          · next stop =>
              cases step
              refine .stops position queued ?_
              cases text : signal.textOrUtf8 with
              | none => simp [text] at stop
              | some read => simpa [text] using stop
          · cases step
            have fewer : rest <:+ boundary.signals := by
              rw [queued]
              exact List.suffix_cons signal rest
            exact .goesOn (by rw [position]; rfl) rfl fewer (.inl rfl)
  | receiving ports =>
      cases ports with
      | nil =>
          rw [position] at step
          cases step
          exact .goesOn (by rw [position]; rfl) rfl (List.suffix_refl _) (.inl rfl)
      | cons port rest =>
          rw [position] at step
          dsimp only at step
          rw [Ring.pop_eq] at step
          cases found : (boundary.rings port).buffer with
          | nil =>
              rw [found] at step
              cases step
              exact .goesOn (by rw [position]; rfl) rfl (List.suffix_refl _) (.inl rfl)
          | cons ip waiting =>
              rw [found] at step
              dsimp only at step
              cases text : ip.textOrUtf8 with
              | none =>
                  rw [text] at step
                  cases step
                  exact .panics found text rfl
              | some payload =>
                  rw [text] at step
                  cases step
                  have staying : boundary.thread.isLeaving = false := by
                    rw [position]
                    rfl
                  have kept := OutportStep.broadcasts staying found text
                  rw [← position]
                  exact kept
  | parked =>
      rw [position] at step
      cases step
      exact .goesOn (by rw [position]; rfl) rfl (List.suffix_refl _) (.inl rfl)
  | disconnecting ports =>
      cases ports with
      | nil =>
          rw [position] at step
          cases step
          exact .exits position
      | cons port rest =>
          rw [position] at step
          cases step
          exact .reports position
  | exited =>
      rw [position] at step
      cases step
  | panicked =>
      rw [position] at step
      cases step

/-- What the other threads can do. -/
inductive OtherStep (boundary : Boundary π) : BoundaryMove π → Boundary π → List (BoundaryEvent π) → Prop where
  | apart {move : BoundaryMove π} {next : Boundary π} : next.inports = boundary.inports →
      next.rings = boundary.rings → next.thread = boundary.thread → OtherStep boundary move next []
  | pushes {port : π} {packet : FbpMessage} {ring : Ring FbpMessage} : port ∈ boundary.inports →
      (boundary.rings port).push packet = some ring →
      OtherStep boundary (.push port packet)
        { boundary with rings := Function.update boundary.rings port ring } [.pushed port packet]

theorem Boundary.step_cases {move : BoundaryMove π} (step : boundary.step move = some (next, events)) :
    OutportStep boundary next events ∧ move = .outport ∨ OtherStep boundary move next events := by
  cases move with
  | outport => exact .inl ⟨boundary.outport_cases step, rfl⟩
  | push port packet =>
      unfold Boundary.step at step
      dsimp only at step
      split at step
      · split at step
        · next known =>
            split at step
            · next ring pushed =>
                cases step
                exact .inr (.pushes known pushed)
            · cases step
              exact .inr (.apart rfl rfl rfl)
        · cases step
      · cases step
  | dispatch =>
      unfold Boundary.step at step
      dsimp only at step
      split at step
      · split at step
        · cases step
          exact .inr (.apart rfl rfl rfl)
        · cases step
      · cases step
  | returned | schedulerExits =>
      unfold Boundary.step at step
      dsimp only at step
      split at step
      · cases step
        exact .inr (.apart rfl rfl rfl)
      · cases step
  | requestStop =>
      unfold Boundary.step at step
      dsimp only at step
      split at step
      · cases step
        exact .inr (.apart rfl rfl rfl)
      · cases step
        exact .inr (.apart rfl rfl rfl)
      · cases step
  | stop =>
      unfold Boundary.step at step
      obtain ⟨after, found, same⟩ := Option.map_eq_some_iff.mp step
      cases same
      obtain ⟨position, _, found⟩ := Option.bind_eq_some_iff.mp found
      refine .inr ?_
      unfold Boundary.stopStep at found
      split at found
      · cases found
        exact .apart rfl rfl rfl
      · split at found
        · cases found
          exact .apart rfl rfl rfl
        · split at found
          · cases found
            exact .apart rfl rfl rfl
          · cases found
            exact .apart rfl rfl rfl
      · cases found
        exact .apart rfl rfl rfl
      · cases found
        exact .apart rfl rfl rfl
      · cases found
        exact .apart rfl rfl rfl
      · cases found

/-- `Delivered`, strong enough to be kept. -/
structure Intact (trace : List (BoundaryEvent π)) (boundary : Boundary π) : Prop where
  alive : boundary.thread ≠ .panicked
  account : ∀ port, (pushes port trace).map FbpMessage.textOrUtf8 =
    (broadcasts port trace).map some ++ (boundary.rings port).buffer.map FbpMessage.textOrUtf8
  texts : ∀ port, ∀ packet ∈ (boundary.rings port).buffer, packet.textOrUtf8.isSome = true
  unused : ∀ port, port ∉ boundary.inports → (boundary.rings port).buffer = []
  drained : boundary.thread.isLeaving = true → ∀ port, (boundary.rings port).buffer = []
  unreported : boundary.thread.isLeaving = false → ∀ port, .disconnect port ∉ trace
  reporting : ∀ rest, boundary.thread = .disconnecting rest →
    ∀ port ∈ boundary.inports, port ∈ rest ∨ .disconnect port ∈ trace
  closed : boundary.thread = .exited → ∀ port ∈ boundary.inports, .disconnect port ∈ trace

theorem Intact.start (inports : List π) (capacity : Nat) : Intact [] (Boundary.start inports capacity) where
  alive := by simp [Boundary.start]
  account := fun _ => rfl
  texts := fun _ _ member => nomatch member
  unused := fun _ _ => rfl
  drained := fun leaving => nomatch leaving
  unreported := fun _ _ member => nomatch member
  reporting := fun _ position => nomatch position
  closed := fun position => nomatch position

/-- Steps outside the loop's reading that report nothing about packets. -/
theorem Intact.goesOn {thread : OutportThread π} {signals : List FbpMessage} (intact : Intact trace boundary)
    (before : boundary.thread.isLeaving = false) (after : thread.isLeaving = false)
    (reports : events = [] ∨ ∃ port, events = [.connect port]) :
    Intact (trace ++ events) { boundary with thread, signals } := by
  have nothing : ∀ port, pushes port events = [] ∧ broadcasts port events = [] ∧ .disconnect port ∉ events := by
    intro port
    rcases reports with none | ⟨source, one⟩
    · subst none
      exact ⟨rfl, rfl, List.not_mem_nil⟩
    · subst one
      exact ⟨rfl, rfl, by simp⟩
  refine ⟨?_, ?_, intact.texts, intact.unused, ?_, ?_, ?_, ?_⟩
  · intro panicked
    dsimp only at panicked
    rw [panicked] at after
    cases after
  · intro port
    rw [pushes_append, broadcasts_append, (nothing port).1, (nothing port).2.1, List.append_nil, List.append_nil]
    exact intact.account port
  · intro leaving
    rw [after] at leaving
    cases leaving
  · intro _ port member
    rcases List.mem_append.mp member with old | new
    · exact intact.unreported before port old
    · exact (nothing port).2.2 new
  · intro rest position
    dsimp only at position
    rw [position] at after
    cases after
  · intro position
    dsimp only at position
    rw [position] at after
    cases after

theorem Intact.apart (intact : Intact trace boundary) (inports : next.inports = boundary.inports)
    (rings : next.rings = boundary.rings) (thread : next.thread = boundary.thread) : Intact trace next := by
  obtain ⟨alive, account, texts, unused, drained, unreported, reporting, closed⟩ := intact
  rw [← inports, ← rings] at unused
  rw [← thread] at alive
  rw [← thread, ← rings] at drained
  rw [← rings] at account texts
  rw [← thread] at unreported
  rw [← thread, ← inports] at reporting closed
  exact ⟨alive, account, texts, unused, drained, unreported, reporting, closed⟩

/-- An event about one port changes that port's ring. -/
theorem Intact.turn {event : BoundaryEvent π} {ring : Ring FbpMessage} (intact : Intact trace boundary)
    (staying : boundary.thread.isLeaving = false) (quiet : ∀ other, event ≠ .disconnect other)
    (others : ∀ other, other ≠ port → pushes other [event] = [] ∧ broadcasts other [event] = [])
    (account : (pushes port (trace ++ [event])).map FbpMessage.textOrUtf8 =
      (broadcasts port (trace ++ [event])).map some ++ ring.buffer.map FbpMessage.textOrUtf8)
    (texts : ∀ packet ∈ ring.buffer, packet.textOrUtf8.isSome = true)
    (unused : port ∉ boundary.inports → ring.buffer = []) :
    Intact (trace ++ [event]) { boundary with rings := Function.update boundary.rings port ring } := by
  have ports : ∀ other, (Function.update boundary.rings port ring other = ring ∧ other = port) ∨
      (Function.update boundary.rings port ring other = boundary.rings other ∧ other ≠ port) := by
    intro other
    by_cases here : other = port
    · subst here
      exact .inl ⟨Function.update_self _ _ _, rfl⟩
    · exact .inr ⟨Function.update_of_ne here _ _, here⟩
  refine ⟨intact.alive, ?_, ?_, ?_, ?_, ?_, ?_, ?_⟩
  · intro other
    dsimp only
    rcases ports other with ⟨same, rfl⟩ | ⟨same, different⟩
    · rw [same]
      exact account
    · rw [same, pushes_append, broadcasts_append, (others other different).1, (others other different).2,
        List.append_nil, List.append_nil]
      exact intact.account other
  · intro other
    dsimp only
    rcases ports other with ⟨same, rfl⟩ | ⟨same, _⟩
    · rw [same]
      exact texts
    · rw [same]
      exact intact.texts other
  · intro other
    dsimp only
    rcases ports other with ⟨same, rfl⟩ | ⟨same, _⟩
    · rw [same]
      exact unused
    · rw [same]
      exact intact.unused other
  · intro leaving
    cases staying.symm.trans leaving
  · intro _ other member
    rcases List.mem_append.mp member with old | new
    · exact intact.unreported staying other old
    · exact quiet other (List.mem_singleton.mp new).symm
  · intro rest position
    dsimp only at position
    rw [position] at staying
    cases staying
  · intro position
    dsimp only at position
    rw [position] at staying
    cases staying

theorem Intact.broadcasts {ip : FbpMessage} {rest : List FbpMessage} {payload : String}
    (intact : Intact trace boundary) (staying : boundary.thread.isLeaving = false)
    (found : (boundary.rings port).buffer = ip :: rest) (text : ip.textOrUtf8 = some payload) :
    Intact (trace ++ [.data port payload])
      { boundary with rings := Function.update boundary.rings port ((boundary.rings port).drop 1) } := by
  have popped : ((boundary.rings port).drop 1).buffer = rest := by
    rw [Ring.drop_buffer, found]
    rfl
  have texts := intact.texts port
  have account := intact.account port
  have unused := intact.unused port
  rw [found] at texts account unused
  apply intact.turn staying (by simp)
  · intro other different
    simp [Flowd.pushes, Flowd.broadcasts, Ne.symm different]
  · have one : Flowd.broadcasts port [BoundaryEvent.data port payload] = [payload] := by
      simp [Flowd.broadcasts]
    have none : Flowd.pushes port [BoundaryEvent.data port payload] = [] := rfl
    rw [pushes_append, broadcasts_append, one, none, popped, List.append_nil, account, List.map_cons, text]
    simp
  · intro packet member
    rw [popped] at member
    exact texts packet (List.mem_cons_of_mem _ member)
  · intro outside
    cases unused outside

theorem Intact.pushes {packet : FbpMessage} {ring : Ring FbpMessage} (intact : Intact trace boundary)
    (known : port ∈ boundary.inports) (pushed : (boundary.rings port).push packet = some ring)
    (text : packet.textOrUtf8.isSome = true) (staying : boundary.thread.isLeaving = false) :
    Intact (trace ++ [.pushed port packet])
      { boundary with rings := Function.update boundary.rings port ring } := by
  obtain ⟨_, buffer, _⟩ := Ring.push_some pushed
  apply intact.turn staying (by simp)
  · intro other different
    simp [Flowd.pushes, Flowd.broadcasts, Ne.symm different]
  · have one : Flowd.pushes port [BoundaryEvent.pushed port packet] = [packet] := by
      simp [Flowd.pushes]
    have none : Flowd.broadcasts port [BoundaryEvent.pushed port packet] = [] := rfl
    rw [pushes_append, broadcasts_append, one, none, buffer, List.append_nil, List.map_append, intact.account port,
      List.map_append, List.append_assoc]
  · intro waiting member
    rw [buffer] at member
    rcases List.mem_append.mp member with old | new
    · exact intact.texts port waiting old
    · rw [List.mem_singleton.mp new]
      exact text
  · intro outside
    exact absurd known outside

/-- The thread leaves its loop with nothing left to read. -/
theorem Intact.leaves {signals : List FbpMessage} (intact : Intact trace boundary)
    (empty : ∀ port, (boundary.rings port).buffer = []) :
    Intact trace { boundary with signals, thread := .disconnecting boundary.inports } where
  alive := fun panicked => nomatch panicked
  account := intact.account
  texts := intact.texts
  unused := intact.unused
  drained := fun _ => empty
  unreported := fun leaving => nomatch leaving
  reporting := by
    intro rest position port member
    cases position
    exact .inl member
  closed := fun position => nomatch position

theorem Intact.reports {rest : List π} (intact : Intact trace boundary)
    (position : boundary.thread = .disconnecting (port :: rest)) :
    Intact (trace ++ [.disconnect port]) { boundary with thread := .disconnecting rest } where
  alive := fun panicked => nomatch panicked
  account := by
    intro other
    have pushed : Flowd.pushes other [BoundaryEvent.disconnect port] = [] := rfl
    have sent : Flowd.broadcasts other [BoundaryEvent.disconnect port] = [] := rfl
    rw [pushes_append, broadcasts_append, pushed, sent, List.append_nil, List.append_nil]
    exact intact.account other
  texts := intact.texts
  unused := intact.unused
  drained := fun _ => intact.drained (by rw [position]; rfl)
  unreported := fun leaving => nomatch leaving
  reporting := by
    intro remaining same other member
    cases same
    rcases intact.reporting _ position other member with waiting | reported
    · rcases List.mem_cons.mp waiting with here | later
      · subst here
        exact .inr (List.mem_append_right _ List.mem_cons_self)
      · exact .inl later
    · exact .inr (List.mem_append_left _ reported)
  closed := fun same => nomatch same

theorem Intact.exits (intact : Intact trace boundary) (empty : ∀ port, (boundary.rings port).buffer = [])
    (reported : ∀ port ∈ boundary.inports, .disconnect port ∈ trace) : Intact trace (boundary.ended .exited) where
  alive := fun panicked => nomatch panicked
  account := intact.account
  texts := intact.texts
  unused := intact.unused
  drained := fun _ => empty
  unreported := fun leaving => nomatch leaving
  reporting := fun _ position => nomatch position
  closed := fun _ => reported

theorem Intact.outport (intact : Intact trace boundary) (orderly : Orderly boundary .outport)
    (step : OutportStep boundary next events) : Intact (trace ++ events) next := by
  cases step with
  | goesOn before after _ reports => exact intact.goesOn before after reports
  | broadcasts staying found text => exact intact.broadcasts staying found text
  | @panics port ip rest _ found silent _ =>
      have text := intact.texts port ip (by rw [found]; exact List.mem_cons_self)
      rw [silent] at text
      cases text
  | stops position queued stop =>
      rw [List.append_nil]
      unfold Orderly at orderly
      rw [position, queued] at orderly
      apply intact.leaves
      intro port
      by_cases known : port ∈ boundary.inports
      · exact List.isEmpty_iff.mp (orderly stop port known)
      · exact intact.unused port known
  | idle position none =>
      rw [List.append_nil]
      have nobody : ∀ port, port ∉ boundary.inports := by
        intro port
        rw [none]
        exact List.not_mem_nil
      exact intact.exits (fun port => intact.unused port (nobody port)) fun port member => absurd member (nobody port)
  | reports position => exact intact.reports position
  | exits position =>
      rw [List.append_nil]
      apply intact.exits (intact.drained (by rw [position]; rfl))
      intro port member
      rcases intact.reporting _ position port member with waiting | reported
      · exact absurd waiting List.not_mem_nil
      · exact reported

/-- A packet is accepted only where the ring is not full. -/
theorem room_of_push {packet : FbpMessage} {ring next : Ring FbpMessage} (pushed : ring.push packet = some next) :
    ring.isFull = false := by
  have room := (Ring.push_some pushed).1
  simp only [Ring.isFull, decide_eq_false_iff_not]
  omega

theorem Intact.step {move : BoundaryMove π} (intact : Intact trace boundary) (orderly : Orderly boundary move)
    (step : boundary.step move = some (next, events)) : Intact (trace ++ events) next := by
  rcases boundary.step_cases step with ⟨outport, same⟩ | other
  · subst same
    exact intact.outport orderly outport
  · cases other with
    | apart inports rings thread =>
        rw [List.append_nil]
        exact intact.apart inports rings thread
    | pushes known pushed =>
        obtain ⟨text, staying⟩ := orderly (room_of_push pushed)
        exact intact.pushes known pushed text staying

theorem Boundary.run_intact {inports : List π} {capacity : Nat}
    (run : (boundaryMachine π).Run Orderly (.start inports capacity) trace boundary) : Intact trace boundary :=
  run.history Intact (.start inports capacity) fun _ orderly intact step => intact.step orderly step

/-- The event is about a packet of the port. -/
def IsTraffic (port : π) (event : BoundaryEvent π) : Prop := pushes port [event] ≠ [] ∨ broadcasts port [event] ≠ []

/-- Nothing is pushed to or broadcast for a port that was reported as disconnected. -/
theorem Boundary.run_silent {inports : List π} {capacity : Nat} (port : π)
    (run : (boundaryMachine π).Run Orderly (.start inports capacity) trace boundary) :
    Bars (· = .disconnect port) (IsTraffic port) trace := by
  apply Machine.Run.bars (fun boundary : Boundary π => boundary.thread.isLeaving = true) run
  · intro _ state _ next _ before event after _ _ step split reports
    subst reports
    have member : BoundaryEvent.disconnect port ∈ before ++ .disconnect port :: after :=
      List.mem_append_right _ List.mem_cons_self
    rw [← split] at member
    rcases state.step_cases step with ⟨outport, _⟩ | other
    · cases outport with
      | goesOn _ _ _ reports =>
          rcases reports with none | ⟨source, one⟩
          · simp [none] at member
          · simp [one] at member
      | broadcasts => simp at member
      | panics | stops | idle | exits => simp at member
      | reports =>
          have last : after = [] := by
            have size := congrArg List.length split
            simp only [List.length_append, List.length_cons, List.length_nil] at size
            exact List.length_eq_zero_iff.mp (by omega)
          subst last
          exact ⟨fun _ member => absurd member List.not_mem_nil, rfl⟩
    · cases other with
      | apart => simp at member
      | pushes => simp at member
  · intro state move next events orderly step leaving
    rcases state.step_cases step with ⟨outport, _⟩ | other
    · cases outport with
      | goesOn staying => cases staying.symm.trans leaving
      | broadcasts staying => cases staying.symm.trans leaving
      | panics _ _ panicked => exact ⟨fun _ member => absurd member List.not_mem_nil, by rw [panicked]; rfl⟩
      | stops | idle | exits => exact ⟨fun _ member => absurd member List.not_mem_nil, rfl⟩
      | reports =>
          refine ⟨?_, rfl⟩
          intro event member
          rw [List.mem_singleton.mp member]
          simp [IsTraffic, pushes, broadcasts]
    · cases other with
      | apart _ _ thread => exact ⟨fun _ member => absurd member List.not_mem_nil, by rw [thread]; exact leaving⟩
      | pushes _ pushed => cases (orderly (room_of_push pushed)).2.symm.trans leaving

theorem quiet_of_silent {events : List (BoundaryEvent π)} (silent : ∀ event ∈ events, ¬ IsTraffic port event) :
    pushes port events = [] ∧ broadcasts port events = [] := by
  induction events with
  | nil => exact ⟨rfl, rfl⟩
  | cons event rest ih =>
      obtain ⟨noPush, noData⟩ := not_or.mp (silent event List.mem_cons_self)
      obtain ⟨pushed, sent⟩ := ih fun later member => silent later (List.mem_cons_of_mem _ member)
      rw [← List.singleton_append, pushes_append, broadcasts_append, pushed, sent]
      exact ⟨by simpa using noPush, by simpa using noData⟩

/-- The boundary loses nothing in an orderly run. -/
theorem outport_delivers {inports : List π} {capacity : Nat}
    (run : (boundaryMachine π).Run Orderly (.start inports capacity) trace boundary) : Delivered trace boundary := by
  have intact := Boundary.run_intact run
  refine ⟨intact.alive, intact.account, ?_, intact.closed⟩
  intro port before after split
  have reported : BoundaryEvent.disconnect port ∈ trace := by
    rw [split]
    exact List.mem_append_right _ List.mem_cons_self
  have leaving : boundary.thread.isLeaving = true := by
    by_contra staying
    exact intact.unreported (Bool.not_eq_true _ ▸ staying) port reported
  obtain ⟨pushed, sent⟩ := quiet_of_silent (Boundary.run_silent port run before _ after split rfl)
  have account := intact.account port
  rw [intact.drained leaving port, List.map_nil, List.append_nil] at account
  rw [account, split, ← List.singleton_append, broadcasts_append, broadcasts_append, sent]
  simp [Flowd.broadcasts]

end

/-- One packet is broadcast before the network is stopped. -/
def stoppedWhenEmpty : List (BoundaryMove String) :=
  [.outport, .outport, .outport, .dispatch, .push "OUT" (.text "a"), .returned, .schedulerExits,
    .outport, .outport, .outport, .outport, .outport, .requestStop, .stop, .outport, .outport, .outport]

theorem outport_delivers_stopped :
    Delivered ((boundaryMachine String).reported (.start ["OUT"] 2401) stoppedWhenEmpty)
      ((boundaryMachine String).played (.start ["OUT"] 2401) stoppedWhenEmpty) := by
  have orderly : (boundaryMachine String).Permits Orderly (.start ["OUT"] 2401) stoppedWhenEmpty := by decide
  have run := (boundaryMachine String).run_played orderly (by decide)
  exact outport_delivers run

/-- A packet arrives while the thread is parked, and the "stop" does so before the
thread looks for packets again. -/
def stoppedWhileParked : List (BoundaryMove String) :=
  [.outport, .outport, .outport, .outport, .outport, .outport, .dispatch, .push "OUT" (.text "a"),
    .requestStop, .stop, .outport, .outport, .outport]

def bytesPushed : List (BoundaryMove String) :=
  [.outport, .outport, .outport, .dispatch, .push "OUT" (.bytes [0xff]), .outport, .outport]

/-- A "stop" overtakes packets, and bytes that are not UTF-8 end the thread. -/
theorem outport_loses :
    (∃ boundary, (boundaryMachine String).Run anyMove (.start ["OUT"] 2401)
      [.connect "OUT", .pushed "OUT" (.text "a"), .disconnect "OUT"] boundary ∧
      ¬ Delivered [.connect "OUT", .pushed "OUT" (.text "a"), .disconnect "OUT"] boundary) ∧
    ∃ boundary, (boundaryMachine String).Run anyMove (.start ["OUT"] 2401)
      [.connect "OUT", .pushed "OUT" (.bytes [0xff])] boundary ∧
      ¬ Delivered [.connect "OUT", .pushed "OUT" (.bytes [0xff])] boundary := by
  constructor
  · have run := (boundaryMachine String).run_played
      (Machine.permits_any (.start ["OUT"] 2401) stoppedWhileParked) (by decide)
    refine ⟨_, run, fun delivered => ?_⟩
    have all := delivered.complete "OUT" [.connect "OUT", .pushed "OUT" (.text "a")] [] rfl
    cases all
  · have run := (boundaryMachine String).run_played
      (Machine.permits_any (.start ["OUT"] 2401) bytesPushed) (by decide)
    exact ⟨_, run, fun delivered => delivered.alive rfl⟩

end Flowd
