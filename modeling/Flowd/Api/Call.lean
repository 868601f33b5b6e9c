import Flowd.Api.Message
import Flowd.Lib.Ports

namespace Flowd

/-! What a call to `process()` works on: the edges of the component, its signal
channel and its work units. -/

structure Call (ι ο : Type) where
  ins : ι → Inlet FbpMessage
  outs : Outlets ο FbpMessage
  signalsIn : List FbpMessage
  signalsOut : List FbpMessage
  /-- The signals this call has received. -/
  heard : List FbpMessage
  workUnits : Nat

structure Outcome (σ ι ο : Type) where
  component : σ
  call : Call ι ο
  remainingBudget : Nat
  returned : Returned

namespace Call

variable {ι ο : Type} (call : Call ι ο)

/-- `let mut work_units = 0` -/
def begin : Call ι ο := { call with heard := [], workUnits := 0 }

/-- `signals_in.try_recv()` and its handling; true if the signal is "stop".  What is
handed to `signals_out.try_send` may be dropped there. -/
def poll (reads : FbpMessage → Option String) : Call ι ο × Bool :=
  match call.signalsIn with
  | [] => (call, false)
  | signal :: rest =>
      let call := { call with signalsIn := rest, heard := call.heard ++ [signal] }
      let signalText := (reads signal).getD ""
      if signalText = "stop" then (call, true)
      else if signalText = "ping" then
        ({ call with signalsOut := call.signalsOut ++ [.text "pong"] }, false)
      else (call, false)

def pop [DecidableEq ι] (port : ι) : Option (FbpMessage × Call ι ο) :=
  match (call.ins port).pop with
  | none => none
  | some (packet, inlet) => some (packet, { call with ins := Function.update call.ins port inlet })

def push [DecidableEq ο] (item : ο × FbpMessage) : Call ι ο × Bool :=
  ({ call with outs := (call.outs.push item).1 }, (call.outs.push item).2)

def isEmpty (port : ι) : Bool := (call.ins port).ring.isEmpty

def isAbandoned (port : ι) : Bool := (call.ins port).ring.isAbandoned

/-- `work_units += 1` -/
def worked : Call ι ο := { call with workUnits := call.workUnits + 1 }

/-- `if work_units > 0 { DidWork(work_units) } else { NoWork }` -/
def didWork : Returned :=
  if 0 < call.workUnits then .result (.didWork call.workUnits) else .result .noWork

theorem didWork_ne_finished : call.didWork ≠ .result .finished := by
  unfold didWork
  split <;> simp

theorem didWork_ne_panicked : call.didWork ≠ .panicked := by
  unfold didWork
  split <;> simp

/-- One of the signals that the call has received is "stop". -/
def Stopped (reads : FbpMessage → Option String) (call : Call ι ο) : Prop :=
  ∃ signal ∈ call.heard, reads signal = some "stop"

def inbox (port : ι) : List FbpMessage := (call.ins port).ring.buffer

def taken (port : ι) : List FbpMessage := (call.ins port).taken

variable {call}

/-- Polling touches nothing but the signal channels, and reports a stop truthfully. -/
theorem poll_cases (reads : FbpMessage → Option String) :
    ∃ signalsIn signalsOut new,
      (call.poll reads).1 = { call with signalsIn, signalsOut, heard := call.heard ++ new } ∧
      ((call.poll reads).2 = true → (call.poll reads).1.Stopped reads) := by
  unfold poll
  cases queued : call.signalsIn with
  | nil => exact ⟨[], call.signalsOut, [], by cases call; simp_all, by simp⟩
  | cons signal rest =>
      by_cases stop : (reads signal).getD "" = "stop"
      · refine ⟨rest, call.signalsOut, [signal], by simp [stop], fun _ => ⟨signal, by simp [stop], ?_⟩⟩
        cases text : reads signal with
        | none => simp [text] at stop
        | some read => simpa [text] using stop
      · by_cases ping : (reads signal).getD "" = "ping"
        · exact ⟨rest, call.signalsOut ++ [.text "pong"], [signal], by simp [ping], by simp [ping]⟩
        · exact ⟨rest, call.signalsOut, [signal], by simp [stop, ping], by simp [stop, ping]⟩

/-- `next` has taken the packets `new` from one port and nothing else. -/
structure Took (port : ι) (call next : Call ι ο) (new : List FbpMessage) : Prop where
  taken : next.taken port = call.taken port ++ new
  inbox : call.inbox port = new ++ next.inbox port
  others : ∀ other, other ≠ port → next.ins other = call.ins other
  abandoned : ∀ other, next.isAbandoned other = call.isAbandoned other
  capacity : ∀ other, (next.ins other).ring.capacity = (call.ins other).ring.capacity

variable {port : ι} {next last : Call ι ο} {new later : List FbpMessage}

theorem Took.of_eq (same : next.ins = call.ins) : Took port call next [] := by
  refine ⟨?_, ?_, fun other _ => by rw [same], fun other => ?_, fun other => by rw [same]⟩
  · simp only [Call.taken, same, List.append_nil]
  · simp only [Call.inbox, same, List.nil_append]
  · simp only [Call.isAbandoned, same]

theorem Took.trans (first : Took port call next new) (second : Took port next last later) :
    Took port call last (new ++ later) := by
  refine ⟨?_, ?_, ?_, ?_, ?_⟩
  · rw [second.taken, first.taken, List.append_assoc]
  · rw [first.inbox, second.inbox, List.append_assoc]
  · exact fun other different => (second.others other different).trans (first.others other different)
  · exact fun other => (second.abandoned other).trans (first.abandoned other)
  · exact fun other => (second.capacity other).trans (first.capacity other)

/-- Only the edge, the outlets and the counters may differ after the packets. -/
theorem Took.congr (took : Took port call next new) (same : last.ins = next.ins) :
    Took port call last new := by
  have still : Took port next last [] := .of_eq same
  simpa using took.trans still

theorem pop_cases [DecidableEq ι] (call : Call ι ο) (port : ι) :
    (call.inbox port = [] ∧ call.pop port = none) ∨
      ∃ packet rest next, call.inbox port = packet :: rest ∧ call.pop port = some (packet, next) ∧
        Took port call next [packet] ∧ next.inbox port = rest ∧ next.outs = call.outs ∧
        next.heard = call.heard ∧ next.workUnits = call.workUnits := by
  unfold pop
  rcases (call.ins port).pop_cases with ⟨empty, popped⟩ | ⟨packet, rest, found, popped⟩
  · exact .inl ⟨empty, by rw [popped]⟩
  · refine .inr ⟨packet, rest, { call with
      ins := Function.update call.ins port ⟨(call.ins port).ring.drop 1, (call.ins port).taken ++ [packet]⟩ },
      found, by rw [popped], ⟨?_, ?_, ?_, ?_, ?_⟩, ?_, rfl, rfl, rfl⟩
    · simp [Call.taken]
    · simp [Call.inbox, found]
    · exact fun other different => Function.update_of_ne different _ _
    · intro other
      by_cases same : other = port
      · subst same
        simp [Call.isAbandoned]
      · simp [Call.isAbandoned, Function.update_of_ne same]
    · intro other
      by_cases same : other = port
      · subst same
        simp
      · simp [Function.update_of_ne same]
    · simp [Call.inbox, found]

/-- A pop leaves the signals and the capacity alone. -/
theorem pop_keeps [DecidableEq ι] {packet : FbpMessage} (popped : call.pop port = some (packet, next)) :
    next.signalsIn = call.signalsIn ∧ (next.ins port).ring.capacity = (call.ins port).ring.capacity := by
  unfold pop at popped
  rcases (call.ins port).pop_cases with ⟨_, none⟩ | ⟨_, _, _, some⟩
  · rw [none] at popped
    cases popped
  · rw [some] at popped
    cases popped
    simp

theorem push_cases [DecidableEq ο] (call : Call ι ο) (item : ο × FbpMessage) :
    (∃ outs, call.push item = ({ call with outs }, true) ∧
        (∀ port, (outs port).sent = (call.outs port).sent ++ addressed port [item]) ∧
        ∀ rest, call.outs.fits (item :: rest) = outs.fits rest) ∨
      ∃ outs, call.push item = ({ call with outs }, false) ∧
        (∀ port, (outs port).sent = (call.outs port).sent) ∧
        ∀ rest, call.outs.fits (item :: rest) = false := by
  unfold push
  rcases call.outs.push_cases item with ⟨outs, pushed, facts⟩ | ⟨outs, refused, facts⟩
  · exact .inl ⟨outs, by rw [pushed], facts⟩
  · exact .inr ⟨outs, by rw [refused], facts⟩

end Call

end Flowd
