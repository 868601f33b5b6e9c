import Flowd.Component.Basic
import Flowd.Component.Buffered

namespace Flowd

/-! The components that keep a packet their output refuses: Repeat, Trim, Output,
TextReplace, Equals and the two for Brotli. -/

/-- What a call has left behind when it was not ended by a stop or a panic before. -/
def Received.conclude {ι ο π : Type} (received : Received ι ο π) (verdict : Received ι ο π → Returned) :
    Outcome (List π) ι ο :=
  ⟨received.pending, received.call, received.remainingBudget, received.ended.getD (verdict received)⟩

/-- `if inn.is_abandoned() { Finished }` and the result that depends on the work done. -/
def Received.finishAbandoned {ι ο π : Type} (inn : ι) (received : Received ι ο π) : Returned :=
  if received.call.isAbandoned inn then .result .finished else received.call.didWork

/-- Queues `VecDeque<FbpMessage>` in front of the single outport. -/
abbrev Forwarder := Buffering InPort OutPort FbpMessage

namespace Repeat

def spec : Forwarder where
  inn := .inn
  reads := FbpMessage.asText
  transform := some
  route packet := (.out, packet)
  leavesWhenFull := true

/-- `if inn.is_abandoned() && pending_out.is_empty()` -/
def finish (received : Received InPort OutPort FbpMessage) : Returned :=
  if received.call.isAbandoned .inn && received.pending.isEmpty then .result .finished
  else received.call.didWork

def process (pendingOut : List FbpMessage) (call : Call InPort OutPort) (remainingBudget : Nat) :
    Outcome (List FbpMessage) InPort OutPort :=
  (spec.flushFirst remainingBudget pendingOut call.begin).conclude finish

end Repeat

namespace Trim

def spec : Forwarder where
  inn := .inn
  reads := FbpMessage.asText
  transform ip := ip.asText.map fun text => .text (trim text)
  route packet := (.out, packet)
  leavesWhenFull := true

/-- `if inn.is_abandoned() && pending_out.is_empty()` -/
def finish (received : Received InPort OutPort FbpMessage) : Returned :=
  if received.call.isAbandoned .inn && received.pending.isEmpty then .result .finished
  else received.call.didWork

def process (pendingOut : List FbpMessage) (call : Call InPort OutPort) (remainingBudget : Nat) :
    Outcome (List FbpMessage) InPort OutPort :=
  (spec.flushFirst remainingBudget pendingOut call.begin).conclude finish

end Trim

namespace Output

/-- What is printed on the way is not modelled. -/
def spec : Forwarder where
  inn := .inn
  reads := FbpMessage.messageAsUtf8
  transform := some
  route packet := (.out, packet)
  leavesWhenFull := false

/-- The end of the input counts only if this call did no work. -/
def finish (received : Received InPort OutPort FbpMessage) : Returned :=
  if 0 < received.call.workUnits then .result (.didWork received.call.workUnits)
  else if received.call.isAbandoned .inn then .result .finished
  else .result .noWork

def process (pendingPackets : List FbpMessage) (call : Call InPort OutPort) (remainingBudget : Nat) :
    Outcome (List FbpMessage) InPort OutPort :=
  (spec.pollFirst remainingBudget pendingPackets call.begin).conclude finish

end Output

namespace BrotliCompress

/-- `compress` is what `write`, `flush` and the drop of a `CompressorWriter` leave in
the buffer, none if one of the `expect`s fails. -/
def spec (compress : List UInt8 → Option (List UInt8)) : Forwarder where
  inn := .inn
  reads := FbpMessage.textOrUtf8
  transform ip := (compress (ip.asBytes.getD [])).map .bytes
  route packet := (.out, packet)
  leavesWhenFull := false

def process (compress : List UInt8 → Option (List UInt8)) (pendingPackets : List FbpMessage)
    (call : Call InPort OutPort) (remainingBudget : Nat) : Outcome (List FbpMessage) InPort OutPort :=
  ((spec compress).pollFirst remainingBudget pendingPackets call.begin).conclude
    (Received.finishAbandoned .inn)

end BrotliCompress

namespace BrotliDecompress

/-- `decompress` is the same for a `DecompressorWriter`. -/
def spec (decompress : List UInt8 → Option (List UInt8)) : Forwarder where
  inn := .inn
  reads := FbpMessage.textOrUtf8
  transform ip := (decompress (ip.asBytes.getD [])).map .bytes
  route packet := (.out, packet)
  leavesWhenFull := false

def process (decompress : List UInt8 → Option (List UInt8)) (pendingPackets : List FbpMessage)
    (call : Call InPort OutPort) (remainingBudget : Nat) : Outcome (List FbpMessage) InPort OutPort :=
  ((spec decompress).pollFirst remainingBudget pendingPackets call.begin).conclude
    (Received.finishAbandoned .inn)

end BrotliDecompress

namespace TextReplace

structure State where
  replacements : List (String × String)
  configComplete : Bool
  pendingPackets : List FbpMessage

def new : State := ⟨[], false, []⟩

/-- The text with each match replaced; `skip` characters belong to the match before. -/
def replaceMatches (pattern replacement : List Char) : Nat → List Char → List Char
  | _, [] => []
  | skip + 1, _ :: rest => replaceMatches pattern replacement skip rest
  | 0, char :: rest =>
      if pattern.isPrefixOf (char :: rest) then
        replacement ++ replaceMatches pattern replacement (pattern.length - 1) rest
      else char :: replaceMatches pattern replacement 0 rest

/-- `str::replace`; the empty pattern matches before each character and at the end. -/
def replace (pattern replacement text : String) : String :=
  if pattern.isEmpty then
    .ofList (replacement.toList ++ text.toList.flatMap fun char => char :: replacement.toList)
  else .ofList (replaceMatches pattern.toList replacement.toList 0 text.toList)

def replaceAll (replacements : List (String × String)) (text : String) : String :=
  replacements.foldl (fun text pair => replace pair.1 pair.2 text) text

/-- `while self.conf.slots() >= 2`, none if one of the `expect`s fails.  Each round
takes two packets, so the number of packets bounds the rounds. -/
def readPairs : Nat → List (String × String) → Call ConfInPort OutPort → Option (List (String × String)) × Call ConfInPort OutPort
  | 0, replacements, call => (some replacements, call)
  | rounds + 1, replacements, call =>
      if (call.inbox .conf).length < 2 then (some replacements, call)
      else
        match call.pop .conf with
        | none => (some replacements, call)
        | some (first, call) =>
            match call.pop .conf with
            | none => (some replacements, call)
            | some (second, call) =>
                match first.asText, second.asText with
                | some pattern, some replacement =>
                    readPairs rounds (replacements ++ [(pattern, replacement)]) call
                | _, _ => (none, call)

/-- The configuration part of `process`, run while the configuration is incomplete. -/
def readConf (state : State) (call : Call ConfInPort OutPort) : Option (List (String × String)) × Call ConfInPort OutPort :=
  if state.configComplete then (some state.replacements, call)
  else readPairs (call.inbox .conf).length state.replacements call

def base : Buffering ConfInPort OutPort FbpMessage where
  inn := .inn
  reads := FbpMessage.asText
  transform := some
  route packet := (.out, packet)
  leavesWhenFull := false

def transform (replacements : List (String × String)) (ip : FbpMessage) : Option FbpMessage :=
  ip.asText.map fun text => .text (replaceAll replacements text)

/-- What the call makes of a packet. -/
def inForce (state : State) (call : Call ConfInPort OutPort) : FbpMessage → Option FbpMessage :=
  transform ((readConf state call.begin).1.getD [])

def process (state : State) (call : Call ConfInPort OutPort) (remainingBudget : Nat) : Outcome State ConfInPort OutPort :=
  match readConf state call.begin with
  | (none, call) => ⟨state, call, remainingBudget, .panicked⟩
  | (some replacements, call) =>
      let configComplete := state.configComplete || call.isAbandoned .conf
      if !configComplete && replacements.isEmpty then
        ⟨{ state with replacements }, call, remainingBudget, .result .noWork⟩
      else
        let received :=
          { base with transform := transform replacements }.pollFirst remainingBudget state.pendingPackets call
        ⟨⟨replacements, configComplete, received.pending⟩, received.call, received.remainingBudget,
          received.ended.getD (received.finishAbandoned .inn)⟩

end TextReplace

namespace Equals

inductive In where
  | cmp
  | inn
deriving DecidableEq, Repr

inductive Out where
  | true
  | false
deriving DecidableEq, Repr

/-- A pending packet comes with `route_to_true`. -/
structure State where
  cmpValue : Option FbpMessage
  pendingPackets : List (FbpMessage × Bool)

def new : State := ⟨none, []⟩

def readCmp (state : State) (call : Call In Out) : Option FbpMessage × Call In Out :=
  match state.cmpValue with
  | some value => (some value, call)
  | none =>
      match call.pop .cmp with
      | none => (none, call)
      | some (value, call) => (some value, call)

def base : Buffering In Out (FbpMessage × Bool) where
  inn := .inn
  reads := FbpMessage.textOrUtf8
  transform ip := some (ip, Bool.false)
  route packet := (if packet.2 then .true else .false, packet.1)
  leavesWhenFull := Bool.false

def transform (cmpValue ip : FbpMessage) : Option (FbpMessage × Bool) := some (ip, ip == cmpValue)

/-- What the call makes of a packet. -/
def inForce (state : State) (call : Call In Out) : FbpMessage → Option (FbpMessage × Bool) :=
  match (readCmp state call.begin).1 with
  | some cmpValue => transform cmpValue
  | none => base.transform

def process (state : State) (call : Call In Out) (remainingBudget : Nat) : Outcome State In Out :=
  match readCmp state call.begin with
  | (none, call) => ⟨state, call, remainingBudget, .result .noWork⟩
  | (some cmpValue, call) =>
      let received :=
        { base with transform := transform cmpValue }.pollFirst remainingBudget state.pendingPackets call
      match received.ended with
      | some returned =>
          ⟨⟨some cmpValue, received.pending⟩, received.call, received.remainingBudget, returned⟩
      | none =>
          -- a new value on CMP counts from the next call on
          match received.call.pop .cmp with
          | none =>
              ⟨⟨some cmpValue, received.pending⟩, received.call, received.remainingBudget,
                received.finishAbandoned .inn⟩
          | some (newCmp, call) =>
              ⟨⟨some newCmp, received.pending⟩, call, received.remainingBudget,
                Received.finishAbandoned .inn { received with call }⟩

end Equals

/-- What the loops are to a component: `base` and the transformation that is in force
in a call, and where the component keeps what its outputs refused. -/
structure Overflow (σ ι ο π : Type) where
  base : Buffering ι ο π
  inForce : σ → Call ι ο → FbpMessage → Option π
  pending : σ → List π

namespace Overflow

variable {σ ι ο π : Type} (overflow : Overflow σ ι ο π)

def spec (state : σ) (call : Call ι ο) : Buffering ι ο π :=
  { overflow.base with transform := overflow.inForce state call }

/-- The component around the loops. -/
def component [DecidableEq ι] [DecidableEq ο] (new : σ) (process : σ → Call ι ο → Nat → Outcome σ ι ο) :
    StreamComponent where
  In := ι
  Out := ο
  State := σ
  new
  process
  reads := overflow.base.reads
  streams port := port = overflow.base.inn
  held state := overflow.base.held (overflow.pending state)
  owes state before after := (overflow.spec state before).items (before.fresh after overflow.base.inn)
  exposed _ _ _ := []
  declines _ _ := false
  affords state call budget :=
    (overflow.pending state).length + (call.inbox overflow.base.inn).length ≤ budget
  backlog state call :=
    overflow.base.held (overflow.pending state) ++ (overflow.spec state call).items (call.inbox overflow.base.inn)

variable [DecidableEq ι] [DecidableEq ο]

/-- How a call comes to its end: before it has looked at IN, or by the two loops on
the call that the configuration left. -/
inductive Calls (state : σ) (call : Call ι ο) (budget : Nat) (outcome : Outcome σ ι ο) : Prop where
  | aside (returned : outcome.returned ≠ .result .finished)
      (inlet : outcome.call.ins overflow.base.inn = call.ins overflow.base.inn)
      (outs : outcome.call.outs = call.outs)
      (pending : overflow.pending outcome.component = overflow.pending state)
  | loops {prepared : Call ι ο} {after : Received ι ο π}
      (exchanged : (overflow.spec state call).Exchanged budget (overflow.pending state) prepared after)
      (inletBefore : prepared.ins overflow.base.inn = call.ins overflow.base.inn)
      (outsBefore : prepared.outs = call.outs)
      (inlet : outcome.call.ins overflow.base.inn = after.call.ins overflow.base.inn)
      (outs : outcome.call.outs = after.call.outs)
      (heard : outcome.call.heard = after.call.heard)
      (pending : overflow.pending outcome.component = after.pending)
      (returned : ∀ returned, after.ended = some returned → outcome.returned = returned)

variable {overflow} {new : σ} {process : σ → Call ι ο → Nat → Outcome σ ι ο}

/-- Such a component loses nothing, whatever its outputs do. -/
theorem ledger (calls : ∀ state call budget, overflow.Calls state call budget (process state call budget)) :
    Ledger (overflow.component new process).toComponent := by
  rintro ⟨state, call, budget⟩
  refine ⟨[], ?_, fun _ => ⟨fun _ => rfl, fun _ => rfl⟩⟩
  change Balance call.outs (overflow.base.held (overflow.pending state))
    ((overflow.spec state call).items (call.fresh (process state call budget).call overflow.base.inn))
    (process state call budget).call.outs
    (overflow.base.held (overflow.pending (process state call budget).component)) []
  cases calls state call budget with
  | aside returned inlet outs pending =>
      have nothing : call.fresh (process state call budget).call overflow.base.inn = [] := by
        unfold Call.fresh Call.taken
        rw [inlet]
        exact List.drop_length
      rw [nothing, outs, pending]
      exact .still fun _ => rfl
  | @loops prepared after exchanged inletBefore outsBefore inlet outs heard pending returned =>
      obtain ⟨new, took, balance⟩ := exchanged.took
      have fresh : call.fresh (process state call budget).call overflow.base.inn = new := by
        rw [← took.fresh]
        unfold Call.fresh Call.taken
        rw [inlet, ← inletBefore]
        rfl
      rw [fresh, outs, pending, ← outsBefore]
      exact balance

/-- Its finish test is good for what the budget and the outputs let through. -/
theorem closes (calls : ∀ state call budget, overflow.Calls state call budget (process state call budget)) :
    Closes (overflow.component new process) := by
  rintro ⟨state, call, budget⟩ ⟨finished, unasked⟩
  change (process state call budget).returned = .result .finished at finished
  change ¬ (process state call budget).call.Stopped overflow.base.reads at unasked
  have calls := calls state call budget
  have left : ((process state call budget).call.inbox overflow.base.inn = [] ∧
      overflow.pending (process state call budget).component = []) ↔
      (overflow.pending state).length + (call.inbox overflow.base.inn).length ≤ budget ∧
        call.outs.fits (overflow.base.held (overflow.pending state) ++
          (overflow.spec state call).items (call.inbox overflow.base.inn)) = true := by
    generalize process state call budget = outcome at finished unasked calls ⊢
    cases calls with
    | aside returned => exact absurd finished returned
    | @loops prepared after exchanged inletBefore outsBefore inlet outs heard pending returned =>
        have ended : after.ended = none := by
          rcases exchanged.ends with ended | ended | ⟨_, signal, member, stop⟩
          · exact ended
          · cases finished.symm.trans (returned _ ended)
          · exact absurd ⟨signal, heard ▸ member, stop⟩ unasked
        have inbox : outcome.call.inbox overflow.base.inn = after.call.inbox overflow.base.inn := by
          rw [Call.inbox, inlet]
          rfl
        have before : prepared.inbox overflow.base.inn = call.inbox overflow.base.inn := by
          rw [Call.inbox, inletBefore]
          rfl
        have empties := exchanged.empties ended
        have complete := exchanged.complete ended
        change after.pending = [] → _ ∧
          after.call.inbox overflow.base.inn = (prepared.inbox overflow.base.inn).drop _ ∧
            (_ + (prepared.inbox overflow.base.inn).length ≤ budget → _) at empties
        change _ + (prepared.inbox overflow.base.inn).length ≤ budget → prepared.outs.fits
          (_ ++ (overflow.spec state call).items (prepared.inbox overflow.base.inn)) = true → _ at complete
        rw [inbox, pending, ← before, ← outsBefore]
        constructor
        · rintro ⟨empty, none⟩
          obtain ⟨room, rest, fits⟩ := empties none
          have short := List.drop_eq_nil_iff.mp (rest.symm.trans empty)
          exact ⟨by omega, fits (by omega)⟩
        · rintro ⟨room, fits⟩
          have none := complete room fits
          obtain ⟨_, rest, _⟩ := empties none
          exact ⟨by rw [rest, List.drop_eq_nil_iff]; omega, none⟩
  refine Iff.trans ?_ left
  constructor
  · rintro ⟨empty, held, _⟩
    exact ⟨empty _ rfl, List.map_eq_nil_iff.mp held⟩
  · rintro ⟨empty, none⟩
    refine ⟨?_, List.map_eq_nil_iff.mpr none, rfl⟩
    rintro _ rfl
    exact empty

end Overflow

/-- A pop leaves the other edges alone. -/
theorem Call.pop_others {ι ο : Type} [DecidableEq ι] {call next : Call ι ο} {port : ι} {packet : FbpMessage}
    (other : ι) (popped : call.pop port = some (packet, next)) (different : other ≠ port) :
    next.ins other = call.ins other ∧ next.outs = call.outs ∧ next.heard = call.heard := by
  rcases call.pop_cases port with ⟨_, none⟩ | ⟨_, _, _, _, found, took, _, outs, heard, _⟩
  · cases none.symm.trans popped
  · cases found.symm.trans popped
    exact ⟨took.others other different, outs, heard⟩

/-- A forwarder is its queue. -/
def Forwarder.overflow (spec : Forwarder) : Overflow (List FbpMessage) InPort OutPort FbpMessage :=
  ⟨spec, fun _ _ => spec.transform, id⟩

theorem Forwarder.calls {spec : Forwarder} {verdict : Received InPort OutPort FbpMessage → Returned}
    {pending : List FbpMessage} {call : Call InPort OutPort} {budget : Nat} {after : Received InPort OutPort FbpMessage}
    (exchanged : spec.Exchanged budget pending call.begin after) :
    spec.overflow.Calls pending call budget (after.conclude verdict) := by
  refine .loops exchanged rfl rfl rfl rfl rfl rfl fun returned ended => ?_
  simp [Received.conclude, ended]

def repeatComponent : StreamComponent := Repeat.spec.overflow.component [] Repeat.process
def trimComponent : StreamComponent := Trim.spec.overflow.component [] Trim.process
def outputComponent : StreamComponent := Output.spec.overflow.component [] Output.process
def brotliCompressComponent (compress : List UInt8 → Option (List UInt8)) : StreamComponent :=
  (BrotliCompress.spec compress).overflow.component [] (BrotliCompress.process compress)
def brotliDecompressComponent (decompress : List UInt8 → Option (List UInt8)) : StreamComponent :=
  (BrotliDecompress.spec decompress).overflow.component [] (BrotliDecompress.process decompress)

theorem Repeat.calls (pending : List FbpMessage) (call : Call InPort OutPort) (budget : Nat) :
    Repeat.spec.overflow.Calls pending call budget (Repeat.process pending call budget) :=
  Forwarder.calls (Repeat.spec.flushFirst_exchanged budget pending call.begin)

theorem Trim.calls (pending : List FbpMessage) (call : Call InPort OutPort) (budget : Nat) :
    Trim.spec.overflow.Calls pending call budget (Trim.process pending call budget) :=
  Forwarder.calls (Trim.spec.flushFirst_exchanged budget pending call.begin)

theorem Output.calls (pending : List FbpMessage) (call : Call InPort OutPort) (budget : Nat) :
    Output.spec.overflow.Calls pending call budget (Output.process pending call budget) :=
  Forwarder.calls (Output.spec.pollFirst_exchanged budget pending call.begin)

theorem BrotliCompress.calls (compress : List UInt8 → Option (List UInt8)) (pending : List FbpMessage)
    (call : Call InPort OutPort) (budget : Nat) :
    (BrotliCompress.spec compress).overflow.Calls pending call budget
      (BrotliCompress.process compress pending call budget) :=
  Forwarder.calls ((BrotliCompress.spec compress).pollFirst_exchanged budget pending call.begin)

theorem BrotliDecompress.calls (decompress : List UInt8 → Option (List UInt8)) (pending : List FbpMessage)
    (call : Call InPort OutPort) (budget : Nat) :
    (BrotliDecompress.spec decompress).overflow.Calls pending call budget
      (BrotliDecompress.process decompress pending call budget) :=
  Forwarder.calls ((BrotliDecompress.spec decompress).pollFirst_exchanged budget pending call.begin)

namespace TextReplace

def overflow : Overflow State ConfInPort OutPort FbpMessage := ⟨base, inForce, State.pendingPackets⟩

def component : StreamComponent := overflow.component new process

/-- Reading the configuration touches CONF only. -/
theorem readPairs_others (rounds : Nat) (replacements : List (String × String)) (call : Call ConfInPort OutPort) :
    (readPairs rounds replacements call).2.ins .inn = call.ins .inn ∧
      (readPairs rounds replacements call).2.outs = call.outs := by
  induction rounds generalizing replacements call with
  | zero => exact ⟨rfl, rfl⟩
  | succ rounds ih =>
      unfold readPairs
      split
      · exact ⟨rfl, rfl⟩
      · cases first : call.pop .conf with
        | none => exact ⟨rfl, rfl⟩
        | some result =>
            obtain ⟨pattern, between⟩ := result
            obtain ⟨ins, outs, _⟩ := Call.pop_others ConfInPort.inn first (by decide)
            dsimp only
            cases second : between.pop .conf with
            | none => exact ⟨ins, outs⟩
            | some result =>
                obtain ⟨replacement, next⟩ := result
                obtain ⟨insNext, outsNext, _⟩ := Call.pop_others ConfInPort.inn second (by decide)
                dsimp only
                split
                · next text _ _ _ =>
                    obtain ⟨insRest, outsRest⟩ := ih (replacements ++ [(text, _)]) next
                    exact ⟨insRest.trans (insNext.trans ins), outsRest.trans (outsNext.trans outs)⟩
                · exact ⟨insNext.trans ins, outsNext.trans outs⟩

theorem readConf_others (state : State) (call : Call ConfInPort OutPort) :
    (readConf state call).2.ins .inn = call.ins .inn ∧ (readConf state call).2.outs = call.outs := by
  unfold readConf
  split
  · exact ⟨rfl, rfl⟩
  · exact readPairs_others _ _ _

theorem calls (state : State) (call : Call ConfInPort OutPort) (budget : Nat) :
    overflow.Calls state call budget (process state call budget) := by
  obtain ⟨ins, outs⟩ := readConf_others state call.begin
  have force : overflow.inForce state call = transform ((readConf state call.begin).1.getD []) := rfl
  unfold process
  generalize readConf state call.begin = read at ins outs force ⊢
  obtain ⟨found, prepared⟩ := read
  cases found with
  | none => exact .aside (by simp) ins outs rfl
  | some replacements =>
      dsimp only
      split
      · exact .aside (by simp) ins outs rfl
      · have exchanged :=
          { base with transform := transform replacements }.pollFirst_exchanged budget state.pendingPackets prepared
        refine .loops ?_ ins outs rfl rfl rfl rfl ?_
        · unfold Overflow.spec
          rw [force]
          exact exchanged
        · intro returned ended
          simp [ended]

end TextReplace

namespace Equals

def overflow : Overflow State In Out (FbpMessage × Bool) := ⟨base, inForce, State.pendingPackets⟩

def component : StreamComponent := overflow.component new process

theorem readCmp_others (state : State) (call : Call In Out) :
    (readCmp state call).2.ins .inn = call.ins .inn ∧ (readCmp state call).2.outs = call.outs := by
  unfold readCmp
  split
  · exact ⟨rfl, rfl⟩
  · split
    · exact ⟨rfl, rfl⟩
    · next popped =>
        obtain ⟨ins, outs, _⟩ := Call.pop_others In.inn popped (by decide)
        exact ⟨ins, outs⟩

theorem calls (state : State) (call : Call In Out) (budget : Nat) :
    overflow.Calls state call budget (process state call budget) := by
  obtain ⟨ins, outs⟩ := readCmp_others state call.begin
  have force : overflow.inForce state call = match (readCmp state call.begin).1 with
    | some cmpValue => transform cmpValue
    | none => base.transform := rfl
  unfold process
  generalize readCmp state call.begin = read at ins outs force ⊢
  obtain ⟨found, prepared⟩ := read
  cases found with
  | none => exact .aside (by simp) ins outs rfl
  | some cmpValue =>
      have exchanged :=
        { base with transform := transform cmpValue }.pollFirst_exchanged budget state.pendingPackets prepared
      have same : overflow.spec state call = { base with transform := transform cmpValue } := by
        unfold Overflow.spec
        rw [force]
        rfl
      rw [← same] at exchanged
      dsimp only
      rw [← same]
      generalize (overflow.spec state call).pollFirst budget state.pendingPackets prepared = received
        at exchanged ⊢
      cases ended : received.ended with
      | some returned =>
          refine .loops exchanged ins outs rfl rfl rfl rfl fun other same => ?_
          cases ended.symm.trans same
          rfl
      | none =>
          dsimp only
          split
          · refine .loops exchanged ins outs rfl rfl rfl rfl fun other same => ?_
            cases ended.symm.trans same
          · next popped =>
              obtain ⟨insNext, outsNext, heardNext⟩ := Call.pop_others In.inn popped (by decide)
              refine .loops exchanged ins outs insNext outsNext heardNext rfl fun other same => ?_
              cases ended.symm.trans same

end Equals

end Flowd
