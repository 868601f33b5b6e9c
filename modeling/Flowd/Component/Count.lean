import Flowd.Component.Delivery
import Flowd.Component.Droppers

namespace Flowd

/-! Count: reports how much has come in. -/

open Transition

namespace Count

inductive Mode where
  | packets
  | size
  | sum
deriving DecidableEq, Repr

/-- `queryPairs` is `Url::parse` with `query_pairs`, none if the URL is not valid, and
`atoi` is `atoi::<u64>`.  `visible` is how many packets `slots` sees while the producer
goes on pushing. -/
structure Engine where
  queryPairs : String → Option (List (String × String))
  atoi : List UInt8 → Option Nat
  visible : Call ConfInPort OutPort → Nat

/-- The times are only logged. -/
structure State where
  mode : Option Mode
  packets : Nat
  packetsize : Nat
  sum : Nat
  pendingReports : List FbpMessage

def new : State := ⟨none, 0, 0, 0, []⟩

def modeNamed : String → Option Mode
  | "packets" => some .packets
  | "size" => some .size
  | "sum" => some .sum
  | _ => none

/-- `raw_conf.strip_prefix('?').unwrap_or(raw_conf)` -/
def stripQuestionMark (rawConf : String) : String :=
  match rawConf.toList with
  | '?' :: query => .ofList query
  | _ => rawConf

/-- The mode, or what the call returns without one. -/
def readMode (engine : Engine) (state : State) (call : Call ConfInPort OutPort) :
    Except Returned Mode × Call ConfInPort OutPort :=
  match state.mode with
  | some mode => (.ok mode, call)
  | none =>
      match call.pop .conf with
      | none => (.error (.result .noWork), call)
      | some (configMsg, call) =>
          match engine.queryPairs ("https://makeurlhappy/?" ++ stripQuestionMark (configMsg.textOrUtf8.getD "")) with
          | none => (.error .panicked, call)
          | some pairs =>
              match (pairs.find? fun pair => pair.1 == "mode").bind fun pair => modeNamed pair.2 with
              | some mode => (.ok mode, call)
              | none => (.error (.result .finished), call)

def msgSize : FbpMessage → Nat
  | .bytes data => data.length
  | .text text => text.utf8ByteSize
  | _ => 0

/-- A packet that is no number is skipped. -/
def msgValue (engine : Engine) (msg : FbpMessage) : Nat :=
  (engine.atoi (intoBytes (msg.textOrUtf8.getD ""))).getD 0

/-- How much some packets are. -/
def total (engine : Engine) (mode : Mode) (packets : List FbpMessage) : Nat :=
  match mode with
  | .packets => packets.length
  | .size => (packets.map msgSize).sum
  | .sum => (packets.map (msgValue engine)).sum

def State.counted (state : State) : Mode → Nat
  | .packets => state.packets
  | .size => state.packetsize
  | .sum => state.sum

/-- The `match mode` on a chunk. -/
def State.add (engine : Engine) (mode : Mode) (chunk : List FbpMessage) (state : State) : State :=
  match mode with
  | .packets => { state with packets := state.packets + chunk.length }
  | .size => { state with packetsize := state.packetsize + (chunk.map msgSize).sum }
  | .sum => { state with sum := state.sum + (chunk.map (msgValue engine)).sum }

def report (count : Nat) : FbpMessage := .text (toString count)

/-- What is sent to the client besides is not modelled. -/
def emitFinalCount (mode : Mode) (state : State) (call : Call ConfInPort OutPort) : State × Call ConfInPort OutPort :=
  match call.push (.out, report (state.counted mode)) with
  | (call, true) => (state, call)
  | (call, false) => ({ state with pendingReports := state.pendingReports ++ [report (state.counted mode)] }, call)

/-- The queue of reports in front of OUT. -/
def reports : Buffering ConfInPort OutPort FbpMessage where
  inn := .inn
  reads := FbpMessage.textOrUtf8
  transform := some
  route packet := (.out, packet)
  leavesWhenFull := true

/-- `read_chunk(count)` -/
def readChunk (count : Nat) (call : Call ConfInPort OutPort) : List FbpMessage × Call ConfInPort OutPort :=
  let inlet := call.ins .inn
  (inlet.ring.buffer.take count, { call with
    ins := Function.update call.ins .inn ⟨inlet.ring.drop count, inlet.taken ++ inlet.ring.buffer.take count⟩ })

/-- `self.inn.slots()`: not empty, and everything once the producer is gone. -/
def slots (engine : Engine) (call : Call ConfInPort OutPort) : Nat :=
  if call.isAbandoned .inn then (call.inbox .inn).length
  else min (max 1 (engine.visible call)) (call.inbox .inn).length

structure Counted where
  state : State
  call : Call ConfInPort OutPort
  remainingBudget : Nat
  stopped : Bool

/-- `while remaining_budget > 0 && !inn.is_empty()`.  Each round takes at least one unit of the
budget, so the budget bounds the rounds. -/
def countChunks (engine : Engine) (mode : Mode) : Nat → State → Call ConfInPort OutPort → Nat → Counted
  | 0, state, call, budget => ⟨state, call, budget, false⟩
  | rounds + 1, state, call, budget =>
      if budget = 0 ∨ call.isEmpty .inn = true then ⟨state, call, budget, false⟩
      else
        match call.poll FbpMessage.textOrUtf8 with
        | (call, true) =>
            let emitted := emitFinalCount mode state call
            ⟨emitted.1, emitted.2, budget, true⟩
        | (call, false) =>
            let toProcess := min (slots engine call) budget
            if toProcess = 0 then ⟨state, call, budget, false⟩
            else
              let read := readChunk toProcess call
              countChunks engine mode rounds (state.add engine mode read.1)
                { read.2 with workUnits := read.2.workUnits + read.1.length } (budget - read.1.length)

/-- The end of a call that was not stopped. -/
def conclude (mode : Mode) (counted : Counted) : Outcome State ConfInPort OutPort :=
  let idle := 0 < counted.call.workUnits ∧ counted.call.isEmpty .inn = true ∧ counted.call.isAbandoned .inn = false
  let emitted := if idle then emitFinalCount mode counted.state counted.call else (counted.state, counted.call)
  if emitted.2.isAbandoned .inn && emitted.1.pendingReports.isEmpty then
    let final := emitFinalCount mode emitted.1 emitted.2
    ⟨final.1, final.2, counted.remainingBudget, .result .finished⟩
  else ⟨emitted.1, emitted.2, counted.remainingBudget, emitted.2.didWork⟩

def process (engine : Engine) (state : State) (call : Call ConfInPort OutPort) (remainingBudget : Nat) :
    Outcome State ConfInPort OutPort :=
  match readMode engine state call.begin with
  | (.error returned, call) => ⟨state, call, remainingBudget, returned⟩
  | (.ok mode, call) =>
      let flushed := reports.flush remainingBudget state.pendingReports call
      let state := { state with mode := some mode, pendingReports := flushed.pending }
      match flushed.call.poll FbpMessage.textOrUtf8 with
      | (call, true) =>
          let emitted := emitFinalCount mode state call
          ⟨emitted.1, emitted.2, flushed.remainingBudget, .result .finished⟩
      | (call, false) =>
          let counted := countChunks engine mode flushed.remainingBudget state call flushed.remainingBudget
          if counted.stopped then ⟨counted.state, counted.call, counted.remainingBudget, .result .finished⟩
          else conclude mode counted

/-- A report is owed to no packet in particular. -/
def component (engine : Engine) : Component where
  In := ConfInPort
  Out := OutPort
  State := State
  new
  process := process engine
  reads := FbpMessage.textOrUtf8
  streams port := port = .inn
  held state := reports.held state.pendingReports
  owes _ _ _ := []
  exposed _ _ _ := []
  declines state call :=
    match (readMode engine state call.begin).1 with
    | .error (.result .finished) => true
    | _ => false

variable {engine : Engine} {mode : Mode} {state : State} {call : Call ConfInPort OutPort} {budget : Nat}

/-! Counting. -/

theorem total_append (engine : Engine) (mode : Mode) (left right : List FbpMessage) :
    total engine mode (left ++ right) = total engine mode left + total engine mode right := by
  cases mode with
  | packets => simp [total]
  | size => simp [total]
  | sum => simp [total]

theorem total_nil (engine : Engine) (mode : Mode) : total engine mode [] = 0 := by
  cases mode <;> rfl

@[simp] theorem add_counted (engine : Engine) (mode : Mode) (chunk : List FbpMessage) (state : State) :
    (state.add engine mode chunk).counted mode = state.counted mode + total engine mode chunk := by
  cases mode <;> rfl

@[simp] theorem add_mode (engine : Engine) (mode : Mode) (chunk : List FbpMessage) (state : State) :
    (state.add engine mode chunk).mode = state.mode := by
  cases mode <;> rfl

@[simp] theorem add_pendingReports (engine : Engine) (mode : Mode) (chunk : List FbpMessage) (state : State) :
    (state.add engine mode chunk).pendingReports = state.pendingReports := by
  cases mode <;> rfl

/-- Different counts are reported differently. -/
theorem report_injective : Function.Injective report := by
  intro left right same
  have texts : toString left = toString right := FbpMessage.text.inj same
  have digits : Nat.toDigits 10 left = Nat.toDigits 10 right := by
    have lists := congrArg String.toList texts
    simpa [toString, Nat.repr] using lists
  have back := congrArg (Nat.ofDigitChars 10 · 0) digits
  simpa using back

/-- What emitting a report leaves alone. -/
structure Emits (mode : Mode) (state : State) (call : Call ConfInPort OutPort) (emitted : State × Call ConfInPort OutPort) :
    Prop where
  ins : emitted.2.ins = call.ins
  heard : emitted.2.heard = call.heard
  keeps : emitted.1.mode = state.mode
  counted : ∀ other, emitted.1.counted other = state.counted other
  outs : emitted.2.outs = (call.outs.push (.out, report (state.counted mode))).1
  pending : emitted.1.pendingReports =
    if (call.outs.push (.out, report (state.counted mode))).2 then state.pendingReports
    else state.pendingReports ++ [report (state.counted mode)]

theorem emits (mode : Mode) (state : State) (call : Call ConfInPort OutPort) :
    Emits mode state call (emitFinalCount mode state call) := by
  have pushed : call.push (.out, report (state.counted mode)) =
      ({ call with outs := (call.outs.push (.out, report (state.counted mode))).1 },
        (call.outs.push (.out, report (state.counted mode))).2) := rfl
  unfold emitFinalCount
  rw [pushed]
  cases accepted : (call.outs.push (.out, report (state.counted mode))).2 with
  | true => exact ⟨rfl, rfl, rfl, fun _ => rfl, rfl, by rw [accepted]; rfl⟩
  | false =>
      refine ⟨rfl, rfl, rfl, fun other => ?_, rfl, by rw [accepted]; rfl⟩
      cases other <;> rfl

/-- What reading a chunk takes, and that it leaves the outputs alone. -/
structure Reads (count : Nat) (call : Call ConfInPort OutPort) (read : List FbpMessage × Call ConfInPort OutPort) : Prop where
  chunk : read.1 = (call.inbox .inn).take count
  took : Call.Took .inn call read.2 read.1
  left : read.2.inbox .inn = (call.inbox .inn).drop count
  outs : read.2.outs = call.outs

theorem reads (count : Nat) (call : Call ConfInPort OutPort) : Reads count call (readChunk count call) := by
  refine ⟨rfl, ⟨?_, ?_, ?_, ?_, ?_⟩, ?_, rfl⟩
  · simp [readChunk, Call.taken]
  · simp [readChunk, Call.inbox]
  · intro other different
    exact Function.update_of_ne different _ _
  · intro other
    by_cases here : other = .inn
    · subst here
      simp [readChunk, Call.isAbandoned]
    · simp [readChunk, Call.isAbandoned, Function.update_of_ne here]
  · intro other
    by_cases here : other = .inn
    · subst here
      simp [readChunk]
    · simp [readChunk, Function.update_of_ne here]
  · simp [readChunk, Call.inbox]

/-- What the loop does. -/
structure Counts (engine : Engine) (mode : Mode) (rounds : Nat) (state : State) (call : Call ConfInPort OutPort)
    (budget : Nat) (after : Counted) : Prop where
  took : ∃ new, Call.Took .inn call after.call new ∧
    after.state.counted mode = state.counted mode + total engine mode new
  keeps : after.state.mode = state.mode
  stops : after.stopped = true → after.call.Stopped FbpMessage.textOrUtf8
  outs : after.stopped = false → after.call.outs = call.outs
  pending : after.stopped = false → after.state.pendingReports = state.pendingReports
  whole : budget ≤ rounds → after.stopped = false → after.call.inbox .inn = (call.inbox .inn).drop budget

theorem slots_pos (engine : Engine) (call : Call ConfInPort OutPort) (waiting : call.inbox .inn ≠ []) :
    0 < slots engine call := by
  have length := List.length_pos_iff.mpr waiting
  unfold slots
  split
  · exact length
  · omega

theorem slots_le (engine : Engine) (call : Call ConfInPort OutPort) : slots engine call ≤ (call.inbox .inn).length := by
  unfold slots
  split
  · exact Nat.le_refl _
  · omega

theorem counts (engine : Engine) (mode : Mode) (rounds : Nat) (state : State) (call : Call ConfInPort OutPort)
    (budget : Nat) : Counts engine mode rounds state call budget (countChunks engine mode rounds state call budget) := by
  induction rounds generalizing state call budget with
  | zero =>
      refine ⟨⟨[], .of_eq rfl, by rw [total_nil]; rfl⟩, rfl, ?_, fun _ => rfl, fun _ => rfl, ?_⟩
      · intro stopped
        cases stopped
      · intro enough _
        rw [Nat.le_zero.mp enough]
        rfl
  | succ rounds ih =>
      unfold countChunks
      split
      · next ended =>
          refine ⟨⟨[], .of_eq rfl, by rw [total_nil]; rfl⟩, rfl, ?_, fun _ => rfl, fun _ => rfl, ?_⟩
          · intro stopped
            cases stopped
          · intro _ _
            rcases ended with spent | empty
            · rw [spent]
              rfl
            · have none : call.inbox .inn = [] := List.isEmpty_iff.mp empty
              rw [none, List.drop_nil]
      · next going =>
          obtain ⟨signalsIn, signalsOut, heard, polled, stops⟩ := call.poll_cases FbpMessage.textOrUtf8
          cases result : call.poll FbpMessage.textOrUtf8 with
          | mk listened stop =>
          rw [result] at polled stops
          have same : listened = { call with signalsIn, signalsOut, heard := call.heard ++ heard } := polled
          have listening : Call.Took .inn call listened [] := .of_eq (by rw [same])
          cases stop with
          | true =>
              have emitted := emits mode state listened
              refine ⟨⟨[], listening.congr emitted.ins, ?_⟩, emitted.keeps, ?_, ?_, ?_, ?_⟩
              · rw [total_nil]
                exact emitted.counted mode
              · intro _
                obtain ⟨signal, member, read⟩ := stops rfl
                exact ⟨signal, emitted.heard ▸ member, read⟩
              all_goals
                intros
                contradiction
          | false =>
              have positive : 0 < budget ∧ call.inbox .inn ≠ [] := by
                constructor
                · omega
                · intro none
                  exact going (.inr (List.isEmpty_iff.mpr none))
              have inbox : listened.inbox .inn = call.inbox .inn := by
                rw [same]
                rfl
              have some := slots_pos engine listened (inbox ▸ positive.2)
              have few := slots_le engine listened
              dsimp only
              rw [if_neg (by omega)]
              have read := reads (min (slots engine listened) budget) listened
              generalize readChunk (min (slots engine listened) budget) listened = chunk at read ⊢
              have length : chunk.1.length = min (slots engine listened) budget := by
                rw [read.chunk, List.length_take]
                omega
              have later := ih (state.add engine mode chunk.1)
                { chunk.2 with workUnits := chunk.2.workUnits + chunk.1.length } (budget - chunk.1.length)
              generalize countChunks engine mode rounds _ _ _ = after at later ⊢
              obtain ⟨new, took, counted⟩ := later.took
              have reading : Call.Took .inn listened
                  { chunk.2 with workUnits := chunk.2.workUnits + chunk.1.length } chunk.1 := read.took.congr rfl
              have taken : Call.Took .inn call after.call (chunk.1 ++ new) := by
                simpa using (listening.trans reading).trans took
              refine ⟨⟨_, taken, ?_⟩, later.keeps.trans (add_mode _ _ _ _), later.stops, ?_, ?_, ?_⟩
              · rw [counted, add_counted, total_append, Nat.add_assoc]
              · intro going
                rw [later.outs going]
                change chunk.2.outs = call.outs
                rw [read.outs, same]
              · intro going
                rw [later.pending going, add_pendingReports]
              · intro enough going
                rw [later.whole (by omega) going]
                change (chunk.2.inbox .inn).drop _ = _
                rw [read.left, List.drop_drop, inbox]
                congr 1
                omega

/-! A call. -/

/-- Reading the mode touches CONF only, and happens only until there is one. -/
theorem readMode_cases (engine : Engine) (state : State) (call : Call ConfInPort OutPort) :
    (readMode engine state call).2.ins .inn = call.ins .inn ∧ (readMode engine state call).2.outs = call.outs ∧
      ((∃ mode, (readMode engine state call).1 = .ok mode ∧ (state.mode = some mode ∨ state.mode = none)) ∨
        ∃ returned, (readMode engine state call).1 = .error returned ∧ state.mode = none) := by
  unfold readMode
  cases known : state.mode with
  | some mode => exact ⟨rfl, rfl, .inl ⟨mode, rfl, .inl rfl⟩⟩
  | none =>
      cases popped : call.pop ConfInPort.conf with
      | none => exact ⟨rfl, rfl, .inr ⟨_, rfl, rfl⟩⟩
      | some result =>
          obtain ⟨configMsg, next⟩ := result
          obtain ⟨ins, outs, _⟩ := Call.pop_others ConfInPort.inn popped ConfInPort.inn_ne_conf
          dsimp only
          split
          · exact ⟨ins, outs, .inr ⟨_, rfl, rfl⟩⟩
          · split
            · next mode _ => exact ⟨ins, outs, .inl ⟨mode, rfl, .inr rfl⟩⟩
            · exact ⟨ins, outs, .inr ⟨_, rfl, rfl⟩⟩

/-- A state with its mode and what is left of the reports. -/
def State.ready (state : State) (mode : Mode) (pendingReports : List FbpMessage) : State :=
  { state with mode := some mode, pendingReports }

@[simp] theorem ready_counted (state : State) (mode other : Mode) (pendingReports : List FbpMessage) :
    (state.ready mode pendingReports).counted other = state.counted other := by
  cases other <;> rfl

/-- How a call can go. -/
inductive Process (engine : Engine) (state : State) (call : Call ConfInPort OutPort) (budget : Nat)
    (outcome : Outcome State ConfInPort OutPort) : Prop where
  | unconfigured (unset : state.mode = none) (component : outcome.component = state)
      (inn : outcome.call.ins .inn = call.ins .inn)
  | stopped {mode : Mode} (mode_eq : state.mode = some mode ∨ state.mode = none)
      (keeps : outcome.component.mode = some mode) (stop : outcome.call.Stopped FbpMessage.textOrUtf8)
      (took : ∃ new, outcome.call.taken .inn = call.taken .inn ++ new ∧
        outcome.component.counted mode = state.counted mode + total engine mode new)
  | concluded {mode : Mode} {prepared listened : Call ConfInPort OutPort}
      {flushed : Received ConfInPort OutPort FbpMessage} {counted : Counted}
      (mode_eq : state.mode = some mode ∨ state.mode = none) (inn : prepared.ins .inn = call.ins .inn)
      (outs : prepared.outs = call.outs) (flush : flushed = reports.flush budget state.pendingReports prepared)
      (listenedIns : listened.ins = flushed.call.ins) (listenedOuts : listened.outs = flushed.call.outs)
      (counts : Counts engine mode flushed.remainingBudget (state.ready mode flushed.pending) listened
        flushed.remainingBudget counted)
      (going : counted.stopped = false) (ends : outcome = conclude mode counted)

theorem process_cases (engine : Engine) (state : State) (call : Call ConfInPort OutPort) (budget : Nat) :
    Process engine state call budget (process engine state call budget) := by
  obtain ⟨inn, outs, modes⟩ := readMode_cases engine state call.begin
  unfold process
  cases read : readMode engine state call.begin with
  | mk found prepared =>
  rw [read] at inn outs modes
  cases found with
  | error returned =>
      rcases modes with ⟨_, same, _⟩ | ⟨_, _, unset⟩
      · cases same
      · exact .unconfigured unset rfl inn
  | ok mode =>
      have mode_eq : state.mode = some mode ∨ state.mode = none := by
        rcases modes with ⟨_, same, either⟩ | ⟨_, same, _⟩
        · cases same
          exact either
        · cases same
      have flush := reports.flushed budget state.pendingReports prepared
      dsimp only
      generalize flushing : reports.flush budget state.pendingReports prepared = flushed at flush ⊢
      obtain ⟨signalsIn, signalsOut, heard, polled, stops⟩ := flushed.call.poll_cases FbpMessage.textOrUtf8
      cases result : flushed.call.poll FbpMessage.textOrUtf8 with
      | mk listened stop =>
      rw [result] at polled stops
      have same : listened = { flushed.call with signalsIn, signalsOut, heard := flushed.call.heard ++ heard } := polled
      have ins : listened.ins = prepared.ins := by
        rw [same]
        exact flush.ins
      cases stop with
      | true =>
          have emitted := emits mode (state.ready mode flushed.pending) listened
          refine .stopped mode_eq emitted.keeps ?_ ⟨[], ?_, ?_⟩
          · obtain ⟨signal, member, read⟩ := stops rfl
            exact ⟨signal, emitted.heard ▸ member, read⟩
          · change (emitFinalCount mode (state.ready mode flushed.pending) listened).2.taken .inn = _
            unfold Call.taken
            rw [emitted.ins, ins, inn, List.append_nil]
            rfl
          · change (emitFinalCount mode (state.ready mode flushed.pending) listened).1.counted mode = _
            rw [emitted.counted, ready_counted, total_nil]
            rfl
      | false =>
          have counts := counts engine mode flushed.remainingBudget (state.ready mode flushed.pending) listened
            flushed.remainingBudget
          change Process engine state call budget
            (if (countChunks engine mode flushed.remainingBudget (state.ready mode flushed.pending) listened
                flushed.remainingBudget).stopped then _ else _)
          generalize loop : countChunks engine mode flushed.remainingBudget (state.ready mode flushed.pending) listened
            flushed.remainingBudget = counted at counts ⊢
          cases stopped : counted.stopped with
          | true =>
              rw [if_pos rfl]
              obtain ⟨new, took, amount⟩ := counts.took
              refine .stopped mode_eq ?_ ?_ ⟨new, ?_, ?_⟩
              · change (countChunks engine mode flushed.remainingBudget (state.ready mode flushed.pending) listened
                  flushed.remainingBudget).state.mode = some mode
                rw [loop]
                exact counts.keeps
              · change (countChunks engine mode flushed.remainingBudget (state.ready mode flushed.pending) listened
                  flushed.remainingBudget).call.Stopped _
                rw [loop]
                exact counts.stops stopped
              · change (countChunks engine mode flushed.remainingBudget (state.ready mode flushed.pending) listened
                  flushed.remainingBudget).call.taken .inn = _
                rw [loop, took.taken]
                unfold Call.taken
                rw [ins, inn]
                rfl
              · change (countChunks engine mode flushed.remainingBudget (state.ready mode flushed.pending) listened
                  flushed.remainingBudget).state.counted mode = _
                rw [loop, amount, ready_counted]
          | false =>
              rw [if_neg (by decide)]
              refine .concluded mode_eq inn outs flushing.symm (by rw [same]) (by rw [same]) counts stopped ?_
              change conclude mode (countChunks engine mode flushed.remainingBudget (state.ready mode flushed.pending)
                listened flushed.remainingBudget) = _
              rw [loop]

/-- The end of a call leaves IN and the totals alone. -/
theorem conclude_keeps (mode : Mode) (counted : Counted) : (conclude mode counted).call.ins = counted.call.ins ∧
    (conclude mode counted).component.mode = counted.state.mode ∧
      ∀ other, (conclude mode counted).component.counted other = counted.state.counted other := by
  unfold conclude
  dsimp only
  have first := emits mode counted.state counted.call
  split
  · have second := emits mode (emitFinalCount mode counted.state counted.call).1
      (emitFinalCount mode counted.state counted.call).2
    split
    · exact ⟨second.ins.trans first.ins, second.keeps.trans first.keeps,
        fun other => (second.counted other).trans (first.counted other)⟩
    · exact ⟨first.ins, first.keeps, first.counted⟩
  · split
    · exact ⟨first.ins, first.keeps, first.counted⟩
    · exact ⟨rfl, rfl, fun _ => rfl⟩

/-- Once the producer is gone, the last report is emitted when the queue is empty. -/
theorem conclude_abandoned {counted : Counted} (mode : Mode) (abandoned : counted.call.isAbandoned .inn = true) :
    conclude mode counted =
      if counted.state.pendingReports = [] then
        ⟨(emitFinalCount mode counted.state counted.call).1, (emitFinalCount mode counted.state counted.call).2,
          counted.remainingBudget, .result .finished⟩
      else ⟨counted.state, counted.call, counted.remainingBudget, counted.call.didWork⟩ := by
  unfold conclude
  have notIdle : ¬ (0 < counted.call.workUnits ∧ counted.call.isEmpty .inn = true ∧
      counted.call.isAbandoned .inn = false) := by
    intro idle
    rw [abandoned] at idle
    exact absurd idle.2.2 (by decide)
  dsimp only
  rw [if_neg notIdle]
  simp only [abandoned, Bool.true_and, List.isEmpty_iff]

/-- The totals are those of the packets taken so far. -/
structure Tallied (engine : Engine) (state : State) (ports : Call ConfInPort OutPort) : Prop where
  unset : state.mode = none → ports.taken .inn = [] ∧ ∀ mode, state.counted mode = 0
  counted : ∀ mode, state.mode = some mode → state.counted mode = total engine mode (ports.taken .inn)

theorem Tallied.congr {later : Call ConfInPort OutPort} (tallied : Tallied engine state call)
    (taken : later.taken .inn = call.taken .inn) : Tallied engine state later := by
  refine ⟨fun unset => ?_, fun mode known => ?_⟩
  · rw [taken]
    exact tallied.unset unset
  · rw [taken]
    exact tallied.counted mode known

theorem Tallied.counted_of (tallied : Tallied engine state call) (either : state.mode = some mode ∨ state.mode = none) :
    state.counted mode = total engine mode (call.taken .inn) := by
  rcases either with known | unset
  · exact tallied.counted mode known
  · obtain ⟨none, zero⟩ := tallied.unset unset
    rw [none, zero, total_nil]

theorem Tallied.process (tallied : Tallied engine state call) (budget : Nat) :
    Tallied engine (process engine state call budget).component (process engine state call budget).call := by
  have cases := process_cases engine state call budget
  generalize Count.process engine state call budget = outcome at cases ⊢
  have later (mode : Mode) (either : state.mode = some mode ∨ state.mode = none)
      (keeps : outcome.component.mode = some mode)
      (took : ∃ new, outcome.call.taken .inn = call.taken .inn ++ new ∧
        outcome.component.counted mode = state.counted mode + total engine mode new) :
      Tallied engine outcome.component outcome.call := by
    obtain ⟨new, taken, amount⟩ := took
    refine ⟨fun unset => ?_, fun other known => ?_⟩
    · rw [unset] at keeps
      cases keeps
    · rw [keeps] at known
      cases known
      rw [amount, taken, total_append, tallied.counted_of either]
  cases cases with
  | unconfigured unset component inn =>
      have taken : outcome.call.taken .inn = call.taken .inn := by
        unfold Call.taken
        rw [inn]
      refine ⟨fun _ => ?_, fun mode known => ?_⟩
      · rw [component, taken]
        exact tallied.unset unset
      · rw [component, unset] at known
        cases known
  | @stopped mode either keeps stop took => exact later mode either keeps took
  | @concluded mode prepared listened flushed counted either inn outs flush listenedIns listenedOuts counts going ends =>
      obtain ⟨ins, keeps, amounts⟩ := conclude_keeps mode counted
      obtain ⟨new, took, amount⟩ := counts.took
      have flushIns : flushed.call.ins = prepared.ins := by
        rw [flush]
        exact (reports.flushed budget state.pendingReports prepared).ins
      subst ends
      refine later mode either (keeps.trans counts.keeps) ⟨new, ?_, ?_⟩
      · have taken := took.taken
        unfold Call.taken at taken ⊢
        rw [ins, taken, listenedIns, flushIns, inn]
      · rw [amounts, amount, ready_counted]

/-- The last report that has been delivered, or is left to be by a component that goes on. -/
def lastReport (outcome : Outcome State ConfInPort OutPort) : Option FbpMessage :=
  if outcome.returned = .result .finished then (outcome.call.outs .out).sent.getLast?
  else ((outcome.call.outs .out).sent ++ outcome.component.pendingReports).getLast?

/-- If the budget and OUT let the call send all reports and one more, what it leaves in IN adds
nothing; if not, the last report so far is already the one of all packets. -/
def Sound (engine : Engine) (mode : Mode) (state : State) (call : Call ConfInPort OutPort) (budget : Nat) : Prop :=
  let count := total engine mode (call.ins .inn).fed
  if state.pendingReports.length ≤ budget ∧
      call.outs.fits (reports.held (state.pendingReports ++ [report count])) = true then
    total engine mode ((call.inbox .inn).drop (budget - state.pendingReports.length)) = 0
  else ((call.outs .out).sent ++ state.pendingReports).getLast? = some (report count)

theorem fits_last (outs : Outlets OutPort FbpMessage) (count : Nat) :
    outs.fits (reports.held [report count]) = (outs .out).admits := by
  simp [Buffering.held, reports, Outlets.fits, Outlets.push, Outlet.push_admits]

theorem truthful_iff (tallied : Tallied engine state call)
    (known : (Count.process engine state call budget).component.mode = some mode)
    (abandoned : call.isAbandoned .inn = true)
    (going : ¬ (Count.process engine state call budget).call.Stopped FbpMessage.textOrUtf8) :
    lastReport (Count.process engine state call budget) = some (report (total engine mode (call.ins .inn).fed)) ↔
      Sound engine mode state call budget := by
  have cases := process_cases engine state call budget
  generalize Count.process engine state call budget = outcome at known going cases ⊢
  cases cases with
  | unconfigured unset component inn =>
      rw [component, unset] at known
      cases known
  | stopped either keeps stop took => exact absurd stop going
  | @concluded found prepared listened flushed counted either inn outs flush listenedIns listenedOuts counts unstopped
      ends =>
      have facts := reports.flushed budget state.pendingReports prepared
      have order := reports.flush_inOrder budget state.pendingReports prepared OutPort.out
      rw [← flush] at facts order
      rw [outs] at order
      have routes : ∀ packet, reports.route packet = (.out, packet) := fun _ => rfl
      rw [Buffering.addressed_held routes, Buffering.addressed_held routes, addressed_nil, List.append_nil] at order
      obtain ⟨new, took, amount⟩ := counts.took
      have same : found = mode := by
        obtain ⟨_, keeps, _⟩ := conclude_keeps found counted
        rw [ends, keeps, counts.keeps] at known
        exact Option.some.inj known
      subst same
      have listenedIn : listened.ins .inn = call.ins .inn := by
        rw [listenedIns, facts.ins, inn]
      have gone : counted.call.isAbandoned .inn = true := by
        rw [took.abandoned]
        unfold Call.isAbandoned at abandoned ⊢
        rw [listenedIn]
        exact abandoned
      have countedOuts : counted.call.outs = flushed.call.outs := (counts.outs unstopped).trans listenedOuts
      have pending : counted.state.pendingReports = flushed.pending := counts.pending unstopped
      have left := counts.whole (Nat.le_refl _) unstopped
      have inbox : listened.inbox .inn = call.inbox .inn := by
        unfold Call.inbox
        rw [listenedIn]
      have fed : total engine found (call.ins .inn).fed =
          counted.state.counted found + total engine found ((call.inbox .inn).drop flushed.remainingBudget) := by
        have split : (call.ins .inn).fed = call.taken .inn ++ (new ++ (call.inbox .inn).drop flushed.remainingBudget) := by
          have whole := took.inbox
          rw [left, inbox] at whole
          rw [← whole]
          rfl
        rw [split, total_append, total_append, amount, ready_counted, tallied.counted_of either, Nat.add_assoc]
      rw [ends, conclude_abandoned found gone]
      unfold Sound
      dsimp only
      by_cases empty : flushed.pending = []
      · obtain ⟨room, spent, fits⟩ := facts.empties empty
        have final := emits found counted.state counted.call
        have roomy : call.outs.fits (reports.held (state.pendingReports ++
            [report (total engine found (call.ins .inn).fed)])) = (counted.call.outs .out).admits := by
          rw [← outs, Buffering.held, List.map_append]
          change prepared.outs.fits (reports.held state.pendingReports ++ _) = _
          rw [fits, countedOuts]
          exact fits_last _ _
        have accepted : (counted.call.outs.push (.out, report (counted.state.counted found))).2 =
            (counted.call.outs .out).admits := Outlet.push_admits _ _
        rw [empty, List.append_nil, ← countedOuts] at order
        rw [if_pos (pending.trans empty), roomy]
        simp only [lastReport, if_true, final.outs]
        cases admits : (counted.call.outs .out).admits with
        | true =>
            rw [if_pos ⟨room, rfl⟩, Outlets.sent_accepted (accepted.trans admits), addressed_singleton_self,
              List.getLast?_concat, Option.some.injEq, report_injective.eq_iff, fed, ← spent]
            omega
        | false =>
            rw [if_neg (by simp), Outlets.sent_refused (accepted.trans admits), order]
      · have tight : ¬ (state.pendingReports.length ≤ budget ∧ call.outs.fits (reports.held (state.pendingReports ++
            [report (total engine found (call.ins .inn).fed)])) = true) := by
          intro both
          apply empty
          apply facts.complete both.1
          have fits := both.2
          rw [Buffering.held, List.map_append] at fits
          rw [outs]
          exact Outlets.fits_of_append _ fits
        have unfinished := counted.call.didWork_ne_finished
        rw [if_neg fun none => empty (pending.symm.trans none), if_neg tight]
        simp only [lastReport, if_neg unfinished]
        rw [countedOuts, pending, order]

/-- Calls find and leave the totals right. -/
structure Counting (engine : Engine) (stream : Stream (component engine)) : Prop where
  now : Tallied engine stream.state stream.ports
  calls : ∀ invocation ∈ stream.history, Tallied engine invocation.state invocation.call

theorem Counting.step {engine : Engine} {stream next : Stream (component engine)} {traffic : Traffic (component engine)}
    {events : List Returned} (counting : Counting engine stream) (step : stream.step traffic = some (next, events)) :
    Counting engine next := by
  rcases Stream.step_cases step with between | ⟨remainingBudget, schedule, _, rfl⟩
  · refine ⟨?_, between.history ▸ counting.calls⟩
    rw [between.state]
    exact counting.now.congr (between.taken ConfInPort.inn)
  · have found : Tallied engine stream.state (stream.invocation remainingBudget schedule).call :=
      counting.now.congr rfl
    refine ⟨found.process remainingBudget, ?_⟩
    intro invocation member
    rcases List.mem_append.mp member with earlier | last
    · exact counting.calls invocation earlier
    · rw [List.mem_singleton.mp last]
      exact found

theorem Counting.run {engine : Engine} {permitted : Stream (component engine) → Traffic (component engine) → Prop}
    {inCapacity : ConfInPort → Nat} {outCapacity : OutPort → Nat} {stream : Stream (component engine)}
    {trace : List Returned}
    (run : (streamMachine (component engine)).Run permitted (.start inCapacity outCapacity) trace stream) :
    Counting engine stream := by
  refine Machine.Run.invariant (Counting engine) run ?_ fun _ counting step => counting.step step
  refine ⟨⟨fun _ => ⟨rfl, fun mode => ?_⟩, fun mode known => ?_⟩, fun _ member => absurd member List.not_mem_nil⟩
  · cases mode <;> rfl
  · cases known

/-- In every run, a call after the producer was dropped leaves the number of all packets as the
last report exactly if it is sound. -/
theorem last_report_true_iff (engine : Engine) (inCapacity : ConfInPort → Nat) (outCapacity : OutPort → Nat)
    (stream : Stream (component engine)) (trace : List Returned)
    (run : (streamMachine (component engine)).Run anyMove (.start inCapacity outCapacity) trace stream)
    (invocation : Invocation (component engine)) (member : invocation ∈ stream.history) (mode : Mode)
    (known : State.mode invocation.outcome.component = some mode)
    (abandoned : invocation.call.isAbandoned ConfInPort.inn = true)
    (going : ¬ invocation.outcome.call.Stopped FbpMessage.textOrUtf8) :
    lastReport invocation.outcome = some (report (total engine mode (invocation.call.ins ConfInPort.inn).fed)) ↔
      Sound engine mode invocation.state invocation.call invocation.remainingBudget :=
  truthful_iff ((Counting.run run).calls invocation member) known abandoned going

/-- Every configuration asks for packets; nothing is a number. -/
def packetsEngine : Engine := ⟨fun _ => some [("mode", "packets")], fun _ => none, fun _ => 1⟩

def conf : FbpMessage := .text "?mode=packets"

/-- Three packets come in and the producer is dropped; the call may take this many. -/
def threeWithin (budget : Nat) : List (Traffic (component packetsEngine)) :=
  [.feed ConfInPort.conf conf, .feed ConfInPort.inn (.text "a"), .feed ConfInPort.inn (.text "b"),
    .feed ConfInPort.inn (.text "c"), .close ConfInPort.inn, .invoke budget fun _ => []]

def threeCounted (budget : Nat) : Stream (component packetsEngine) :=
  (streamMachine (component packetsEngine)).played (.start (fun _ => 3) fun _ => 1) (threeWithin budget)

theorem threeCounted_run (budget : Nat) : (streamMachine (component packetsEngine)).Run anyMove
    (.start (fun _ => 3) fun _ => 1)
    ((streamMachine (component packetsEngine)).reported (.start (fun _ => 3) fun _ => 1) (threeWithin budget))
    (threeCounted budget) :=
  Machine.run_played _ (Machine.permits_any _ _) rfl

/-- The call that `threeCounted` ends with. -/
def threeCall (budget : Nat) : Invocation (component packetsEngine) :=
  ((streamMachine (component packetsEngine)).played (.start (fun _ => 3) fun _ => 1)
    ((threeWithin budget).dropLast)).invocation budget fun _ => []

theorem last_report_true_iff_three :
    lastReport (threeCall 32).outcome = some (report 3) ↔
      Sound packetsEngine .packets (threeCall 32).state (threeCall 32).call 32 := by
  have heard : (threeCall 32).outcome.call.heard = [] := by decide +kernel
  refine last_report_true_iff packetsEngine (fun _ => 3) (fun _ => 1) (threeCounted 32) _ (threeCounted_run 32)
    (threeCall 32) List.mem_cons_self .packets (by decide +kernel) (by decide +kernel) ?_
  rintro ⟨signal, member, _⟩
  rw [heard] at member
  cases member

/-- With a budget of two, Count finishes with the report "2" and a packet left in IN. -/
theorem finishes_miscounted :
    (streamMachine (component packetsEngine)).Run anyMove (.start (fun _ => 3) fun _ => 1)
        ((streamMachine (component packetsEngine)).reported (.start (fun _ => 3) fun _ => 1) (threeWithin 2))
        (threeCounted 2) ∧
      (threeCounted 2).returned = some (.result .finished) ∧
      ((threeCounted 2).ports.ins ConfInPort.inn).fed.map FbpMessage.asText = [some "a", some "b", some "c"] ∧
      ((threeCounted 2).ports.inbox ConfInPort.inn).map FbpMessage.asText = [some "c"] ∧
      ((threeCounted 2).ports.outs OutPort.out).sent.map FbpMessage.asText = [some "2"] := by
  refine ⟨threeCounted_run 2, ?_, ?_, ?_, ?_⟩
  all_goals decide +kernel

end Count

end Flowd
