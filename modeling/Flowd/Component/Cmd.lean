import Flowd.Component.Outpost

namespace Flowd

/-! Cmd, which runs a sub-process for each packet and forwards the lines that it writes. -/

open Transition

namespace Cmd

inductive CmdPort where
  | inn
  | cmd
  | conf
deriving DecidableEq, Repr

inductive Mode where
  | one
  | each
deriving DecidableEq, Repr

inductive SubprocessState where
  | idle
  | running
  | completed
deriving DecidableEq, Repr

/-- An argument in CONF. -/
inductive Arg where
  | retry (value : Bool)
  | mode (modeStr : String)
  | unknown

/-- `shell_words::split`, what a `lexopt::Parser` reads of CONF, and whether a program can be
started; none where a call panics. -/
structure Engine where
  split : String → Option (List String)
  parse : String → Option (List Arg)
  starts : String → List String → Bool

/-- A sub-process, with what it has written so far. -/
structure Subprocess where
  input : FbpMessage
  output : List (List UInt8)

/-- What a sub-process and the thread that reads its output do.  The thread stops at a line
that is not UTF-8. -/
inductive ProcessMove where
  | write (line : List UInt8)
  | read
  | exit
deriving DecidableEq, Repr

/-- `pipe` are the lines the thread has not handed over, `stdoutRx` those it has.  `meanwhile`
is what happens during the next call, between the look at the output and that at the exit. -/
structure CmdComponent where
  cmdProgram : Option String
  cmdArgs : List String
  mode : Mode
  retry : Bool
  configLoaded : Bool
  state : SubprocessState
  pipe : List (List UInt8)
  reading : Bool
  stdoutRx : List (List UInt8)
  exited : Bool
  started : List Subprocess
  meanwhile : List ProcessMove

def new : CmdComponent where
  cmdProgram := none
  cmdArgs := []
  mode := .each
  retry := false
  configLoaded := false
  state := .idle
  pipe := []
  reading := false
  stdoutRx := []
  exited := false
  started := []
  meanwhile := []

/-- The last sub-process writes a line. -/
def writeLast (line : List UInt8) : List Subprocess → List Subprocess
  | [] => []
  | [last] => [{ last with output := last.output ++ [line] }]
  | first :: rest => first :: writeLast line rest

namespace CmdComponent

variable (component : CmdComponent)

def act (move : ProcessMove) : CmdComponent :=
  if component.state = .running then
    match move with
    | .write line =>
        if component.exited then component
        else { component with pipe := component.pipe ++ [line], started := writeLast line component.started }
    | .read =>
        match component.reading, component.pipe with
        | true, line :: rest =>
            if (fromUtf8 line).isSome then { component with pipe := rest, stdoutRx := component.stdoutRx ++ [line] }
            else { component with reading := false }
        | _, _ => component
    | .exit => { component with exited := true }
  else component

/-- What has happened by the look at the exit. -/
def elapsed : CmdComponent := component.meanwhile.foldl act { component with meanwhile := [] }

end CmdComponent

inductive Move where
  | now (move : ProcessMove)
  | meanwhile (moves : List ProcessMove)

def work (component : CmdComponent) : Move → Option CmdComponent
  | .now move => some (component.act move)
  | .meanwhile moves => some { component with meanwhile := moves }

abbrev CmdTurn := Turn CmdComponent CmdPort OutPort Unit

/-- `String::from_utf8` of a line. -/
def message (line : List UInt8) : FbpMessage :=
  match fromUtf8 line with
  | some text => .text text
  | none => .bytes line

/-- The loop over the arguments; none if it panics. -/
def readArgs (component : CmdComponent) : List Arg → Option CmdComponent
  | [] => some component
  | .retry value :: rest => readArgs { component with retry := value } rest
  | .mode modeStr :: rest =>
      if modeStr = "one" then readArgs { component with mode := .one } rest
      else if modeStr = "each" then readArgs { component with mode := .each } rest
      else none
  | .unknown :: _ => none

section
variable (engine : Engine) (component : CmdComponent) (call : Call CmdPort OutPort)

/-- The configuration is loaded, or what the call returns without it. -/
def loadConfig : Option Returned × CmdComponent × Call CmdPort OutPort :=
  if component.configLoaded then (none, component, call)
  else
    match call.pop .cmd with
    | none => (some (.result .noWork), component, call)
    | some (cmdIp, call) =>
        match cmdIp.asText.bind engine.split with
        | some (program :: args) =>
            let component := { component with cmdProgram := some program, cmdArgs := args }
            match call.pop .conf with
            | none => (some (.result .noWork), component, call)
            | some (confIp, call) =>
                match (confIp.asText.bind engine.parse).bind (readArgs component) with
                | some component => (none, { component with configLoaded := true }, call)
                | none => (some .panicked, component, call)
        | _ => (some .panicked, component, call)

variable (context : NodeContext) (clock : Clock)

/-- `if self.inn.is_abandoned()` -/
def endOfInput : CmdTurn :=
  ⟨component, call, context, clock, [],
    if call.isAbandoned .inn then .result .finished else .result .noWork⟩

/-- A sub-process is started. -/
def startSubprocess : CmdTurn :=
  if 0 < context.remainingBudget then
    match call.pop .inn with
    | none => endOfInput component call context clock
    | some (ip, call) =>
        let program := component.cmdProgram.getD ""
        if component.mode = .each ∧ engine.starts program component.cmdArgs = true then
          ⟨{ component with
              state := .running, pipe := [], reading := true, stdoutRx := [], exited := false,
              started := component.started ++ [⟨ip, []⟩] },
            call, { context with remainingBudget := context.remainingBudget - 1 }, clock, [], .result (.didWork 1)⟩
        else ⟨component, call, context, clock, [], .panicked⟩
  else endOfInput component call context clock

/-- The look at the output; whether a line has been pushed.  A line that OUT refuses is gone. -/
def forwardLine : CmdComponent × Call CmdPort OutPort × Bool :=
  match decide (0 < context.remainingBudget), component.stdoutRx with
  | true, line :: rest =>
      let pushed := call.push (.out, message line)
      ({ component with stdoutRx := rest }, pushed.1, pushed.2)
  | _, _ => (component, call, false)

/-- The look at the exit, which drops the receiver. -/
def checkExit : CmdComponent :=
  let component := component.elapsed
  if component.exited then { component with state := .completed, pipe := [], stdoutRx := [] } else component

def attend : CmdTurn :=
  let (component, call, worked) := forwardLine component call context
  let component := checkExit component
  if worked then
    ⟨component, call, { context with remainingBudget := context.remainingBudget - 1 }, clock, [],
      .result (.didWork 1)⟩
  else
    let clock := clock.read
    endOfInput component call { context with wakeAt := some (clock.now + fromMicros 10000) } clock

/-- What follows the look at the signals. -/
def proceed : CmdTurn :=
  match component.state with
  | .idle => startSubprocess engine component call context clock
  | .running => attend component call context clock
  | .completed => endOfInput { component with state := .idle } call context clock

def process : CmdTurn :=
  let (returned, component, call) := loadConfig engine component call.begin
  match returned with
  | some returned => ⟨component, call, context, clock, [], returned⟩
  | none =>
      let (call, stop) := call.poll FbpMessage.textOrUtf8
      if stop then ⟨{ component with exited := true }, call, context, clock, [], .result .finished⟩
      else proceed engine component call context clock

end

def component (engine : Engine) : IoComponent where
  In := CmdPort
  Out := OutPort
  State := CmdComponent
  Event := Unit
  new := Cmd.new
  process := Cmd.process engine
  Move := Cmd.Move
  work := Cmd.work

/-- All that the sub-processes have written, in the order of the inputs. -/
def outputs (component : CmdComponent) : List FbpMessage :=
  component.started.flatMap fun subprocess => subprocess.output.map message

/-- The sub-processes started are those of the packets taken, and each line is forwarded or
still under way. -/
structure Ledger (component : CmdComponent) (call : Call CmdPort OutPort) : Prop where
  started : call.taken .inn = component.started.map Subprocess.input
  forwarded : (call.outs .out).sent ++ (component.stdoutRx ++ component.pipe).map message = outputs component
  resting : component.state ≠ .running → component.stdoutRx = [] ∧ component.pipe = []
  inhabited : component.state = .running → component.started ≠ []

/-- The call does not panic for want of the program, does not lose the line it reads or those
left at an exit, and does not end on a closed IN with something left to do. -/
structure Careful (engine : Engine) (component : CmdComponent) (call : Call CmdPort OutPort) (context : NodeContext) :
    Prop where
  starts : component.state = .idle → 0 < context.remainingBudget → call.inbox .inn ≠ [] →
    engine.starts (component.cmdProgram.getD "") component.cmdArgs = true
  accepted : component.state = .running → 0 < context.remainingBudget → ∀ line ∈ component.stdoutRx.head?,
    (call.push (.out, message line)).2 = true
  drained : component.state = .running → component.elapsed.exited = true → component.elapsed.pipe = [] ∧
    component.elapsed.stdoutRx.length ≤ if 0 < context.remainingBudget ∧ component.stdoutRx ≠ [] then 1 else 0
  idleEnd : call.isAbandoned .inn = true → component.state = .idle → call.inbox .inn = [] ∨ 0 < context.remainingBudget
  completedEnd : call.isAbandoned .inn = true → component.state = .completed → call.inbox .inn = []
  runningEnd : call.isAbandoned .inn = true → component.state = .running →
    (0 < context.remainingBudget ∧ component.stdoutRx ≠ []) ∨ (component.elapsed.exited = true ∧ call.inbox .inn = [])

instance decidableCareful (engine : Engine) (component : CmdComponent) (call : Call CmdPort OutPort)
    (context : NodeContext) : Decidable (Careful engine component call context) :=
  decidable_of_iff
    ((component.state = .idle → 0 < context.remainingBudget → ¬ (call.inbox .inn).isEmpty = true →
        engine.starts (component.cmdProgram.getD "") component.cmdArgs = true) ∧
      (component.state = .running → 0 < context.remainingBudget → ∀ line ∈ component.stdoutRx.head?,
        (call.push (.out, message line)).2 = true) ∧
      (component.state = .running → component.elapsed.exited = true → component.elapsed.pipe = [] ∧
        component.elapsed.stdoutRx.length ≤ if 0 < context.remainingBudget ∧ component.stdoutRx ≠ [] then 1 else 0) ∧
      (call.isAbandoned .inn = true → component.state = .idle →
        (call.inbox .inn).isEmpty = true ∨ 0 < context.remainingBudget) ∧
      (call.isAbandoned .inn = true → component.state = .completed → (call.inbox .inn).isEmpty = true) ∧
      (call.isAbandoned .inn = true → component.state = .running →
        (0 < context.remainingBudget ∧ component.stdoutRx ≠ []) ∨
          (component.elapsed.exited = true ∧ (call.inbox .inn).isEmpty = true)))
    (by
      simp only [List.isEmpty_iff]
      constructor
      · rintro ⟨starts, accepted, drained, idleEnd, completedEnd, runningEnd⟩
        exact ⟨starts, accepted, drained, idleEnd, completedEnd, runningEnd⟩
      · rintro ⟨starts, accepted, drained, idleEnd, completedEnd, runningEnd⟩
        exact ⟨starts, accepted, drained, idleEnd, completedEnd, runningEnd⟩)

/-- Nothing is left to do. -/
structure Done (component : CmdComponent) (call : Call CmdPort OutPort) : Prop where
  taken : call.inbox .inn = []
  exited : component.state ≠ .running
  pushed : (call.outs .out).sent = outputs component

section
variable {engine : Engine} {component : CmdComponent} {call : Call CmdPort OutPort}
variable {context : NodeContext} {clock : Clock}

theorem writeLast_input (line : List UInt8) (started : List Subprocess) :
    (writeLast line started).map Subprocess.input = started.map Subprocess.input := by
  induction started with
  | nil => rfl
  | cons first rest ih =>
      cases rest with
      | nil => rfl
      | cons second rest => simpa [writeLast] using ih

theorem writeLast_output (line : List UInt8) {started : List Subprocess} (some : started ≠ []) :
    (writeLast line started).flatMap (fun subprocess => subprocess.output.map message) =
      started.flatMap (fun subprocess => subprocess.output.map message) ++ [message line] := by
  induction started with
  | nil => exact absurd rfl some
  | cons first rest ih =>
      cases rest with
      | nil => simp [writeLast]
      | cons second rest =>
          have later := ih (by simp)
          simp only [writeLast, List.flatMap_cons, List.append_assoc] at later ⊢
          rw [later]

/-- A line is written or handed over, or only the flags change. -/
theorem act_cases (component : CmdComponent) (move : ProcessMove) :
    component.act move = component ∨ (∃ reading exited, component.act move = { component with reading, exited }) ∨
      component.state = .running ∧
        ((∃ line, component.act move =
            { component with pipe := component.pipe ++ [line], started := writeLast line component.started }) ∨
          ∃ line rest, component.pipe = line :: rest ∧
            component.act move = { component with pipe := rest, stdoutRx := component.stdoutRx ++ [line] }) := by
  unfold CmdComponent.act
  split
  · next running =>
      cases move with
      | write line =>
          cases exited : component.exited with
          | true => exact .inl rfl
          | false => exact .inr (.inr ⟨running, .inl ⟨line, rfl⟩⟩)
      | read =>
          cases reading : component.reading with
          | false => exact .inl rfl
          | true =>
              cases pipe : component.pipe with
              | nil => exact .inl rfl
              | cons line rest =>
                  cases read : fromUtf8 line with
                  | none => exact .inr (.inl ⟨false, component.exited, by simp [read]⟩)
                  | some text => exact .inr (.inr ⟨running, .inr ⟨line, rest, rfl, by simp [read]⟩⟩)
      | exit => exact .inr (.inl ⟨component.reading, true, rfl⟩)
  · exact .inl rfl

theorem Ledger.act (ledger : Ledger component call) (move : ProcessMove) : Ledger (component.act move) call := by
  have forwarded := ledger.forwarded
  rcases act_cases component move with acted | ⟨reading, exited, acted⟩ | ⟨running, ⟨line, acted⟩ | ⟨line, rest, pipe, acted⟩⟩
  · rw [acted]
    exact ledger
  · rw [acted]
    exact ⟨ledger.started, forwarded, ledger.resting, ledger.inhabited⟩
  · have inhabited := ledger.inhabited running
    rw [acted]
    refine ⟨by rw [writeLast_input]; exact ledger.started, ?_, fun resting => absurd running resting, fun _ => ?_⟩
    · have total : outputs { component with
          pipe := component.pipe ++ [line], started := writeLast line component.started } =
          outputs component ++ [message line] := writeLast_output line inhabited
      rw [total, ← forwarded]
      simp
    · intro none
      have none : writeLast line component.started = [] := none
      have inputs := writeLast_input line component.started
      rw [none] at inputs
      exact inhabited (List.map_eq_nil_iff.mp inputs.symm)
  · rw [acted]
    refine ⟨ledger.started, ?_, fun resting => absurd running resting, ledger.inhabited⟩
    rw [pipe] at forwarded
    rw [List.append_assoc, List.singleton_append]
    exact forwarded

theorem Ledger.work {move : Move} {next : CmdComponent} (ledger : Ledger component call)
    (worked : work component move = some next) : Ledger next call := by
  cases move with
  | now move =>
      cases worked
      exact ledger.act move
  | meanwhile moves =>
      cases worked
      exact ⟨ledger.started, ledger.forwarded, ledger.resting, ledger.inhabited⟩

theorem Ledger.elapsed (ledger : Ledger component call) : Ledger component.elapsed call := by
  have kept : ∀ (moves : List ProcessMove) (component : CmdComponent), Ledger component call →
      Ledger (moves.foldl CmdComponent.act component) call := by
    intro moves
    induction moves with
    | nil => exact fun _ ledger => ledger
    | cons move rest ih => exact fun component ledger => ih _ (ledger.act move)
  exact kept component.meanwhile _ ⟨ledger.started, ledger.forwarded, ledger.resting, ledger.inhabited⟩

/-- What has been received before plays no part in what happens. -/
theorem act_received (front : List (List UInt8)) (component : CmdComponent) (move : ProcessMove) :
    ({ component with stdoutRx := front ++ component.stdoutRx } : CmdComponent).act move =
      { component.act move with stdoutRx := front ++ (component.act move).stdoutRx } := by
  unfold CmdComponent.act
  by_cases running : component.state = .running
  · simp only [if_pos running]
    cases move with
    | write line => cases exited : component.exited <;> simp [exited]
    | read =>
        cases reading : component.reading with
        | false => simp [reading]
        | true =>
            cases pipe : component.pipe with
            | nil => simp [reading, pipe]
            | cons line rest => cases read : fromUtf8 line <;> simp [read]
    | exit => rfl
  · simp only [if_neg running]

theorem elapsed_received (front : List (List UInt8)) (component : CmdComponent) :
    ({ component with stdoutRx := front ++ component.stdoutRx } : CmdComponent).elapsed =
      { component.elapsed with stdoutRx := front ++ component.elapsed.stdoutRx } := by
  have kept : ∀ (moves : List ProcessMove) (component : CmdComponent),
      moves.foldl CmdComponent.act { component with stdoutRx := front ++ component.stdoutRx } =
        { moves.foldl CmdComponent.act component with
          stdoutRx := front ++ (moves.foldl CmdComponent.act component).stdoutRx } := by
    intro moves
    induction moves with
    | nil => exact fun _ => rfl
    | cons move rest ih =>
        intro component
        rw [List.foldl_cons, act_received]
        exact ih _
  exact kept component.meanwhile { component with meanwhile := [] }

/-- A configuration is read without an effect on the sub-processes. -/
structure Configures (component next : CmdComponent) : Prop where
  state : next.state = component.state
  started : next.started = component.started
  stdoutRx : next.stdoutRx = component.stdoutRx
  pipe : next.pipe = component.pipe

theorem readArgs_configures {args : List Arg} {next : CmdComponent} (read : readArgs component args = some next) :
    Configures component next := by
  induction args generalizing component with
  | nil =>
      cases read
      exact ⟨rfl, rfl, rfl, rfl⟩
  | cons arg rest ih =>
      cases arg with
      | retry value =>
          have later : Configures { component with retry := value } next := ih read
          exact ⟨later.state, later.started, later.stdoutRx, later.pipe⟩
      | mode modeStr =>
          unfold readArgs at read
          split at read
          · have later : Configures { component with mode := .one } next := ih read
            exact ⟨later.state, later.started, later.stdoutRx, later.pipe⟩
          · split at read
            · have later : Configures { component with mode := .each } next := ih read
              exact ⟨later.state, later.started, later.stdoutRx, later.pipe⟩
            · cases read
      | unknown => cases read

/-- What an attempt to load the configuration leaves alone. -/
structure Loaded (component : CmdComponent) (call : Call CmdPort OutPort)
    (loaded : Option Returned × CmdComponent × Call CmdPort OutPort) : Prop where
  configures : Configures component loaded.2.1
  inn : loaded.2.2.ins .inn = call.ins .inn
  outs : loaded.2.2.outs = call.outs
  returned : loaded.1 ≠ some (.result .finished)

theorem loadConfig_loaded (engine : Engine) (component : CmdComponent) (call : Call CmdPort OutPort) :
    Loaded component call (loadConfig engine component call) := by
  have still : Configures component component := ⟨rfl, rfl, rfl, rfl⟩
  unfold loadConfig
  split
  · exact ⟨still, rfl, rfl, by simp⟩
  · rcases call.pop_cases .cmd with ⟨_, popped⟩ | ⟨cmdIp, _, next, _, popped, took, _, outs, _⟩
    · rw [popped]
      exact ⟨still, rfl, rfl, by simp⟩
    · have inn : next.ins .inn = call.ins .inn := took.others .inn (by decide)
      rw [popped]
      dsimp only
      cases cmdIp.asText.bind engine.split with
      | none => exact ⟨still, inn, outs, by simp⟩
      | some words =>
          cases words with
          | nil => exact ⟨still, inn, outs, by simp⟩
          | cons program args =>
              dsimp only
              rcases next.pop_cases .conf with ⟨_, unpopped⟩ | ⟨confIp, _, last, _, popped, later, _, lastOuts, _⟩
              · rw [unpopped]
                exact ⟨⟨rfl, rfl, rfl, rfl⟩, inn, outs, by simp⟩
              · have lastInn : last.ins .inn = call.ins .inn := (later.others .inn (by decide)).trans inn
                rw [popped]
                dsimp only
                cases read : (confIp.asText.bind engine.parse).bind
                    (readArgs { component with cmdProgram := some program, cmdArgs := args }) with
                | none => exact ⟨⟨rfl, rfl, rfl, rfl⟩, lastInn, lastOuts.trans outs, by simp⟩
                | some configured =>
                    obtain ⟨options, _, read⟩ := Option.bind_eq_some_iff.mp read
                    have configures := readArgs_configures read
                    exact ⟨⟨configures.state, configures.started, configures.stdoutRx, configures.pipe⟩, lastInn,
                      lastOuts.trans outs, by simp⟩

theorem Ledger.congr {next : CmdComponent} {later : Call CmdPort OutPort} (ledger : Ledger component call)
    (configures : Configures component next) (taken : later.taken .inn = call.taken .inn)
    (sent : (later.outs .out).sent = (call.outs .out).sent) : Ledger next later := by
  refine ⟨?_, ?_, ?_, ?_⟩
  · rw [taken, configures.started, ledger.started]
  · rw [sent, configures.stdoutRx, configures.pipe, ledger.forwarded, outputs, outputs, configures.started]
  · rw [configures.state, configures.stdoutRx, configures.pipe]
    exact ledger.resting
  · rw [configures.state, configures.started]
    exact ledger.inhabited

theorem Ledger.sent (ledger : Ledger component call) (stdoutRx : component.stdoutRx = []) (pipe : component.pipe = []) :
    (call.outs .out).sent = outputs component := by
  rw [← ledger.forwarded, stdoutRx, pipe]
  simp

/-- What a call leaves behind. -/
structure Kept (turn : CmdTurn) : Prop where
  ledger : Ledger turn.component turn.call
  done : turn.returned = .result .finished → Done turn.component turn.call

theorem endOfInput_kept (ledger : Ledger component call) (done : call.isAbandoned .inn = true → Done component call) :
    Kept (endOfInput component call context clock) := by
  refine ⟨ledger, fun finished => ?_⟩
  unfold endOfInput at finished
  dsimp only at finished
  split at finished
  · next ended => exact done ended
  · cases finished

theorem startSubprocess_kept (ledger : Ledger component call) (idle : component.state = .idle)
    (each : component.mode = .each) (careful : Careful engine component call context) :
    Kept (startSubprocess engine component call context clock) := by
  obtain ⟨stdoutRx, pipe⟩ := ledger.resting (by rw [idle]; decide)
  have sent := ledger.sent stdoutRx pipe
  have resting : component.state ≠ .running := by rw [idle]; decide
  unfold startSubprocess
  split
  · next budget =>
    rcases call.pop_cases .inn with ⟨empty, popped⟩ | ⟨ip, rest, next, waiting, popped, took, _, outs, _⟩
    · rw [popped]
      exact endOfInput_kept ledger fun _ => ⟨empty, resting, sent⟩
    · rw [popped]
      dsimp only
      have starts := careful.starts idle budget (by rw [waiting]; exact List.cons_ne_nil _ _)
      rw [if_pos ⟨each, starts⟩]
      refine ⟨⟨?_, ?_, fun absurd_ => absurd rfl absurd_, fun _ => by simp⟩, fun finished => by cases finished⟩
      · rw [took.taken, ledger.started, List.map_append]
        rfl
      · show (next.outs .out).sent ++ _ = outputs _
        rw [outs, sent]
        simp [outputs]
  · next spent =>
      refine endOfInput_kept ledger fun ended => ⟨?_, resting, sent⟩
      exact (careful.idleEnd ended idle).resolve_right spent

/-- An exit that is noticed when everything has been read loses nothing. -/
theorem checkExit_ledger (ledger : Ledger component call)
    (drained : component.elapsed.exited = true → component.elapsed.pipe = [] ∧ component.elapsed.stdoutRx = []) :
    Ledger (checkExit component) call ∧
      (component.elapsed.exited = true → (checkExit component).state = .completed) := by
  have elapsed := ledger.elapsed
  unfold checkExit
  dsimp only
  split
  · next exited =>
      obtain ⟨pipe, stdoutRx⟩ := drained exited
      have sent := elapsed.sent stdoutRx pipe
      exact ⟨⟨elapsed.started, (List.append_nil _).trans sent, fun _ => ⟨rfl, rfl⟩, fun running => by cases running⟩, fun _ => rfl⟩
  · next going => exact ⟨elapsed, fun exited => absurd exited going⟩

theorem forwardLine_cases (component : CmdComponent) (call : Call CmdPort OutPort) (context : NodeContext) :
    (∃ line rest, 0 < context.remainingBudget ∧ component.stdoutRx = line :: rest ∧
        forwardLine component call context =
          ({ component with stdoutRx := rest }, (call.push (.out, message line)).1, (call.push (.out, message line)).2)) ∨
      ¬ (0 < context.remainingBudget ∧ component.stdoutRx ≠ []) ∧
        forwardLine component call context = (component, call, false) := by
  unfold forwardLine
  by_cases budget : 0 < context.remainingBudget
  · cases received : component.stdoutRx with
    | nil => exact .inr ⟨by simp, by simp [budget]⟩
    | cons line rest => exact .inl ⟨line, rest, budget, rfl, by simp [budget]⟩
  · exact .inr ⟨fun some => budget some.1, by simp [budget]⟩

theorem attend_kept (ledger : Ledger component call) (running : component.state = .running)
    (careful : Careful engine component call context) : Kept (attend component call context clock) := by
  have drained := careful.drained running
  unfold attend
  rcases forwardLine_cases component call context with ⟨line, rest, budget, received, forwarded⟩ | ⟨nothing, forwarded⟩
  · have accepted := careful.accepted running budget line (by rw [received]; rfl)
    rw [forwarded]
    dsimp only
    rw [accepted, if_pos rfl]
    rcases call.push_cases (.out, message line) with ⟨outs, pushed, sent, _⟩ | ⟨_, refused, _⟩
    · rw [pushed]
      let read : CmdComponent := { component with stdoutRx := rest }
      have whole : component.elapsed = { read.elapsed with stdoutRx := [line] ++ read.elapsed.stdoutRx } := by
        have same : component = { read with stdoutRx := [line] ++ read.stdoutRx } := by
          show component = { component with stdoutRx := line :: rest }
          rw [← received]
        rw [same]
        exact elapsed_received [line] read
      have onwards : Ledger read { call with outs } := by
        refine ⟨ledger.started, ?_, fun resting => absurd running resting, ledger.inhabited⟩
        have whole := ledger.forwarded
        rw [received] at whole
        show (outs .out).sent ++ (rest ++ component.pipe).map message = outputs component
        rw [sent, addressed_singleton_self, ← whole]
        simp
      have empty : read.elapsed.exited = true → read.elapsed.pipe = [] ∧ read.elapsed.stdoutRx = [] := by
        intro exited
        rw [whole] at drained
        obtain ⟨pipe, few⟩ := drained exited
        rw [if_pos ⟨budget, by rw [received]; simp⟩] at few
        exact ⟨pipe, by simpa using few⟩
      exact ⟨(checkExit_ledger onwards empty).1, fun finished => by cases finished⟩
    · rw [refused] at accepted
      cases accepted
  · rw [forwarded]
    dsimp only
    rw [if_neg (by simp)]
    have empty : component.elapsed.exited = true → component.elapsed.pipe = [] ∧ component.elapsed.stdoutRx = [] := by
      intro exited
      obtain ⟨pipe, few⟩ := drained exited
      rw [if_neg nothing] at few
      exact ⟨pipe, List.length_eq_zero_iff.mp (Nat.le_zero.mp few)⟩
    obtain ⟨onwards, completes⟩ := checkExit_ledger ledger empty
    refine endOfInput_kept onwards fun ended => ?_
    obtain ⟨exited, taken⟩ := (careful.runningEnd ended running).resolve_left nothing
    have completed := completes exited
    have resting : (checkExit component).state ≠ .running := by rw [completed]; decide
    obtain ⟨stdoutRx, pipe⟩ := onwards.resting resting
    exact ⟨taken, resting, onwards.sent stdoutRx pipe⟩

theorem proceed_kept (clock : Clock) (ledger : Ledger component call) (each : component.mode = .each)
    (careful : Careful engine component call context) : Kept (proceed engine component call context clock) := by
  unfold proceed
  cases state : component.state with
  | idle => exact startSubprocess_kept ledger state each careful
  | running => exact attend_kept ledger state careful
  | completed =>
      obtain ⟨stdoutRx, pipe⟩ := ledger.resting (by rw [state]; decide)
      have idle : Ledger { component with state := .idle } call :=
        ⟨ledger.started, ledger.forwarded, fun _ => ⟨stdoutRx, pipe⟩, fun running => by cases running⟩
      exact endOfInput_kept idle fun ended => ⟨careful.completedEnd ended state,
        (fun running => by cases running), idle.sent stdoutRx pipe⟩

theorem process_kept (clock : Clock) (ledger : Ledger component call)
    (each : (loadConfig engine component call.begin).2.1.mode = .each)
    (careful : (loadConfig engine component call.begin).1 = none →
      ((loadConfig engine component call.begin).2.2.poll FbpMessage.textOrUtf8).2 = false →
        Careful engine (loadConfig engine component call.begin).2.1
          ((loadConfig engine component call.begin).2.2.poll FbpMessage.textOrUtf8).1 context) :
    Ledger (process engine component call context clock).component (process engine component call context clock).call ∧
      ((process engine component call context clock).returned = .result .finished →
        ¬ (process engine component call context clock).call.Stopped FbpMessage.textOrUtf8 →
          Done (process engine component call context clock).component (process engine component call context clock).call) := by
  have loading := loadConfig_loaded engine component call.begin
  unfold process
  generalize loadConfig engine component call.begin = loaded at each careful loading ⊢
  obtain ⟨returned, configured, next⟩ := loaded
  have onwards : Ledger configured next :=
    ledger.congr loading.configures (congrArg Inlet.taken loading.inn) (by rw [loading.outs]; rfl)
  cases returned with
  | some returned => exact ⟨onwards, fun finished => absurd (congrArg some finished) loading.returned⟩
  | none =>
      have heard := Call.Heard.of_poll next
      dsimp only at careful ⊢
      generalize next.poll FbpMessage.textOrUtf8 = polled at careful heard ⊢
      obtain ⟨listened, stop⟩ := polled
      have still : Configures configured configured := ⟨rfl, rfl, rfl, rfl⟩
      have listening : Ledger configured listened :=
        onwards.congr still (by rw [Call.taken, Call.taken, heard.ins]) (by rw [heard.outs])
      cases stop with
      | true => exact ⟨listening.congr ⟨rfl, rfl, rfl, rfl⟩ rfl rfl, fun _ unheard => absurd (heard.stopped rfl) unheard⟩
      | false =>
          have kept := proceed_kept clock listening each (careful rfl rfl)
          exact ⟨kept.ledger, fun finished _ => kept.done finished⟩

end

variable {engine : Engine}

/-- The state that a call sets out from, with its configuration. -/
def loaded (visit : Visit (component engine)) : Option Returned × CmdComponent × Call CmdPort OutPort :=
  loadConfig engine visit.state (Call.begin visit.call)

def EachMode (visit : Visit (component engine)) : Prop := (loaded visit).2.1.mode = .each

/-- A call that is configured and not stopped is careful. -/
def CarefulVisit (visit : Visit (component engine)) : Prop :=
  (loaded visit).1 = none → ((loaded visit).2.2.poll FbpMessage.textOrUtf8).2 = false →
    Careful engine (loaded visit).2.1 ((loaded visit).2.2.poll FbpMessage.textOrUtf8).1 visit.context

instance decidableEachMode (visit : Visit (component engine)) : Decidable (EachMode visit) :=
  inferInstanceAs (Decidable ((loaded visit).2.1.mode = .each))

instance decidableCarefulVisit (visit : Visit (component engine)) : Decidable (CarefulVisit visit) :=
  inferInstanceAs (Decidable ((loaded visit).1 = none → ((loaded visit).2.2.poll FbpMessage.textOrUtf8).2 = false →
    Careful engine (loaded visit).2.1 ((loaded visit).2.2.poll FbpMessage.textOrUtf8).1 visit.context))

/-- A call that finishes without a stop leaves nothing to do. -/
def Completes (visit : Visit (component engine)) : Prop :=
  visit.turn.returned = .result .finished → ¬ visit.turn.call.Stopped FbpMessage.textOrUtf8 →
    Done visit.turn.component visit.turn.call

/-- One sub-process for each packet, all they write in order, and everything at the end. -/
structure Forwards (outpost : Outpost (component engine)) : Prop where
  started : Call.taken outpost.ports CmdPort.inn = (CmdComponent.started outpost.state).map Subprocess.input
  forwarded : (outpost.ports.outs OutPort.out).sent <+: outputs outpost.state
  completes : ∀ visit ∈ outpost.history, Completes visit

/-- In every run of careful calls, Cmd forwards all output of every sub-process. -/
theorem forwards_all (engine : Engine) (inCapacity : CmdPort → Nat) (outCapacity : OutPort → Nat) (now : Instant)
    (outpost : Outpost (component engine)) (trace : List Unit)
    (run : (outpostMachine (component engine)).Run anyMove (.start Cmd.new inCapacity outCapacity now) trace outpost)
    (each : ∀ visit ∈ outpost.history, EachMode visit) (careful : ∀ visit ∈ outpost.history, CarefulVisit visit) :
    Forwards outpost := by
  have upholds : @Upholds (component engine) Ledger
      (fun visit => EachMode visit ∧ CarefulVisit visit) Completes := by
    refine ⟨fun ledger idle => ?_, fun ledger worked => ledger.work worked, fun visit ledger checked => ?_⟩
    · exact ledger.congr ⟨rfl, rfl, rfl, rfl⟩ (idle.taken _) (idle.sent _)
    · exact process_kept visit.clock ledger checked.1 checked.2
  obtain ⟨ledger, completes⟩ := upholds.run run rfl
    ⟨rfl, rfl, fun _ => ⟨rfl, rfl⟩, fun running => by cases running⟩
    fun visit member => ⟨each visit member, careful visit member⟩
  exact ⟨ledger.started, ⟨_, ledger.forwarded⟩, completes⟩

/-- An engine that runs any command without arguments. -/
def shell : Engine := ⟨fun cmdLine => some [cmdLine], fun _ => some [.mode "each"], fun _ _ => true⟩

def cmdStart : Outpost (component shell) := .start Cmd.new (fun _ => 1) (fun _ => 1) 0

def dispatch : Affair (component shell) :=
  .process { NodeContext.new "cmd" .normal 0 0 with remainingBudget := 10 } (fun _ => []) []

/-- A sub-process is started for a packet and writes some lines. -/
def written (lines : List (List UInt8)) : List (Affair (component shell)) :=
  [.feed CmdPort.cmd (.text "cat"), .feed CmdPort.conf (.text "--mode=each"), .feed CmdPort.inn (.bytes [1]), dispatch] ++
    lines.flatMap fun line => [.work (.now (.write line)), .work (.now .read)]

/-- It exits, and IN is closed. -/
def exited (lines : List (List UInt8)) : List (Affair (component shell)) :=
  written lines ++ [.work (.now .exit), dispatch, .close CmdPort.inn, dispatch]

/-- Where it ends. -/
def ended (lines : List (List UInt8)) : Outpost (component shell) := (outpostMachine _).played cmdStart (exited lines)

theorem forwards_all_one : (ended [[65]]).history.length = 3 ∧ Forwards (ended [[65]]) := by
  have run := Machine.run_played (outpostMachine (component shell)) (Machine.permits_any cmdStart (exited [[65]]))
    (by decide +kernel)
  exact ⟨by decide +kernel, forwards_all shell _ _ _ _ _ run (by decide +kernel) (by decide +kernel)⟩

/-- The exit is noticed when one line of two has been read. -/
theorem lines_dropped :
    ¬ ∀ (engine : Engine) (inCapacity : CmdPort → Nat) (outCapacity : OutPort → Nat) (now : Instant)
      (outpost : Outpost (component engine)) (trace : List Unit),
      (outpostMachine (component engine)).Run anyMove (.start Cmd.new inCapacity outCapacity now) trace outpost →
      (∀ visit ∈ outpost.history, EachMode visit) → Forwards outpost := by
  intro forwards
  have run := Machine.run_played (outpostMachine (component shell)) (Machine.permits_any cmdStart (exited [[65], [66]]))
    (by decide +kernel)
  have finished : ∃ visit ∈ (ended [[65], [66]]).history, visit.turn.returned = .result .finished ∧
      visit.turn.call.heard.isEmpty = true ∧
        (visit.turn.call.outs OutPort.out).sent.map FbpMessage.asText ≠
          (outputs visit.turn.component).map FbpMessage.asText := by decide +kernel
  obtain ⟨visit, member, returned, quiet, short⟩ := finished
  have completes := (forwards shell _ _ _ _ _ run (by decide +kernel)).completes visit member
  refine short (congrArg (List.map FbpMessage.asText) (completes returned ?_).pushed)
  rintro ⟨signal, heard, _⟩
  rw [List.isEmpty_iff.mp quiet] at heard
  cases heard

end Cmd

end Flowd
