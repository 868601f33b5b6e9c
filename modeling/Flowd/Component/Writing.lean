import Flowd.Component.Reading
import Flowd.Runtime.Start

namespace Flowd

/-! FileWriter, which has each packet written by a thread of its own. -/

open Transition

namespace FileWriter

/-- What the thread does: it opens the file, and then writes one packet after the other. -/
inductive Stage where
  | starting
  | writing
  | ended
deriving DecidableEq, Repr

/-- The thread with the channel to it.  `written` are the packets that it has handed to the file,
`failed` is whether one of them met an error. -/
structure Worker where
  fileName : String
  stage : Stage
  queue : List (List UInt8)
  results : List Bool
  written : List (List UInt8)
  failed : Bool
deriving DecidableEq, Repr

inductive WriteMove where
  | create (created : Bool)
  | write (succeeded : Bool)
deriving DecidableEq, Repr

namespace Worker

variable (worker : Worker)

def start (fileName : String) : Worker := ⟨fileName, .starting, [], [], [], false⟩

def act : WriteMove → Worker
  | .create created =>
      if worker.stage = .starting then
        { worker with stage := if created then .writing else .ended, results := worker.results ++ [created] }
      else worker
  | .write succeeded =>
      match worker.stage, worker.queue with
      | .writing, packet :: rest =>
          { worker with
            queue := rest
            results := worker.results ++ [succeeded]
            written := worker.written ++ [packet]
            failed := worker.failed || !succeeded }
      | _, _ => worker

/-- The thread that has ended has dropped its end of the channel. -/
def trySend (packet : List UInt8) : TrySend × Worker :=
  if worker.stage = .ended then (.disconnected, worker)
  else if worker.queue.length < PROCESSEDGE_BUFSIZE then (.sent, { worker with queue := worker.queue ++ [packet] })
  else (.full, worker)

/-- All that the thread has been sent. -/
def packets : List (List UInt8) := worker.written ++ worker.queue

end Worker

/-- `past` are the threads that have ended, for the history only.  `slots` is how many packets are in IN
when the next call looks for them, and `meanwhile` what the thread does in it before each look at the
thread. -/
structure FileWriterComponent where
  filename : Option String
  writerTx : Option Worker
  pendingWrites : List (List UInt8)
  past : List Worker
  slots : Nat
  meanwhile : List (List WriteMove)

def new : FileWriterComponent := ⟨none, none, [], [], 0, []⟩

namespace FileWriterComponent

variable (component : FileWriterComponent)

def act (move : WriteMove) : FileWriterComponent :=
  { component with writerTx := component.writerTx.map (Worker.act · move) }

/-- What has happened by the next look at the thread. -/
def elapsed : FileWriterComponent :=
  (component.meanwhile.headD []).foldl act { component with meanwhile := component.meanwhile.tail }

/-- The threads, the last one last. -/
def workers : List Worker := component.past ++ component.writerTx.toList

end FileWriterComponent

inductive Move where
  | now (move : WriteMove)
  | meanwhile (slots : Nat) (moves : List (List WriteMove))

def work (component : FileWriterComponent) : Move → Option FileWriterComponent
  | .now move => some (component.act move)
  | .meanwhile slots moves => some { component with slots, meanwhile := moves }

/-- `ip.as_bytes().unwrap_or(&[])` -/
def payload (ip : FbpMessage) : List UInt8 := ip.asBytes.getD []

abbrev FileWriterTurn := Turn FileWriterComponent ConfInPort Empty Unit

section
variable (component : FileWriterComponent) (call : Call ConfInPort Empty)

/-- The name is read and the thread is started, or what the call returns without it. -/
def configure : Option Returned × FileWriterComponent × Call ConfInPort Empty :=
  if component.filename.isNone || component.writerTx.isNone then
    match call.pop .conf with
    | none => (some (.result .noWork), component, call)
    | some (fileNameMsg, call) =>
        match fileNameMsg.asText with
        | none => (some .panicked, component, call)
        | some fileName =>
            (none, { component with
              filename := some fileName
              writerTx := some (.start fileName)
              past := component.workers }, call.worked)
  else (none, component, call)

/-- `while let Ok(result) = result_rx.try_recv()` -/
def drainResults : FileWriterComponent × Call ConfInPort Empty :=
  match component.writerTx with
  | some worker =>
      ({ component with writerTx := some { worker with results := [] } },
        { call with workUnits := call.workUnits + worker.results.length })
  | none => (component, call)

/-- `read_chunk(slots)` -/
def readChunk (slots : Nat) : FileWriterComponent × Call ConfInPort Empty :=
  let inlet := call.ins .inn
  let chunk := inlet.ring.buffer.take slots
  ({ component with pendingWrites := component.pendingWrites ++ chunk.map payload },
    { call with ins := Function.update call.ins .inn ⟨inlet.ring.drop slots, inlet.taken ++ chunk⟩ })

/-- `while remaining_budget > 0 && !pending_writes.is_empty()` -/
def sendWrites : Nat → FileWriterComponent → Call ConfInPort Empty → FileWriterComponent × Call ConfInPort Empty × Nat
  | 0, component, call => (component, call, 0)
  | budget + 1, component, call =>
      match component.pendingWrites with
      | [] => (component, call, budget + 1)
      | packet :: rest =>
          let component := component.elapsed
          match component.writerTx with
          | none => (component, call, budget + 1)
          | some worker =>
              match worker.trySend packet with
              | (.sent, worker) =>
                  sendWrites budget { component with writerTx := some worker, pendingWrites := rest } call.worked
              | (.full, _) => (component, call, budget + 1)
              | (.disconnected, worker) =>
                  ({ component with writerTx := none, past := component.past ++ [worker] }, call, budget + 1)

variable (context : NodeContext) (clock : Clock)

def conclude : FileWriterTurn :=
  ⟨component, call, context, clock, [],
    if call.isAbandoned .inn && component.pendingWrites.isEmpty then .result .finished else call.didWork⟩

/-- What follows the look at the signals. -/
def proceed : FileWriterTurn :=
  let slots := component.slots
  let (component, call) := drainResults component.elapsed call
  let (component, call) := readChunk component call slots
  let (component, call, budget) := sendWrites context.remainingBudget component call
  conclude component call { context with remainingBudget := budget } clock

def process : FileWriterTurn :=
  let (returned, component, call) := configure component call.begin
  match returned with
  | some returned => ⟨component, call, context, clock, [], returned⟩
  | none =>
      let (call, stop) := call.poll FbpMessage.textOrUtf8
      if stop then ⟨component, call, context, clock, [], .result .finished⟩
      else proceed component call context clock

end

def component : IoComponent where
  In := ConfInPort
  Out := Empty
  State := FileWriterComponent
  Event := Unit
  new := FileWriter.new
  process := FileWriter.process
  Move := FileWriter.Move
  work := FileWriter.work

/-- Nothing is written before the file is open, and the channel is bounded. -/
structure Worker.Sound (worker : Worker) : Prop where
  unopened : worker.stage ≠ .writing → worker.written = []
  bounded : worker.queue.length ≤ PROCESSEDGE_BUFSIZE

/-- Every packet taken has been sent to a thread or waits, in order; each name taken has got a thread, and a
thread is replaced only when it could not create its file. -/
structure Ledger (component : FileWriterComponent) (call : Call ConfInPort Empty) : Prop where
  taken : (call.taken .inn).map payload = component.workers.flatMap Worker.packets ++ component.pendingWrites
  names : (call.taken .conf).filterMap FbpMessage.asText = component.workers.map Worker.fileName
  sound : ∀ worker ∈ component.workers, worker.Sound
  ended : ∀ worker ∈ component.past, worker.stage = .ended
  named : component.writerTx.isSome = true → component.filename.isSome = true

section
variable {component next last : FileWriterComponent} {call after : Call ConfInPort Empty}

/-- What the thread does to what it has been sent, and what it leaves alone. -/
structure Worker.Goes (worker next : Worker) : Prop where
  packets : next.packets = worker.packets
  fileName : next.fileName = worker.fileName
  sound : worker.Sound → next.Sound

theorem Worker.goes_act (worker : Worker) (move : WriteMove) : worker.Goes (worker.act move) := by
  cases move with
  | create created =>
      unfold Worker.act
      dsimp only
      split
      · next starting =>
          refine ⟨rfl, rfl, fun sound => ⟨fun _ => sound.unopened ?_, sound.bounded⟩⟩
          rw [starting]
          simp
      · exact ⟨rfl, rfl, id⟩
  | write succeeded =>
      unfold Worker.act
      dsimp only
      split
      · next packet rest writing queue =>
          refine ⟨by simp [Worker.packets, queue], rfl, fun sound => ⟨fun closed => absurd writing closed, ?_⟩⟩
          have bounded := sound.bounded
          rw [queue, List.length_cons] at bounded
          dsimp only
          omega
      · exact ⟨rfl, rfl, id⟩

/-- Only the thread that is at work makes a difference. -/
structure Aside (before after : FileWriterComponent) : Prop where
  filename : after.filename = before.filename
  pendingWrites : after.pendingWrites = before.pendingWrites
  past : after.past = before.past
  writerTx : (before.writerTx = none ∧ after.writerTx = none) ∨
    ∃ worker next, before.writerTx = some worker ∧ after.writerTx = some next ∧ worker.Goes next

theorem Aside.still (filename : next.filename = component.filename) (pendingWrites : next.pendingWrites = component.pendingWrites)
    (past : next.past = component.past) (writerTx : next.writerTx = component.writerTx) : Aside component next := by
  refine ⟨filename, pendingWrites, past, ?_⟩
  rw [writerTx]
  cases busy : component.writerTx with
  | none => exact .inl ⟨rfl, rfl⟩
  | some worker => exact .inr ⟨worker, worker, rfl, rfl, rfl, rfl, id⟩

theorem Aside.trans (first : Aside component next) (second : Aside next last) : Aside component last := by
  refine ⟨second.filename.trans first.filename, second.pendingWrites.trans first.pendingWrites,
    second.past.trans first.past, ?_⟩
  rcases first.writerTx with ⟨before, between⟩ | ⟨worker, moved, before, between, goes⟩
  · rcases second.writerTx with ⟨_, after⟩ | ⟨worker, _, busy, _⟩
    · exact .inl ⟨before, after⟩
    · rw [between] at busy
      cases busy
  · rcases second.writerTx with ⟨none, _⟩ | ⟨other, final, busy, after, later⟩
    · rw [between] at none
      cases none
    · rw [between] at busy
      cases busy
      exact .inr ⟨worker, final, before, after, later.packets.trans goes.packets, later.fileName.trans goes.fileName,
        fun sound => later.sound (goes.sound sound)⟩

theorem Aside.act (component : FileWriterComponent) (move : WriteMove) : Aside component (component.act move) := by
  refine ⟨rfl, rfl, rfl, ?_⟩
  unfold FileWriterComponent.act
  cases busy : component.writerTx with
  | none => exact .inl ⟨rfl, rfl⟩
  | some worker => exact .inr ⟨worker, worker.act move, rfl, rfl, worker.goes_act move⟩

theorem Aside.elapsed (component : FileWriterComponent) : Aside component component.elapsed := by
  have acts : ∀ (moves : List WriteMove) (component : FileWriterComponent),
      Aside component (moves.foldl FileWriterComponent.act component) := by
    intro moves
    induction moves with
    | nil => exact fun component => .still rfl rfl rfl rfl
    | cons move rest ih => exact fun component => (Aside.act component move).trans (ih _)
  have begun : Aside component { component with meanwhile := component.meanwhile.tail } := .still rfl rfl rfl rfl
  exact begun.trans (acts _ _)

theorem work_aside {move : Move} (worked : work component move = some next) : Aside component next := by
  cases move with
  | now move =>
      cases worked
      exact Aside.act component move
  | meanwhile slots moves =>
      cases worked
      exact .still rfl rfl rfl rfl

theorem sound_snoc {past : List Worker} {worker : Worker} (sound : ∀ other ∈ past, other.Sound) (last : worker.Sound) :
    ∀ other ∈ past ++ [worker], other.Sound := by
  intro other member
  rcases List.mem_append.mp member with earlier | here
  · exact sound other earlier
  · rw [List.mem_singleton.mp here]
    exact last

theorem workers_of_some {worker : Worker} (busy : component.writerTx = some worker) :
    component.workers = component.past ++ [worker] := by
  rw [FileWriterComponent.workers, busy, Option.toList_some]

theorem Ledger.aside (ledger : Ledger component call) (aside : Aside component next)
    (same : ∀ port, after.taken port = call.taken port) : Ledger next after := by
  have taken := ledger.taken
  have names := ledger.names
  rcases aside.writerTx with ⟨none, still⟩ | ⟨worker, moved, some, here, goes⟩
  · have workers : next.workers = component.workers := by
      rw [FileWriterComponent.workers, FileWriterComponent.workers, aside.past, none, still]
    refine ⟨?_, ?_, ?_, ?_, fun busy => ?_⟩
    · rw [workers, aside.pendingWrites, same]
      exact taken
    · rw [workers, same]
      exact names
    · rw [workers]
      exact ledger.sound
    · rw [aside.past]
      exact ledger.ended
    · rw [still] at busy
      cases busy
  · have before := workers_of_some some
    have workers : next.workers = component.past ++ [moved] := by rw [workers_of_some here, aside.past]
    have sound := ledger.sound
    rw [before] at taken names sound
    refine ⟨?_, ?_, ?_, ?_, fun _ => ?_⟩
    · rw [workers, aside.pendingWrites, same, taken]
      simp [goes.packets]
    · rw [workers, same, names]
      simp [goes.fileName]
    · rw [workers]
      exact sound_snoc (fun other earlier => sound other (List.mem_append_left _ earlier))
        (goes.sound (sound worker (by simp)))
    · rw [aside.past]
      exact ledger.ended
    · rw [aside.filename]
      exact ledger.named (by rw [some]; rfl)

/-- The first packet that waits is sent to the thread. -/
theorem Ledger.sent {worker : Worker} {packet : List UInt8} {rest : List (List UInt8)} (ledger : Ledger component call)
    (busy : component.writerTx = some worker) (waiting : component.pendingWrites = packet :: rest)
    (room : worker.queue.length < PROCESSEDGE_BUFSIZE) :
    Ledger { component with writerTx := some { worker with queue := worker.queue ++ [packet] }, pendingWrites := rest }
      call.worked := by
  have taken := ledger.taken
  have names := ledger.names
  have sound := ledger.sound
  rw [workers_of_some busy] at taken names sound
  have queued : ({ worker with queue := worker.queue ++ [packet] } : Worker).Sound := by
    have before := sound worker (by simp)
    refine ⟨before.unopened, ?_⟩
    rw [List.length_append, List.length_singleton]
    omega
  refine ⟨taken.trans ?_, names.trans ?_,
    sound_snoc (fun other earlier => sound other (List.mem_append_left _ earlier)) queued, ledger.ended,
    fun _ => ledger.named (by rw [busy]; rfl)⟩
  · rw [waiting]
    simp [FileWriterComponent.workers, Worker.packets]
  · simp [FileWriterComponent.workers]

/-- The thread turns out to have ended. -/
theorem Ledger.disconnected {worker : Worker} (ledger : Ledger component call)
    (busy : component.writerTx = some worker) (ended : worker.stage = .ended) :
    Ledger { component with writerTx := none, past := component.past ++ [worker] } call := by
  have workers : ({ component with writerTx := none, past := component.past ++ [worker] } : FileWriterComponent).workers =
      component.workers := by
    rw [workers_of_some busy]
    exact List.append_nil _
  refine ⟨?_, ?_, ?_, fun other member => ?_, fun busy => by cases busy⟩
  · rw [workers]
    exact ledger.taken
  · rw [workers]
    exact ledger.names
  · rw [workers]
    exact ledger.sound
  · rcases List.mem_append.mp member with earlier | last
    · exact ledger.ended other earlier
    · rw [List.mem_singleton.mp last]
      exact ended

/-- What reading the name changes. -/
structure Configured (component : FileWriterComponent) (call : Call ConfInPort Empty)
    (configured : Option Returned × FileWriterComponent × Call ConfInPort Empty) : Prop where
  ledger : Ledger configured.2.1 configured.2.2
  inn : configured.2.2.ins .inn = call.ins .inn
  slots : configured.2.1.slots = component.slots
  returned : configured.1 ≠ some (.result .finished)

theorem configure_configured (ledger : Ledger component call) : Configured component call (configure component call) := by
  unfold configure
  split
  · next unready =>
      rcases call.pop_cases .conf with ⟨_, popped⟩ | ⟨fileNameMsg, _, next, _, popped, took, _, _, _, _⟩
      · rw [popped]
        exact ⟨ledger, rfl, rfl, by simp⟩
      · rw [popped]
        have inn : next.ins .inn = call.ins .inn := took.others .inn (by decide)
        have taken : next.taken .inn = call.taken .inn := congrArg Inlet.taken inn
        have names := ledger.names
        dsimp only
        cases text : fileNameMsg.asText with
        | none =>
            refine ⟨⟨?_, ?_, ledger.sound, ledger.ended, ledger.named⟩, inn, rfl, by simp⟩
            · rw [taken]
              exact ledger.taken
            · rw [took.taken, List.filterMap_append, names]
              simp [text]
        | some fileName =>
            have idle : component.writerTx = none := by
              have named := ledger.named
              revert unready named
              cases component.writerTx <;> cases component.filename <;> simp
            have past : component.workers = component.past := by
              rw [FileWriterComponent.workers, idle, Option.toList_none, List.append_nil]
            have onwards : next.worked.taken .inn = call.taken .inn := taken
            have named : next.worked.taken .conf = call.taken .conf ++ [fileNameMsg] := took.taken
            have started : (Worker.start fileName).Sound := ⟨fun _ => rfl, Nat.zero_le _⟩
            refine ⟨⟨?_, ?_, sound_snoc ledger.sound started, fun worker member => ?_, fun _ => rfl⟩, inn, rfl, by simp⟩
            · rw [onwards, ledger.taken]
              simp [FileWriterComponent.workers, Worker.packets, Worker.start]
            · rw [named, List.filterMap_append, names]
              simp [FileWriterComponent.workers, Worker.start, text]
            · rw [past] at member
              exact ledger.ended worker member
  · exact ⟨ledger, rfl, rfl, by simp⟩

theorem drainResults_aside (component : FileWriterComponent) (call : Call ConfInPort Empty) :
    Aside component (drainResults component call).1 ∧ (drainResults component call).2.ins = call.ins := by
  unfold drainResults
  cases busy : component.writerTx with
  | none => exact ⟨.still rfl rfl rfl rfl, rfl⟩
  | some worker =>
      refine ⟨⟨rfl, rfl, rfl, .inr ⟨worker, { worker with results := [] }, busy, rfl, rfl, rfl, ?_⟩⟩, rfl⟩
      exact fun sound => ⟨sound.unopened, sound.bounded⟩

/-- What has been seen in IN is taken. -/
theorem Ledger.readChunk (ledger : Ledger component call) (slots : Nat) :
    Ledger (readChunk component call slots).1 (readChunk component call slots).2 := by
  have taken : (FileWriter.readChunk component call slots).2.taken .inn = call.taken .inn ++ (call.inbox .inn).take slots := by
    simp [FileWriter.readChunk, Call.taken, Call.inbox]
  have names : (FileWriter.readChunk component call slots).2.taken .conf = call.taken .conf := by
    unfold FileWriter.readChunk Call.taken
    dsimp only
    rw [Function.update_of_ne (Ne.symm ConfInPort.inn_ne_conf)]
  refine ⟨?_, ?_, ledger.sound, ledger.ended, ledger.named⟩
  · rw [taken, List.map_append, ledger.taken, List.append_assoc]
    rfl
  · rw [names]
    exact ledger.names

theorem Worker.trySend_cases (worker : Worker) (packet : List UInt8) :
    (worker.queue.length < PROCESSEDGE_BUFSIZE ∧
        worker.trySend packet = (.sent, { worker with queue := worker.queue ++ [packet] })) ∨
      worker.trySend packet = (.full, worker) ∨
      (worker.stage = .ended ∧ worker.trySend packet = (.disconnected, worker)) := by
  unfold Worker.trySend
  split
  · next ended => exact .inr (.inr ⟨ended, rfl⟩)
  · split
    · next room => exact .inl ⟨room, rfl⟩
    · exact .inr (.inl rfl)

/-- What is sent to the thread is no longer waiting. -/
theorem sendWrites_keeps (ledger : Ledger component call) (budget : Nat) :
    Ledger (sendWrites budget component call).1 (sendWrites budget component call).2.1 ∧
      (sendWrites budget component call).2.1.ins = call.ins := by
  induction budget generalizing component call with
  | zero => exact ⟨ledger, rfl⟩
  | succ budget ih =>
      unfold sendWrites
      split
      · exact ⟨ledger, rfl⟩
      · next packet rest pending =>
          have aside := Aside.elapsed component
          have onwards : Ledger component.elapsed call := ledger.aside aside fun _ => rfl
          have waiting := aside.pendingWrites.trans pending
          generalize component.elapsed = component at onwards waiting ⊢
          dsimp only
          split
          · exact ⟨onwards, rfl⟩
          · next worker busy =>
              rcases worker.trySend_cases packet with ⟨room, tried⟩ | tried | ⟨ended, tried⟩
              · rw [tried]
                obtain ⟨kept, ins⟩ := ih (onwards.sent busy waiting room)
                exact ⟨kept, ins⟩
              · rw [tried]
                exact ⟨onwards, rfl⟩
              · rw [tried]
                exact ⟨onwards.disconnected busy ended, rfl⟩

/-- What a call does: every packet stays accounted for, and it finishes for a stop or with nothing waiting. -/
structure Processed (component : FileWriterComponent) (call : Call ConfInPort Empty) (turn : FileWriterTurn) : Prop where
  ledger : Ledger turn.component turn.call
  done : turn.returned = .result .finished → ¬ turn.call.Stopped FbpMessage.textOrUtf8 →
    turn.call.isAbandoned .inn = true ∧ turn.component.pendingWrites = [] ∧
      turn.call.inbox .inn = (call.inbox .inn).drop component.slots

theorem proceed_processed (ledger : Ledger component call) (context : NodeContext) (clock : Clock) :
    Processed component call (proceed component call context clock) := by
  have elapsed : Ledger component.elapsed call := ledger.aside (.elapsed component) fun _ => rfl
  obtain ⟨aside, drained⟩ := drainResults_aside component.elapsed call
  have read := (elapsed.aside aside fun port => congrArg Inlet.taken (congrFun drained port)).readChunk component.slots
  have left : (readChunk (drainResults component.elapsed call).1 (drainResults component.elapsed call).2
      component.slots).2.inbox .inn = (call.inbox .inn).drop component.slots := by
    simp [readChunk, Call.inbox, drained]
  unfold proceed
  dsimp only
  generalize readChunk (drainResults component.elapsed call).1 (drainResults component.elapsed call).2 component.slots =
    reading at read left ⊢
  obtain ⟨kept, ins⟩ := sendWrites_keeps read context.remainingBudget
  generalize sendWrites context.remainingBudget reading.1 reading.2 = sent at kept ins ⊢
  refine ⟨kept, fun finished _ => ?_⟩
  unfold conclude at finished
  dsimp only at finished
  split at finished
  · next nothing =>
      rw [Bool.and_eq_true, List.isEmpty_iff] at nothing
      refine ⟨nothing.1, nothing.2, ?_⟩
      rw [← left]
      exact congrArg (fun ins : ConfInPort → Inlet FbpMessage => (ins .inn).ring.buffer) ins
  · exact absurd finished (Call.didWork_ne_finished _)

theorem process_processed (ledger : Ledger component call) (context : NodeContext) (clock : Clock) :
    Processed component call (process component call context clock) := by
  have configured := configure_configured (ledger.aside (.still rfl rfl rfl rfl) fun _ => rfl : Ledger component call.begin)
  unfold process
  generalize configure component call.begin = result at configured ⊢
  obtain ⟨returned, ready, begun⟩ := result
  cases returned with
  | some returned => exact ⟨configured.ledger, fun finished => absurd (congrArg some finished) configured.returned⟩
  | none =>
      have heard := Call.Heard.of_poll begun
      dsimp only
      generalize begun.poll FbpMessage.textOrUtf8 = polled at heard ⊢
      obtain ⟨listened, stop⟩ := polled
      have listening : Ledger ready listened :=
        configured.ledger.aside (.still rfl rfl rfl rfl) fun port => congrArg Inlet.taken (congrFun heard.ins port)
      cases stop with
      | true => exact ⟨listening, fun _ unheard => absurd (heard.stopped rfl) unheard⟩
      | false =>
          have proceeded := proceed_processed listening context clock
          refine ⟨proceeded.ledger, fun finished unheard => ?_⟩
          obtain ⟨abandoned, nothing, left⟩ := proceeded.done finished unheard
          have inbox : listened.inbox .inn = call.inbox .inn := by
            rw [heard.inbox]
            exact congrArg (fun inlet : Inlet FbpMessage => inlet.ring.buffer) configured.inn
          rw [inbox, show ready.slots = component.slots from configured.slots] at left
          exact ⟨abandoned, nothing, left⟩

end

/-! Runs. -/

/-- A call that finishes without a stop leaves nothing waiting, and in IN only what came after its look there. -/
def Completes (visit : Visit component) : Prop :=
  visit.turn.returned = .result .finished → ¬ visit.turn.call.Stopped FbpMessage.textOrUtf8 →
    visit.turn.call.isAbandoned ConfInPort.inn = true ∧ FileWriterComponent.pendingWrites visit.turn.component = [] ∧
      visit.turn.call.inbox ConfInPort.inn =
        (visit.call.inbox ConfInPort.inn).drop (FileWriterComponent.slots visit.state)

section
variable {permitted : Outpost component → Affair component → Prop}
variable {inCapacity : ConfInPort → Nat} {outCapacity : Empty → Nat} {now : Instant}
variable {outpost : Outpost component} {trace : List Unit}

theorem Ledger.begins (ports : Call ConfInPort Empty) (nothing : ports.taken = fun _ => []) : Ledger FileWriter.new ports := by
  refine ⟨?_, ?_, fun worker member => ?_, fun worker member => ?_, fun busy => ?_⟩
  · rw [nothing]
    rfl
  · rw [nothing]
    rfl
  · cases member
  · cases member
  · cases busy

theorem upholds : @Upholds component Ledger (fun _ => True) Completes := by
  refine ⟨fun ledger idle => ?_, fun ledger worked => ?_, fun visit ledger _ => ?_⟩
  · exact Ledger.aside ledger (.still rfl rfl rfl rfl) idle.taken
  · exact Ledger.aside ledger (work_aside worked) fun _ => rfl
  · have processed := process_processed ledger visit.context visit.clock
    exact ⟨processed.ledger, processed.done⟩

/-- In every run, each packet taken is written, on its way to the thread or waiting, in the order of IN; a
thread is replaced only if it has written nothing; and no call finishes without a stop as long as something
waits. -/
theorem writes_in_order (run : (outpostMachine component).Run permitted
    (.start FileWriter.new inCapacity outCapacity now) trace outpost) :
    Ledger outpost.state outpost.ports ∧ ∀ visit ∈ outpost.history, Completes visit :=
  upholds.run run rfl (.begins _ rfl) fun _ _ => trivial

end

def writerStart : Outpost component := .start FileWriter.new (fun _ => 2) (fun _ => 0) 0

/-- A call, with what the thread does in it. -/
def dispatch (slots : Nat) (moves : List (List WriteMove)) : List (Affair component) :=
  [.work (.meanwhile slots moves),
    .process { NodeContext.new "write" .normal 0 0 with remainingBudget := 10 } (fun _ => []) []]

/-- A file is written with two packets. -/
def twoPackets : List (Affair component) :=
  [.feed ConfInPort.conf (.text "copy"), .feed ConfInPort.inn (.text "A"), .feed ConfInPort.inn (.bytes [255])] ++
    dispatch 2 [[.create true]] ++ [.work (.now (.write true)), .work (.now (.write true)), .close ConfInPort.inn] ++
    dispatch 0 []

def written : Outpost component := (outpostMachine component).played writerStart twoPackets

theorem writes_in_order_twoPackets :
    written.history.length = 2 ∧ Ledger written.state written.ports ∧ ∀ visit ∈ written.history, Completes visit := by
  have run := Machine.run_played (outpostMachine component) (Machine.permits_any writerStart twoPackets) (by decide +kernel)
  exact ⟨by decide +kernel, writes_in_order run⟩

/-! A file that is read and written. -/

/-- The contents of the files that are not text. -/
def binaries (completed : List FileReader.Completed) : List (List UInt8) :=
  (completed.filterMap FileReader.Completed.contents).filter fun contents => (fromUtf8 contents).isNone

theorem payload_contentMsg (contents : List UInt8) :
    payload (FileReader.contentMsg contents) = if (fromUtf8 contents).isNone then contents else [] := by
  unfold FileReader.contentMsg payload
  cases fromUtf8 contents <;> rfl

theorem payload_packets (completed : List FileReader.Completed) :
    ((FileReader.packets completed).map payload).flatten = (binaries completed).flatten := by
  unfold FileReader.packets binaries
  induction completed.filterMap FileReader.Completed.contents with
  | nil => rfl
  | cons contents rest ih =>
      rw [List.map_cons, List.map_cons, List.flatten_cons, ih, payload_contentMsg, List.filter_cons]
      split
      · rw [List.flatten_cons]
      · rfl

/-- If a FileWriter gets what a FileReader sends, and its file can be created, then just the files that are
not text are written, one after the other; of the others nothing is. -/
theorem copies_binaries {permitsReading : Outpost FileReader.component → Affair FileReader.component → Prop}
    {permitsWriting : Outpost component → Affair component → Prop} {namesCapacity : FileReader.NamesPort → Nat}
    {filesCapacity : OutPort → Nat} {inCapacity : ConfInPort → Nat} {outCapacity : Empty → Nat} {readFrom writeFrom : Instant}
    {reader : Outpost FileReader.component} {writer : Outpost component} {readTrace writeTrace : List Unit}
    (reading : (outpostMachine FileReader.component).Run permitsReading
      (.start FileReader.new namesCapacity filesCapacity readFrom) readTrace reader)
    (writing : (outpostMachine component).Run permitsWriting
      (.start FileWriter.new inCapacity outCapacity writeFrom) writeTrace writer)
    (joined : (writer.ports.ins ConfInPort.inn).fed = (reader.ports.outs OutPort.out).sent)
    (orderly : ∀ visit ∈ reader.history, FileReader.Orderly visit)
    (created : FileWriterComponent.past writer.state = [])
    {worker : Worker} (busy : FileWriterComponent.writerTx writer.state = some worker) :
    worker.written.flatten <+: (binaries (FileReader.FileReaderComponent.completed reader.state)).flatten ∧
      (FileReader.FileReaderComponent.pendingFiles reader.state = [] → writer.ports.inbox ConfInPort.inn = [] →
        FileWriterComponent.pendingWrites writer.state = [] → worker.queue = [] →
          worker.written.flatten = (binaries (FileReader.FileReaderComponent.completed reader.state)).flatten) := by
  have delivered : (reader.ports.outs OutPort.out).sent ++ FileReader.FileReaderComponent.pendingFiles reader.state =
      FileReader.packets (FileReader.FileReaderComponent.completed reader.state) :=
    FileReader.delivered_run reading orderly
  have taken := (upholds.run writing rfl (.begins _ rfl) fun _ _ => trivial).1.taken
  rw [workers_of_some busy, created, List.nil_append, List.flatMap_singleton] at taken
  have all : (worker.written ++ (worker.queue ++ FileWriterComponent.pendingWrites writer.state ++
      (writer.ports.inbox ConfInPort.inn).map payload ++
      (FileReader.FileReaderComponent.pendingFiles reader.state).map payload)).flatten =
        (binaries (FileReader.FileReaderComponent.completed reader.state)).flatten := by
    rw [← payload_packets, ← delivered, ← joined, Inlet.fed, List.map_append, List.map_append]
    rw [show (writer.ports.ins ConfInPort.inn).taken.map payload = _ from taken]
    simp [Worker.packets, Call.inbox]
  constructor
  · rw [← all, List.flatten_append]
    exact List.prefix_append _ _
  · intro sent left written idle
    rw [← all, sent, left, written, idle]
    simp

def read : Outpost FileReader.component := (outpostMachine FileReader.component).played FileReader.readerStart
  (FileReader.twoFiles ++ [.drain OutPort.out 1] ++ FileReader.dispatch [] [])

theorem copies_binaries_twoFiles :
    (binaries (FileReader.FileReaderComponent.completed read.state)).flatten = [255] ∧
      ∃ worker, FileWriterComponent.writerTx written.state = some worker ∧
        worker.written.flatten <+: (binaries (FileReader.FileReaderComponent.completed read.state)).flatten := by
  have reading := Machine.run_played (outpostMachine FileReader.component) (Machine.permits_any FileReader.readerStart
    (FileReader.twoFiles ++ [.drain OutPort.out 1] ++ FileReader.dispatch [] [])) (by decide +kernel)
  have writing := Machine.run_played (outpostMachine component) (Machine.permits_any writerStart twoPackets)
    (by decide +kernel)
  have busy : FileWriterComponent.writerTx written.state =
      some ⟨"copy", .writing, [], [], [[], [255]], false⟩ := by decide +kernel
  exact ⟨by decide +kernel, _, busy, (copies_binaries reading writing rfl (by decide +kernel) rfl busy).1⟩

end FileWriter

end Flowd
