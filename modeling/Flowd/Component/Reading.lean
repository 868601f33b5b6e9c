import Flowd.Component.Delivery
import Flowd.Component.Outpost

namespace Flowd

/-! FileReader, which has each file read by a thread of its own. -/

open Transition

namespace FileReader

inductive NamesPort where
  | names
deriving DecidableEq, Repr

/-- The thread that reads a file, and what it has sent; the inner none is an error.  `alive` is
whether it can still send. -/
structure PendingRead where
  filePath : String
  result : Option (Option (List UInt8))
  alive : Bool
deriving DecidableEq, Repr

/-- A name that is done with, the path that was read for it, and the contents if there were any. -/
structure Completed where
  filename : FbpMessage
  filePath : String
  contents : Option (List UInt8)

/-- The thread sends what `std::fs::read` returned, or it dies before. -/
inductive ReadMove where
  | send (result : Option (List UInt8))
  | die
deriving DecidableEq, Repr

/-- `completed` is for the history only.  `meanwhile` is what happens during the next call, before
the look at what the thread has sent. -/
structure FileReaderComponent where
  filenames : List FbpMessage
  pendingFiles : List FbpMessage
  pendingRead : Option PendingRead
  finished : Bool
  completed : List Completed
  meanwhile : List ReadMove

def new : FileReaderComponent := ⟨[], [], none, false, [], []⟩

def PendingRead.act (reading : PendingRead) (move : ReadMove) : PendingRead :=
  if reading.alive then
    match move with
    | .send result => { reading with result := some result, alive := false }
    | .die => { reading with alive := false }
  else reading

namespace FileReaderComponent

variable (component : FileReaderComponent)

def act (move : ReadMove) : FileReaderComponent :=
  { component with pendingRead := component.pendingRead.map (PendingRead.act · move) }

/-- What has happened by the look at what the thread has sent. -/
def elapsed : FileReaderComponent := component.meanwhile.foldl act { component with meanwhile := [] }

/-- The contents that the thread has sent. -/
def arrived : Option (List UInt8) := (component.pendingRead.bind PendingRead.result).join

end FileReaderComponent

inductive Move where
  | now (move : ReadMove)
  | meanwhile (moves : List ReadMove)

def work (component : FileReaderComponent) : Move → Option FileReaderComponent
  | .now move => some (component.act move)
  | .meanwhile moves => some { component with meanwhile := moves }

/-- What is made of the contents of a file. -/
def contentMsg (contents : List UInt8) : FbpMessage :=
  match fromUtf8 contents with
  | some text => .text text
  | none => .bytes contents

/-- The queue of contents in front of OUT. -/
def files : Buffering NamesPort OutPort FbpMessage where
  inn := .names
  reads := FbpMessage.messageAsUtf8
  transform := some
  route packet := (.out, packet)
  leavesWhenFull := true

abbrev FileReaderTurn := Turn FileReaderComponent NamesPort OutPort Unit

section
variable (component : FileReaderComponent) (call : Call NamesPort OutPort)

/-- `while self.filenames.is_empty()` -/
def takeName : FileReaderComponent × Call NamesPort OutPort :=
  match component.filenames with
  | [] =>
      match call.pop .names with
      | some (filename, call) => ({ component with filenames := [filename] }, call)
      | none => (component, call)
  | _ => (component, call)

/-- The read of the first name is started. -/
def startRead : FileReaderComponent :=
  match component.pendingRead, component.filenames with
  | none, filename :: _ =>
      { component with pendingRead := some ⟨filename.messageAsUtf8.getD "", none, true⟩ }
  | _, _ => component

/-- The first name is done with. -/
def complete (filePath : String) (contents : Option (List UInt8)) (pendingFiles : List FbpMessage) :
    FileReaderComponent :=
  { component with
    pendingFiles
    pendingRead := none
    filenames := component.filenames.tail
    completed := component.completed ++ component.filenames.head?.toList.map (⟨·, filePath, contents⟩) }

/-- The look at what the thread has sent. -/
def completeRead : Nat → FileReaderComponent × Call NamesPort OutPort × Nat
  | 0 => (component, call, 0)
  | budget + 1 =>
      match component.pendingRead with
      | none => (component, call, budget + 1)
      | some reading =>
          match reading.result with
          | some (some contents) =>
              match call.push (.out, contentMsg contents) with
              | (call, true) =>
                  (complete component reading.filePath (some contents) component.pendingFiles, call.worked, budget)
              | (call, false) =>
                  (complete component reading.filePath (some contents) (component.pendingFiles ++ [contentMsg contents]),
                    call.worked, budget)
          | some none => (complete component reading.filePath none component.pendingFiles, call.worked, budget)
          | none =>
              (if reading.alive then component else { component with pendingRead := none }, call, budget + 1)

variable (context : NodeContext) (clock : Clock)

def conclude : FileReaderTurn :=
  if 0 < call.workUnits then ⟨component, call, context, clock, [], .result (.didWork call.workUnits)⟩
  else if component.filenames.isEmpty && call.isAbandoned .names && component.pendingFiles.isEmpty &&
      component.pendingRead.isNone then
    ⟨{ component with finished := true }, call, context, clock, [], .result .finished⟩
  else
    let clock := clock.read
    ⟨component, call, { context with wakeAt := some (clock.now + defaultIoPollInterval) }, clock, [], .result .noWork⟩

/-- What follows the look at the signals. -/
def proceed : FileReaderTurn :=
  let flushed := files.flush context.remainingBudget component.pendingFiles call
  let component := startRead { component with pendingFiles := flushed.pending }
  let (component, call, budget) := completeRead component.elapsed flushed.call flushed.remainingBudget
  conclude component call { context with remainingBudget := budget } clock

def process : FileReaderTurn :=
  let call := call.begin
  if component.finished then ⟨component, call, context, clock, [], .result .finished⟩
  else
    let (component, call) := takeName component call
    let (call, stop) := call.poll FbpMessage.messageAsUtf8
    if stop then ⟨component, call, context, clock, [], .result .finished⟩
    else proceed component call context clock

end

def component : IoComponent where
  In := NamesPort
  Out := OutPort
  State := FileReaderComponent
  Event := Unit
  new := FileReader.new
  process := FileReader.process
  Move := FileReader.Move
  work := FileReader.work

/-- The packets that the files become. -/
def packets (completed : List Completed) : List FbpMessage :=
  (completed.filterMap Completed.contents).map contentMsg

/-- What has been sent and what waits to be. -/
def delivered (component : FileReaderComponent) (call : Call NamesPort OutPort) : List FbpMessage :=
  (call.outs .out).sent ++ component.pendingFiles

/-- The names that have been taken are done with, but for one that is being read; the path is the one
that the name gives. -/
structure Ledger (component : FileReaderComponent) (call : Call NamesPort OutPort) : Prop where
  taken : call.taken .names = component.completed.map Completed.filename ++ component.filenames
  single : component.filenames.length ≤ 1
  reading : ∀ reading ∈ component.pendingRead, ∃ filename, component.filenames = [filename] ∧
    reading.filePath = filename.messageAsUtf8.getD ""
  paths : ∀ completed ∈ component.completed, completed.filePath = completed.filename.messageAsUtf8.getD ""

/-- Nothing is left to be done. -/
structure Done (component : FileReaderComponent) : Prop where
  filenames : component.filenames = []
  pendingFiles : component.pendingFiles = []
  pendingRead : component.pendingRead = none

/-- Only the thread makes a difference. -/
structure Aside (before after : FileReaderComponent) : Prop where
  filenames : after.filenames = before.filenames
  pendingFiles : after.pendingFiles = before.pendingFiles
  finished : after.finished = before.finished
  completed : after.completed = before.completed
  reading : ∀ reading ∈ after.pendingRead, ∃ earlier ∈ before.pendingRead, reading.filePath = earlier.filePath

section
variable {component next last : FileReaderComponent} {call after : Call NamesPort OutPort}

theorem Aside.refl (component : FileReaderComponent) : Aside component component :=
  ⟨rfl, rfl, rfl, rfl, fun reading member => ⟨reading, member, rfl⟩⟩

theorem Aside.trans (first : Aside component next) (second : Aside next last) : Aside component last := by
  refine ⟨second.filenames.trans first.filenames, second.pendingFiles.trans first.pendingFiles,
    second.finished.trans first.finished, second.completed.trans first.completed, fun reading member => ?_⟩
  obtain ⟨between, here, path⟩ := second.reading reading member
  obtain ⟨earlier, there, same⟩ := first.reading between here
  exact ⟨earlier, there, path.trans same⟩

theorem Aside.act (component : FileReaderComponent) (move : ReadMove) : Aside component (component.act move) := by
  refine ⟨rfl, rfl, rfl, rfl, fun reading member => ?_⟩
  obtain ⟨earlier, here, same⟩ := Option.map_eq_some_iff.mp (Option.mem_def.mp member)
  refine ⟨earlier, here, ?_⟩
  rw [← same]
  unfold PendingRead.act
  cases earlier.alive with
  | false => rfl
  | true => cases move <;> rfl

theorem Aside.elapsed (component : FileReaderComponent) : Aside component component.elapsed := by
  have acts : ∀ (moves : List ReadMove) (component : FileReaderComponent),
      Aside component (moves.foldl FileReaderComponent.act component) := by
    intro moves
    induction moves with
    | nil => exact Aside.refl
    | cons move rest ih => exact fun component => (Aside.act component move).trans (ih _)
  have begun : Aside component { component with meanwhile := [] } :=
    ⟨rfl, rfl, rfl, rfl, fun reading member => ⟨reading, member, rfl⟩⟩
  exact begun.trans (acts _ _)

theorem work_aside {move : Move} (worked : work component move = some next) : Aside component next := by
  cases move with
  | now move =>
      cases worked
      exact Aside.act component move
  | meanwhile moves =>
      cases worked
      exact ⟨rfl, rfl, rfl, rfl, fun reading member => ⟨reading, member, rfl⟩⟩

/-- The queue plays no part, and of the thread only the path. -/
theorem Ledger.congr (ledger : Ledger component call) (taken : after.taken .names = call.taken .names)
    (filenames : next.filenames = component.filenames) (completed : next.completed = component.completed)
    (reading : ∀ reading ∈ next.pendingRead, ∃ earlier ∈ component.pendingRead, reading.filePath = earlier.filePath) :
    Ledger next after := by
  refine ⟨?_, ?_, fun thread member => ?_, ?_⟩
  · rw [taken, filenames, completed]
    exact ledger.taken
  · rw [filenames]
    exact ledger.single
  · obtain ⟨earlier, here, path⟩ := reading thread member
    rw [filenames, path]
    exact ledger.reading earlier here
  · rw [completed]
    exact ledger.paths

theorem Ledger.aside (ledger : Ledger component call) (aside : Aside component next)
    (taken : after.taken .names = call.taken .names) : Ledger next after :=
  ledger.congr taken aside.filenames aside.completed aside.reading

/-- What taking a name changes. -/
structure Named (component : FileReaderComponent) (call : Call NamesPort OutPort)
    (named : FileReaderComponent × Call NamesPort OutPort) : Prop where
  ledger : Ledger named.1 named.2
  completed : named.1.completed = component.completed
  pendingFiles : named.1.pendingFiles = component.pendingFiles
  finished : named.1.finished = component.finished
  outs : named.2.outs = call.outs

theorem takeName_named (ledger : Ledger component call) : Named component call (takeName component call) := by
  have still : Named component call (component, call) := ⟨ledger, rfl, rfl, rfl, rfl⟩
  unfold takeName
  cases filenames : component.filenames with
  | cons first rest => exact still
  | nil =>
      rcases call.pop_cases .names with ⟨_, popped⟩ | ⟨filename, _, next, _, popped, took, _, outs, _, _⟩
      · rw [popped]
        exact still
      · rw [popped]
        have taken := ledger.taken
        rw [filenames, List.append_nil] at taken
        refine ⟨⟨?_, Nat.le_refl _, fun reading member => ?_, ledger.paths⟩, rfl, rfl, rfl, outs⟩
        · rw [took.taken, taken]
        · obtain ⟨_, named, _⟩ := ledger.reading reading member
          rw [filenames] at named
          cases named

/-- What starting a read changes. -/
structure Started (component next : FileReaderComponent) (call : Call NamesPort OutPort) : Prop where
  ledger : Ledger next call
  completed : next.completed = component.completed
  pendingFiles : next.pendingFiles = component.pendingFiles
  finished : next.finished = component.finished

theorem startRead_started (ledger : Ledger component call) : Started component (startRead component) call := by
  unfold startRead
  split
  · next filename rest pending filenames =>
      have single := ledger.single
      rw [filenames, List.length_cons] at single
      have last : rest = [] := List.eq_nil_of_length_eq_zero (by omega)
      refine ⟨⟨ledger.taken, ledger.single, fun reading member => ?_, ledger.paths⟩, rfl, rfl, rfl⟩
      cases member
      exact ⟨filename, by rw [filenames, last], rfl⟩
  · exact ⟨ledger, rfl, rfl, rfl⟩

theorem Ledger.complete {contents : Option (List UInt8)} {pendingFiles : List FbpMessage} {reading : PendingRead}
    (ledger : Ledger component call) (pending : component.pendingRead = some reading)
    (taken : after.taken .names = call.taken .names) :
    Ledger (complete component reading.filePath contents pendingFiles) after ∧
      ∃ filename, (FileReader.complete component reading.filePath contents pendingFiles).completed =
        component.completed ++ [⟨filename, reading.filePath, contents⟩] := by
  obtain ⟨filename, filenames, path⟩ := ledger.reading reading pending
  have completed : (FileReader.complete component reading.filePath contents pendingFiles).completed =
      component.completed ++ [⟨filename, reading.filePath, contents⟩] := by
    simp [FileReader.complete, filenames]
  refine ⟨⟨?_, ?_, fun reading member => (by cases member), ?_⟩, filename, completed⟩
  · rw [taken, completed, ledger.taken, filenames]
    simp [FileReader.complete, filenames]
  · simp [FileReader.complete, filenames]
  · intro done member
    rw [completed] at member
    rcases List.mem_append.mp member with earlier | last
    · exact ledger.paths done earlier
    · rw [List.mem_singleton.mp last]
      exact path

/-- What a part of a call delivers: the packets of the names that it is done with, behind all others if
it is orderly. -/
structure Delivers (component : FileReaderComponent) (call : Call NamesPort OutPort) (orderly : Prop)
    (next : FileReaderComponent) (after : Call NamesPort OutPort) : Prop where
  ledger : Ledger next after
  finished : next.finished = component.finished
  perm : (delivered component call).Perm (packets component.completed) →
    (delivered next after).Perm (packets next.completed)
  ordered : orderly → delivered component call = packets component.completed →
    delivered next after = packets next.completed

/-- A part that neither delivers nor completes anything may come before. -/
theorem Delivers.from_same {orderly : Prop} {begun : Call NamesPort OutPort}
    (delivers : Delivers next begun orderly last after) (finished : next.finished = component.finished)
    (completed : next.completed = component.completed) (same : delivered next begun = delivered component call) :
    Delivers component call orderly last after := by
  refine ⟨delivers.ledger, delivers.finished.trans finished, fun perm => ?_, fun calm equal => ?_⟩
  · apply delivers.perm
    rw [same, completed]
    exact perm
  · apply delivers.ordered calm
    rw [same, completed]
    exact equal

theorem Delivers.aside {orderly : Prop} (ledger : Ledger component call) (aside : Aside component next) :
    Delivers component call orderly next call := by
  have same : delivered next call = delivered component call := by rw [delivered, delivered, aside.pendingFiles]
  refine ⟨ledger.aside aside rfl, aside.finished, fun perm => ?_, fun _ equal => ?_⟩
  · rw [same, aside.completed]
    exact perm
  · rw [same, aside.completed]
    exact equal

/-- A name that is done with delivers its contents. -/
theorem Delivers.complete {orderly : Prop} {contents : Option (List UInt8)} {pendingFiles : List FbpMessage}
    {reading : PendingRead} (ledger : Ledger component call) (pending : component.pendingRead = some reading)
    (taken : after.taken .names = call.taken .names)
    (perm : ((after.outs .out).sent ++ pendingFiles).Perm
      (delivered component call ++ contents.toList.map contentMsg))
    (ordered : orderly → (after.outs .out).sent ++ pendingFiles =
      delivered component call ++ contents.toList.map contentMsg) :
    Delivers component call orderly (complete component reading.filePath contents pendingFiles) after := by
  obtain ⟨onwards, filename, completed⟩ :
      Ledger (FileReader.complete component reading.filePath contents pendingFiles) after ∧ _ :=
    ledger.complete pending taken
  have more : packets (FileReader.complete component reading.filePath contents pendingFiles).completed =
      packets component.completed ++ contents.toList.map contentMsg := by
    rw [completed]
    cases contents <;> simp [packets]
  refine ⟨onwards, rfl, fun before => ?_, fun calm equal => ?_⟩
  · rw [more]
    exact perm.trans (before.append_right _)
  · rw [more, ← equal]
    exact ordered calm

/-- New contents get past those that wait only if OUT takes them. -/
theorem completeRead_delivers (ledger : Ledger component call) (budget : Nat) :
    Delivers component call (0 < budget → component.arrived.isSome = true → component.pendingFiles.isEmpty = false →
        (call.outs .out).admits = false)
      (completeRead component call budget).1 (completeRead component call budget).2.1 := by
  cases budget with
  | zero => exact .aside ledger (.refl _)
  | succ budget =>
      unfold completeRead
      cases pending : component.pendingRead with
      | none => exact .aside ledger (.refl _)
      | some reading =>
          dsimp only
          cases sent : reading.result with
          | none =>
              refine .aside ledger ?_
              dsimp only
              split
              · exact .refl _
              · exact ⟨rfl, rfl, rfl, rfl, fun reading member => by cases member⟩
          | some result =>
              cases result with
              | none =>
                  refine .complete ledger pending rfl ?_ fun _ => ?_
                  · simp [delivered, Call.worked]
                  · simp [delivered, Call.worked]
              | some contents =>
                  dsimp only
                  have arrived : component.arrived = some contents := by
                    rw [FileReaderComponent.arrived, pending, Option.bind_some, sent]
                    rfl
                  have admitted : (call.push (.out, contentMsg contents)).2 = (call.outs .out).admits :=
                    Outlet.push_admits _ _
                  rcases call.push_cases (.out, contentMsg contents) with ⟨outs, pushed, sent, _⟩ | ⟨outs, pushed, sent, _⟩
                  · have onPort := sent .out
                    rw [addressed_singleton_self] at onPort
                    rw [pushed] at admitted ⊢
                    refine .complete ledger pending rfl ?_ fun orderly => ?_
                    · have swapped : (component.pendingFiles ++ [contentMsg contents]).Perm
                          ([contentMsg contents] ++ component.pendingFiles) := List.perm_append_comm
                      have moved := swapped.append_left (call.outs .out).sent
                      simpa [delivered, Call.worked, onPort] using moved.symm
                    · cases waiting : component.pendingFiles with
                      | nil => simp [delivered, Call.worked, onPort, waiting]
                      | cons first rest =>
                          have blocked := orderly (Nat.succ_pos budget) (by rw [arrived]; rfl) (by rw [waiting]; rfl)
                          rw [← admitted] at blocked
                          cases blocked
                  · rw [pushed]
                    refine .complete ledger pending rfl ?_ fun _ => ?_
                    · simp [delivered, Call.worked, sent]
                    · simp [delivered, Call.worked, sent]

/-- OUT does not take the contents that have arrived while others wait for it. -/
def Waits (component : FileReaderComponent) (flushed : Received NamesPort OutPort FbpMessage) : Prop :=
  0 < flushed.remainingBudget →
    (startRead { component with pendingFiles := flushed.pending }).elapsed.arrived.isSome = true →
      flushed.pending.isEmpty = false → (flushed.call.outs .out).admits = false

/-- The queue is flushed, a read is started, and what the thread has sent is looked at. -/
theorem proceed_delivers (ledger : Ledger component call) (context : NodeContext) (clock : Clock) :
    ∃ last after budget, proceed component call context clock = conclude last after { context with remainingBudget := budget } clock ∧
      Delivers component call (Waits component (files.flush context.remainingBudget component.pendingFiles call))
        last after := by
  have order := files.flush_inOrder context.remainingBudget component.pendingFiles call .out
  have still := files.flushed context.remainingBudget component.pendingFiles call
  unfold proceed Waits
  generalize files.flush context.remainingBudget component.pendingFiles call = flushed at order still ⊢
  rw [Buffering.addressed_held fun _ => rfl, Buffering.addressed_held fun _ => rfl, addressed_nil,
    List.append_nil] at order
  have requeued : Ledger { component with pendingFiles := flushed.pending } flushed.call :=
    ledger.congr (congrArg Inlet.taken (congrFun still.ins _)) rfl rfl fun reading member => ⟨reading, member, rfl⟩
  have started := startRead_started requeued
  have elapsed := Aside.elapsed (startRead { component with pendingFiles := flushed.pending })
  have looked := completeRead_delivers (started.ledger.aside elapsed rfl) flushed.remainingBudget
  have waiting := elapsed.pendingFiles.trans started.pendingFiles
  rw [waiting] at looked
  refine ⟨_, _, _, rfl, looked.from_same (elapsed.finished.trans started.finished)
    (elapsed.completed.trans started.completed) ?_⟩
  rw [delivered, waiting]
  exact order

/-- The queue, as it is flushed before the look at the thread, gives way to nothing. -/
def InTurn (component : FileReaderComponent) (call : Call NamesPort OutPort) (context : NodeContext) : Prop :=
  let named := takeName component call.begin
  Waits named.1 (files.flush context.remainingBudget named.1.pendingFiles (named.2.poll FbpMessage.messageAsUtf8).1)

/-- What a call does: it delivers what it completes, and finishes for a stop or with nothing left. -/
structure Processed (component : FileReaderComponent) (call : Call NamesPort OutPort) (context : NodeContext)
    (turn : FileReaderTurn) : Prop where
  ledger : Ledger turn.component turn.call
  perm : (delivered component call).Perm (packets component.completed) →
    (delivered turn.component turn.call).Perm (packets turn.component.completed)
  ordered : InTurn component call context → delivered component call = packets component.completed →
    delivered turn.component turn.call = packets turn.component.completed
  finished : component.finished = false → turn.component.finished = true → turn.returned = .result .finished
  done : component.finished = false → turn.returned = .result .finished →
    ¬ turn.call.Stopped FbpMessage.messageAsUtf8 → Done turn.component ∧ turn.call.isAbandoned .names = true

/-- The end of a call keeps what has been delivered, and looks whether something is left. -/
theorem Delivers.processed {context : NodeContext}
    (delivers : Delivers component call (InTurn component call context) last after)
    (unfinished : component.finished = false) (spent : NodeContext) (clock : Clock) :
    Processed component call context (conclude last after spent clock) := by
  have going : last.finished = false := delivers.finished.trans unfinished
  unfold conclude
  split
  · exact ⟨delivers.ledger, delivers.perm, delivers.ordered, fun _ ended => (by cases going.symm.trans ended),
      fun _ returned => (by cases returned)⟩
  · split
    · next nothing =>
        simp only [Bool.and_eq_true, List.isEmpty_iff, Option.isNone_iff_eq_none] at nothing
        obtain ⟨⟨⟨filenames, abandoned⟩, pendingFiles⟩, pendingRead⟩ := nothing
        exact ⟨delivers.ledger.congr rfl rfl rfl fun reading member => ⟨reading, member, rfl⟩, delivers.perm,
          delivers.ordered, fun _ _ => rfl, fun _ _ _ => ⟨⟨filenames, pendingFiles, pendingRead⟩, abandoned⟩⟩
    · exact ⟨delivers.ledger, delivers.perm, delivers.ordered, fun _ ended => (by cases going.symm.trans ended),
        fun _ returned => (by cases returned)⟩

theorem process_processed (ledger : Ledger component call) (context : NodeContext) (clock : Clock) :
    Processed component call context (process component call context clock) := by
  have begun : Ledger component call.begin := ledger.aside (.refl _) rfl
  unfold process
  cases finished : component.finished with
  | true =>
      exact ⟨begun, id, fun _ => id, fun going => (by cases finished.symm.trans going),
        fun going => (by cases finished.symm.trans going)⟩
  | false =>
      have named := takeName_named begun
      have queue : InTurn component call context = Waits (takeName component call.begin).1
        (files.flush context.remainingBudget (takeName component call.begin).1.pendingFiles
          ((takeName component call.begin).2.poll FbpMessage.messageAsUtf8).1) := rfl
      simp only [Bool.false_eq_true, if_false]
      generalize takeName component call.begin = taken at named queue ⊢
      obtain ⟨holder, taking⟩ := taken
      obtain ⟨signalsIn, signalsOut, new, polled, stops⟩ := taking.poll_cases FbpMessage.messageAsUtf8
      dsimp only at named queue ⊢
      generalize taking.poll FbpMessage.messageAsUtf8 = poll at queue polled stops ⊢
      obtain ⟨listened, stop⟩ := poll
      have same : listened = { taking with signalsIn, signalsOut, heard := taking.heard ++ new } := polled
      have listening : Ledger holder listened := named.ledger.aside (.refl _) (by rw [same]; rfl)
      have kept : delivered holder listened = delivered component call := by
        rw [delivered, named.pendingFiles, same]
        exact congrArg (fun outs : Outlets OutPort FbpMessage => (outs .out).sent ++ component.pendingFiles) named.outs
      cases stop with
      | true =>
          have still : Delivers component call True holder listened :=
            (Delivers.aside listening (.refl _)).from_same named.finished named.completed kept
          exact ⟨listening, still.perm, fun _ => still.ordered trivial, fun _ _ => rfl,
            fun _ _ unheard => absurd (stops rfl) unheard⟩
      | false =>
          obtain ⟨last, after, budget, concludes, delivers⟩ := proceed_delivers listening context clock
          have delivers := delivers.from_same named.finished named.completed kept
          rw [← queue] at delivers
          simp only [Bool.false_eq_true, if_false]
          rw [concludes]
          exact delivers.processed finished _ clock

end

/-! Runs. -/

/-- No contents get past those that the call leaves in the queue. -/
def Orderly (visit : Visit component) : Prop := InTurn visit.state visit.call visit.context

instance decidableOrderly (visit : Visit component) : Decidable (Orderly visit) := by
  unfold Orderly InTurn Waits
  infer_instance

/-- A call that finishes without a stop leaves nothing to do. -/
def Completes (visit : Visit component) : Prop :=
  visit.turn.returned = .result .finished → ¬ visit.turn.call.Stopped FbpMessage.messageAsUtf8 →
    Done visit.turn.component ∧ visit.turn.call.isAbandoned NamesPort.names = true

/-- A component that is called has not finished. -/
structure Going (outpost : Outpost component) : Prop where
  ledger : Ledger outpost.state outpost.ports
  now : outpost.isOver = false → FileReaderComponent.finished outpost.state = false
  before : ∀ visit ∈ outpost.history, FileReaderComponent.finished visit.state = false

variable {permitted : Outpost component → Affair component → Prop}
variable {inCapacity : NamesPort → Nat} {outCapacity : OutPort → Nat} {now : Instant}
variable {outpost : Outpost component} {trace : List Unit}

theorem Ledger.begins (ports : Call NamesPort OutPort) (nothing : ports.taken .names = []) : Ledger FileReader.new ports :=
  ⟨nothing, Nat.zero_le _, fun reading member => (by cases member), fun completed member => (by cases member)⟩

theorem Going.run (run : (outpostMachine component).Run permitted
    (.start FileReader.new inCapacity outCapacity now) trace outpost) : Going outpost := by
  refine Machine.Run.invariant Going run
    ⟨.begins _ rfl, fun _ => rfl, fun visit member => (by cases member)⟩ ?_
  intro outpost affair next events _ going step
  rcases Outpost.step_cases step with ⟨between, _⟩ | ⟨context, schedule, later, running, rfl, _⟩
  · have aside : Aside outpost.state next.state := by
      rcases between.worked with same | ⟨move, _, worked⟩
      · rw [same]
        exact .refl _
      · exact work_aside worked
    refine ⟨going.ledger.aside aside (between.ports.taken _), fun running => ?_, ?_⟩
    · rw [Outpost.isOver, between.returned] at running
      exact aside.finished.trans (going.now running)
    · rw [between.history]
      exact going.before
  · have unfinished := going.now running
    have ledger : Ledger outpost.state (outpost.ports.scheduled schedule) := going.ledger.aside (.refl _) rfl
    have processed := process_processed ledger context ⟨outpost.now, later⟩
    refine ⟨processed.ledger, fun after => ?_, fun visit member => ?_⟩
    · obtain ⟨_, unreturned⟩ := (Outpost.isOver_eq_false _).mp after
      refine Bool.eq_false_iff.mpr fun finished => unreturned (congrArg some (processed.finished unfinished finished))
    · rcases List.mem_append.mp member with earlier | last
      · exact going.before visit earlier
      · rw [List.mem_singleton.mp last]
        exact unfinished

/-- Each name taken is read once, under its path, and the packets are the `same` as those of the files
that have been read. -/
def Held (same : List FbpMessage → List FbpMessage → Prop) (state : FileReaderComponent)
    (ports : Call NamesPort OutPort) : Prop :=
  Ledger state ports ∧ same (delivered state ports) (packets state.completed)

theorem upholds {same : List FbpMessage → List FbpMessage → Prop} {careful : Visit component → Prop}
    (calls : ∀ visit, careful visit → ∀ turn, Processed visit.state visit.call visit.context turn →
      same (delivered visit.state visit.call) (packets (FileReaderComponent.completed visit.state)) →
        same (delivered turn.component turn.call) (packets turn.component.completed)) :
    Upholds (Held same) careful fun visit => FileReaderComponent.finished visit.state = false → Completes visit := by
  refine ⟨?_, ?_, ?_⟩
  · rintro state ports later ⟨ledger, held⟩ idle
    have still : delivered state later = delivered state ports :=
      congrArg (· ++ FileReaderComponent.pendingFiles state) (idle.sent OutPort.out)
    refine ⟨Ledger.aside ledger (.refl _) (idle.taken _), ?_⟩
    rw [still]
    exact held
  · rintro state move next ports ⟨ledger, held⟩ worked
    have aside := work_aside worked
    have still : delivered next ports = delivered state ports := congrArg (_ ++ ·) aside.pendingFiles
    refine ⟨ledger.aside aside rfl, ?_⟩
    rw [still, aside.completed]
    exact held
  · rintro visit ⟨ledger, held⟩ checked
    have processed := process_processed ledger visit.context visit.clock
    exact ⟨⟨processed.ledger, calls visit checked _ processed held⟩, processed.done⟩

/-- Where nothing gets past the queue, the contents are sent or wait in the order of the names. -/
theorem delivered_run (run : (outpostMachine component).Run permitted
    (.start FileReader.new inCapacity outCapacity now) trace outpost)
    (orderly : ∀ visit ∈ outpost.history, Orderly visit) :
    delivered outpost.state outpost.ports = packets (FileReaderComponent.completed outpost.state) := by
  have kept : Upholds (Held Eq) Orderly
      fun visit => FileReaderComponent.finished visit.state = false → Completes visit :=
    upholds fun _ calm _ processed => processed.ordered calm
  exact (kept.run run rfl ⟨.begins _ rfl, rfl⟩ orderly).1.2

/-- Each name taken is read once and under its path, unless its read is still under way; the contents
are sent or wait, none of them twice, and in order if nothing gets past the queue; and no call finishes
without a stop as long as something is left. -/
theorem reads_in_order (run : (outpostMachine component).Run permitted
    (.start FileReader.new inCapacity outCapacity now) trace outpost) :
    Ledger outpost.state outpost.ports ∧
      (delivered outpost.state outpost.ports).Perm (packets (FileReaderComponent.completed outpost.state)) ∧
      ((∀ visit ∈ outpost.history, Orderly visit) →
        delivered outpost.state outpost.ports = packets (FileReaderComponent.completed outpost.state)) ∧
      ∀ visit ∈ outpost.history, Completes visit := by
  have going := Going.run run
  have kept : Upholds (Held List.Perm) (fun _ => True)
      fun visit => FileReaderComponent.finished visit.state = false → Completes visit :=
    upholds fun _ _ _ processed => processed.perm
  obtain ⟨⟨ledger, perm⟩, completes⟩ := kept.run run rfl ⟨.begins _ rfl, .refl _⟩ fun _ _ => trivial
  exact ⟨ledger, perm, delivered_run run, fun visit member => completes visit member (going.before visit member)⟩

def readerStart : Outpost component := .start FileReader.new (fun _ => 3) (fun _ => 1) 0

/-- A call, with what the thread does in it and what the consumer takes before each push. -/
def dispatch (moves : List ReadMove) (drained : List Nat) : List (Affair component) :=
  [.work (.meanwhile moves),
    .process { NodeContext.new "read" .normal 0 0 with remainingBudget := 10 } (fun _ => drained) []]

/-- Two files are read, and what has been read second waits in the queue. -/
def twoFiles : List (Affair component) :=
  [.feed NamesPort.names (.text "a"), .feed NamesPort.names (.text "b")] ++ dispatch [.send (some [65])] [] ++
    dispatch [.send (some [255])] []

theorem reads_in_order_twoFiles :
    let outpost := (outpostMachine component).played readerStart twoFiles
    (FileReaderComponent.completed outpost.state).length = 2 ∧
      delivered outpost.state outpost.ports = packets (FileReaderComponent.completed outpost.state) := by
  have run := Machine.run_played (outpostMachine component) (Machine.permits_any readerStart twoFiles) (by decide +kernel)
  exact ⟨by decide +kernel, (reads_in_order run).2.2.1 (by decide +kernel)⟩

/-- A third file is sent in front of the second one. -/
def threeFiles : List (Affair component) :=
  twoFiles ++ [.feed NamesPort.names (.text "c")] ++ dispatch [.send (some [67])] [0, 1]

theorem reader_overtakes :
    ∃ outpost trace, (outpostMachine component).Run anyMove readerStart trace outpost ∧
      delivered outpost.state outpost.ports ≠ packets (FileReaderComponent.completed outpost.state) := by
  have run := Machine.run_played (outpostMachine component) (Machine.permits_any readerStart threeFiles)
    (by decide +kernel)
  refine ⟨_, _, run, fun same => ?_⟩
  have bytes := congrArg (List.map FbpMessage.asBytes) same
  revert bytes
  decide +kernel

end FileReader

end Flowd
