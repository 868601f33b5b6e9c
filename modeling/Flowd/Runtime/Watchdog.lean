import Flowd.Runtime.Outport

namespace Flowd

/-! The watchdog thread, with the runtime lock and whatever other threads do. -/

open Transition

def WATCHDOG_MAX_MISSED_PONGS : Nat := 2

/-- An entry of `watchdog_threadandsignal`. -/
structure Watched where
  name : String
  supportsHealth : Bool

/-- Where the watchdog thread stands. -/
inductive WatchdogPosition where
  | starting
  | receivingSignals
  | checking (rest : List Watched) (ok : Bool) (disconnected : List String)
  | awaitingPong (proc : Watched) (rest : List Watched) (ok : Bool) (disconnected : List String)
  | deciding (ok : Bool)
  | shuttingDown
  | sleeping
  | left

/-- The lock around the runtime, as the other threads hold it. -/
structure RuntimeLock where
  readers : Nat
  writer : Bool
  poisoned : Bool

namespace RuntimeLock

def tryRead (lock : RuntimeLock) : Bool := !lock.writer && !lock.poisoned

def tryWrite (lock : RuntimeLock) : Bool := !lock.writer && lock.readers == 0 && !lock.poisoned

end RuntimeLock

structure Supervision where
  position : WatchdogPosition
  watched : List Watched
  missedPongs : List (String × Nat)
  signals : List FbpMessage
  /-- The processes whose exit flag is set. -/
  exited : List String
  lock : RuntimeLock
  /-- By graph, whether the scheduler thread is finished. -/
  schedulerThreads : List (String × Bool)
  running : Bool

/-- What the watchdog gets from a process or from the clock. -/
inductive HealthReply where
  | sent
  | full
  | disconnected
  | pong
  | spurious
  | timeout
  | hungUp
  | timeUp
deriving DecidableEq

inductive SupervisionMove where
  | watchdog (reply : HealthReply)
  /-- Another thread sends to the watchdog. -/
  | signal (message : FbpMessage)
  | exits (name : String)
  | finishes (graph : String)
  | read
  | releaseRead
  | write
  /-- The thread with the write lock changes what the lock protects. -/
  | update (schedulerThreads : List (String × Bool)) (running : Bool)
  | releaseWrite (panicked : Bool)

inductive SupervisionEvent where
  /-- An iteration begins; whether every scheduler thread has exited. -/
  | iterates (finished : Bool)
  | stopReceived
  /-- The watchdog has tried to take the lock in vain. -/
  | lockBusy
  /-- The thread with the write lock leaves no threads that all have exited. -/
  | resumed
  /-- `Runtime::stop(.., true)` has been called. -/
  | stopped (running : Bool)
  | left
deriving DecidableEq

namespace Supervision

def start (watched : List Watched) (schedulerThreads : List (String × Bool)) : Supervision :=
  ⟨.starting, watched, [], [], [], ⟨0, false, false⟩, schedulerThreads, true⟩

/-- Every scheduler thread has exited. -/
def schedulersExited (supervision : Supervision) : Bool :=
  !supervision.schedulerThreads.isEmpty && supervision.schedulerThreads.all fun thread => thread.2

/-- `break 'watchdog_loop` -/
def leave (supervision : Supervision) : Supervision := { supervision with position := .left }

def iterate (supervision : Supervision) : Supervision × List SupervisionEvent :=
  ({ supervision with position := .receivingSignals },
    [.iterates supervision.schedulersExited])

/-- `watchdog_signalsource2.try_recv()`; true if the signal is "stop". -/
def tryRecv (supervision : Supervision) : Supervision × Bool :=
  match supervision.signals with
  | [] => (supervision, false)
  | signal :: rest => ({ supervision with signals := rest }, signal.textOrUtf8 == some "stop")

def forget (supervision : Supervision) (name : String) : Supervision :=
  { supervision with missedPongs := supervision.missedPongs.filter (·.1 ≠ name) }

/-- No pong came within the second. -/
def miss (supervision : Supervision) (name : String) : Supervision × Nat :=
  let misses := min 255 ((supervision.missedPongs.lookup name).getD 0 + 1)
  ({ supervision with missedPongs := (name, misses) :: supervision.missedPongs.filter (·.1 ≠ name) }, misses)

/-- The check of one process. -/
def check (supervision : Supervision) (proc : Watched) (rest : List Watched) (ok : Bool)
    (disconnected : List String) (reply : HealthReply) : Option Supervision :=
  if proc.name ∈ supervision.exited then
    some { supervision.forget proc.name with position := .checking rest false (disconnected ++ [proc.name]) }
  else if !proc.supportsHealth then some { supervision with position := .checking rest ok disconnected }
  else
    match reply with
    | .sent => some { supervision with position := .awaitingPong proc rest ok disconnected }
    | .full => some { supervision with position := .checking rest false disconnected }
    | .disconnected =>
        some { supervision.forget proc.name with position := .checking rest false (disconnected ++ [proc.name]) }
    | _ => none

def awaitPong (supervision : Supervision) (proc : Watched) (rest : List Watched) (ok : Bool)
    (disconnected : List String) (reply : HealthReply) : Option (Supervision × List SupervisionEvent) :=
  match reply with
  | .pong => some ({ supervision.forget proc.name with position := .checking rest ok disconnected }, [])
  | .spurious => some ({ supervision with position := .checking rest ok disconnected }, [])
  | .timeout =>
      if supervision.tryRecv.2 then some (supervision.tryRecv.1.leave, [.stopReceived, .left])
      else some (supervision.tryRecv.1, [])
  | .hungUp => some ({ supervision.forget proc.name with position := .checking rest false disconnected }, [])
  | .timeUp =>
      let ok := ok && decide ((supervision.miss proc.name).2 < WATCHDOG_MAX_MISSED_PONGS)
      some ({ (supervision.miss proc.name).1 with position := .checking rest ok disconnected }, [])
  | _ => none

/-- What happens while scheduler threads may still be running. -/
def proceed (supervision : Supervision) (ok : Bool) : Supervision :=
  if ok then { supervision with position := .sleeping }
  else if supervision.watched.isEmpty then { supervision with position := .shuttingDown }
  else { supervision with position := .sleeping }

/-- Every process has been checked. -/
def conclude (supervision : Supervision) (ok : Bool) : Supervision × List SupervisionEvent :=
  if supervision.watched.isEmpty then
    if supervision.lock.tryRead then
      if supervision.schedulersExited then ({ supervision with position := .shuttingDown }, [])
      else (supervision.proceed ok, [])
    else (supervision.proceed ok, [.lockBusy])
  else (supervision.proceed ok, [])

/-- Both shutdown branches.  A boundary thread may fail to join in time, so that
`stop` ends with an error. -/
def shutDown (supervision : Supervision) (reply : HealthReply) : Supervision × List SupervisionEvent :=
  if supervision.lock.tryWrite then
    let running := reply == .timeUp
    let schedulerThreads := supervision.schedulerThreads.filter fun thread => !thread.2
    ({ supervision with schedulerThreads, running, position := .left }, [.stopped running, .left])
  else (supervision.leave, [.lockBusy, .left])

def watchdog (supervision : Supervision) (reply : HealthReply) : Option (Supervision × List SupervisionEvent) :=
  match supervision.position with
  | .starting => some supervision.iterate
  | .receivingSignals =>
      match supervision.signals with
      | [] => some ({ supervision with position := .checking supervision.watched true [] }, [])
      | _ :: _ =>
          if supervision.tryRecv.2 then some (supervision.tryRecv.1.leave, [.stopReceived, .left])
          else some (supervision.tryRecv.1, [])
  | .checking [] ok disconnected =>
      let watched := supervision.watched.filter (·.name ∉ disconnected)
      some ({ supervision with watched, position := .deciding ok }, [])
  | .checking (proc :: rest) ok disconnected =>
      if supervision.tryRecv.2 then some (supervision.tryRecv.1.leave, [.stopReceived, .left])
      else (supervision.tryRecv.1.check proc rest ok disconnected reply).map (·, [])
  | .awaitingPong proc rest ok disconnected => supervision.awaitPong proc rest ok disconnected reply
  | .deciding ok => some (supervision.conclude ok)
  | .shuttingDown => some (supervision.shutDown reply)
  | .sleeping =>
      if reply = .timeUp then some supervision.iterate
      else if supervision.tryRecv.2 then some (supervision.tryRecv.1.leave, [.stopReceived, .left])
      else some (supervision.tryRecv.1, [])
  | .left => none

def step (supervision : Supervision) : SupervisionMove → Option (Supervision × List SupervisionEvent)
  | .watchdog reply => supervision.watchdog reply
  | .signal message =>
      if supervision.signals.length < PROCESSEDGE_SIGNAL_BUFSIZE then
        some ({ supervision with signals := supervision.signals ++ [message] }, [])
      else none
  | .exits name => some ({ supervision with exited := name :: supervision.exited }, [])
  | .finishes graph =>
      let schedulerThreads := supervision.schedulerThreads.map fun thread =>
        if thread.1 = graph then (graph, true) else thread
      some ({ supervision with schedulerThreads }, [])
  | .read =>
      if supervision.lock.tryRead then
        some ({ supervision with lock.readers := supervision.lock.readers + 1 }, [])
      else none
  | .releaseRead => some ({ supervision with lock.readers := supervision.lock.readers - 1 }, [])
  | .write =>
      if supervision.lock.tryWrite then some ({ supervision with lock.writer := true }, []) else none
  | .update schedulerThreads running =>
      if supervision.lock.writer then
        let updated := { supervision with schedulerThreads, running }
        some (updated, if updated.schedulersExited then [] else [.resumed])
      else none
  | .releaseWrite panicked =>
      if supervision.lock.writer then
        some ({ supervision with lock.writer := false, lock.poisoned := panicked }, [])
      else none

end Supervision

def supervisionMachine : Machine Supervision SupervisionMove SupervisionEvent := ⟨Supervision.step⟩

namespace Supervision

/-- The iteration has not got to its end. -/
def Underway (supervision : Supervision) : Prop :=
  match supervision.position with
  | .receivingSignals | .checking _ _ _ | .awaitingPong _ _ _ _ | .deciding _ | .shuttingDown => True
  | .starting | .sleeping | .left => False

end Supervision

namespace SupervisionEvent

/-- The watchdog has a reason to leave. -/
def Excuses : SupervisionEvent → Prop
  | stopReceived | stopped _ => True
  | _ => False

/-- The call is made, or the iteration need not make it. -/
def Settles : SupervisionEvent → Prop
  | stopped _ | stopReceived | lockBusy | resumed => True
  | _ => False

end SupervisionEvent

/-- The watchdog leaves only with a reason, and an iteration that begins in a finished network does not end without
the call, unless an attempt to take the lock fails. -/
structure Reported (trace : List SupervisionEvent) (supervision : Supervision) : Prop where
  reason : ∀ before after, trace = before ++ .left :: after → ∃ event ∈ before, event.Excuses
  calls : Owes Supervision.Underway (· = .iterates true) SupervisionEvent.Settles trace supervision

/-- In a finished network every process that is checked has exited, and no attempt to
shut the network down finds the lock taken. -/
def Unhindered (supervision : Supervision) : SupervisionMove → Prop
  | .watchdog _ =>
      match supervision.position with
      | .checking (proc :: _) _ _ => supervision.schedulersExited = true → proc.name ∈ supervision.exited
      | .shuttingDown => supervision.lock.tryWrite = true
      | _ => True
  | _ => True

instance (supervision : Supervision) : DecidablePred (Unhindered supervision)
  | .watchdog _ => by
      unfold Unhindered
      dsimp only
      split <;> infer_instance
  | .signal _ | .exits _ | .finishes _ | .read | .releaseRead | .write | .update _ _ | .releaseWrite _ =>
      inferInstanceAs (Decidable True)

namespace Supervision

variable {supervision next : Supervision} {trace events : List SupervisionEvent} {move : SupervisionMove}

/-- `Underway`, strong enough to be kept in a finished network. -/
structure Finishing (supervision : Supervision) : Prop where
  exited : supervision.schedulersExited = true
  position : match supervision.position with
    | .receivingSignals | .shuttingDown => True
    | .checking rest _ disconnected =>
        ∀ proc ∈ supervision.watched, proc ∈ rest ∨ proc.name ∈ disconnected
    | .deciding _ => supervision.watched = []
    | .starting | .awaitingPong _ _ _ _ | .sleeping | .left => False

theorem Finishing.underway (finishing : supervision.Finishing) : supervision.Underway := by
  have position := finishing.position
  unfold Underway
  split
  · trivial
  · trivial
  · trivial
  · trivial
  · trivial
  all_goals next here => rw [here] at position; exact position

/-- A step that starts an iteration says in what state the network is. -/
theorem iterate_finishing (supervision : Supervision) (finished : supervision.schedulersExited = true) :
    supervision.iterate.1.Finishing := ⟨finished, trivial⟩

@[simp] theorem tryRecv_schedulersExited (supervision : Supervision) :
    supervision.tryRecv.1.schedulersExited = supervision.schedulersExited := by
  unfold tryRecv
  split <;> rfl

@[simp] theorem tryRecv_watched (supervision : Supervision) : supervision.tryRecv.1.watched = supervision.watched := by
  unfold tryRecv
  split <;> rfl

@[simp] theorem tryRecv_exited (supervision : Supervision) : supervision.tryRecv.1.exited = supervision.exited := by
  unfold tryRecv
  split <;> rfl

@[simp] theorem tryRecv_position (supervision : Supervision) :
    supervision.tryRecv.1.position = supervision.position := by
  unfold tryRecv
  split <;> rfl

/-- What a step of the watchdog thread can report. -/
inductive Watches (supervision : Supervision) : Supervision → List SupervisionEvent → Prop where
  | quiet {next : Supervision} : Watches supervision next []
  | iterates : Watches supervision supervision.iterate.1 supervision.iterate.2
  | told {next : Supervision} : Watches supervision next [.stopReceived, .left]
  | busy {next : Supervision} : Watches supervision next [.lockBusy]
  | shuts (reply : HealthReply) : supervision.position = .shuttingDown →
      Watches supervision (supervision.shutDown reply).1 (supervision.shutDown reply).2

theorem watchdog_watches {reply : HealthReply} (step : supervision.watchdog reply = some (next, events)) :
    supervision.Watches next events := by
  unfold watchdog at step
  split at step
  · cases step
    exact .iterates
  · split at step
    · cases step
      exact .quiet
    · split at step
      · cases step
        exact .told
      · cases step
        exact .quiet
  · cases step
    exact .quiet
  · split at step
    · cases step
      exact .told
    · obtain ⟨checked, _, same⟩ := Option.map_eq_some_iff.mp step
      cases same
      exact .quiet
  · unfold awaitPong at step
    split at step
    · cases step
      exact .quiet
    · cases step
      exact .quiet
    · split at step
      · cases step
        exact .told
      · cases step
        exact .quiet
    · cases step
      exact .quiet
    · cases step
      exact .quiet
    · cases step
  · next ok _ =>
      have reports : (supervision.conclude ok).2 = [] ∨ (supervision.conclude ok).2 = [.lockBusy] := by
        unfold conclude
        split
        · split
          · split
            · exact .inl rfl
            · exact .inl rfl
          · exact .inr rfl
        · exact .inl rfl
      have same := Option.some.inj step
      rcases reports with none | busy
      · rw [same] at none
        subst none
        exact .quiet
      · rw [same] at busy
        subst busy
        exact .busy
  · next position =>
      have kind := Watches.shuts reply position
      rw [Option.some.inj step] at kind
      exact kind
  · split at step
    · cases step
      exact .iterates
    · split at step
      · cases step
        exact .told
      · cases step
        exact .quiet
  · cases step

/-- The other threads report at most that the network goes on. -/
theorem step_cases (step : supervision.step move = some (next, events)) :
    (∃ reply, move = .watchdog reply ∧ supervision.Watches next events) ∨ events = [] ∨ events = [.resumed] := by
  cases move with
  | watchdog reply => exact .inl ⟨reply, rfl, watchdog_watches step⟩
  | exits | finishes | releaseRead =>
      cases step
      exact .inr (.inl rfl)
  | update =>
      unfold Supervision.step at step
      dsimp only at step
      split at step
      · obtain ⟨rfl, rfl⟩ := Prod.mk.inj (Option.some.inj step)
        split
        · exact .inr (.inl rfl)
        · exact .inr (.inr rfl)
      · cases step
  | signal | read | write | releaseWrite =>
      unfold Supervision.step at step
      dsimp only at step
      split at step
      · cases step
        exact .inr (.inl rfl)
      · cases step

theorem not_left_of_singleton {event : SupervisionEvent} {before after : List SupervisionEvent}
    (different : event ≠ .left) : before ++ .left :: after ≠ [event] := by
  intro same
  have member : SupervisionEvent.left ∈ [event] := by
    rw [← same]
    exact List.mem_append_right _ List.mem_cons_self
  exact different (List.mem_singleton.mp member).symm

theorem mem_before_left {event : SupervisionEvent} {before after : List SupervisionEvent}
    (different : event ≠ .left) (split : before ++ .left :: after = [event, .left]) : event ∈ before := by
  cases before with
  | nil => exact absurd (List.cons.inj split).1.symm different
  | cons first rest =>
      rw [← (List.cons.inj split).1]
      exact List.mem_cons_self

/-- The thread never leaves without having reported why. -/
theorem step_left {before after : List SupervisionEvent} (unhindered : Unhindered supervision move)
    (step : supervision.step move = some (next, events)) (split : events = before ++ .left :: after) :
    ∃ event ∈ before, event.Excuses := by
  rcases step_cases step with ⟨reply, same, watches⟩ | none | resumed
  · subst same
    cases watches with
    | quiet => simp at split
    | iterates => exact absurd split.symm (not_left_of_singleton (by simp))
    | told => exact ⟨_, mem_before_left (by simp) split.symm, trivial⟩
    | busy => exact absurd split.symm (not_left_of_singleton (by simp))
    | shuts _ position =>
        unfold Unhindered at unhindered
        rw [position] at unhindered
        unfold shutDown at split
        rw [if_pos unhindered] at split
        exact ⟨_, mem_before_left (by simp) split.symm, trivial⟩
  · rw [none] at split
    simp at split
  · rw [resumed] at split
    exact absurd split.symm (not_left_of_singleton (by simp))

theorem step_iterates (step : supervision.step move = some (next, events)) (reports : .iterates true ∈ events) :
    events = [.iterates true] ∧ next.Finishing := by
  rcases step_cases step with ⟨reply, _, watches⟩ | none | resumed
  · cases watches with
    | quiet | told | busy => simp at reports
    | iterates =>
        have finished : true = _ := (SupervisionEvent.iterates.inj (List.mem_singleton.mp reports))
        refine ⟨?_, supervision.iterate_finishing finished.symm⟩
        unfold iterate
        rw [← finished]
    | shuts reply =>
        unfold shutDown at reports
        split at reports <;> simp at reports
  · simp [none] at reports
  · simp [resumed] at reports

theorem Finishing.watchdog {reply : HealthReply} (finishing : supervision.Finishing)
    (unhindered : Unhindered supervision (.watchdog reply))
    (step : supervision.watchdog reply = some (next, events)) :
    (∃ event ∈ events, event.Settles) ∨ next.Finishing := by
  obtain ⟨exited, here⟩ := finishing
  unfold Supervision.watchdog at step
  unfold Unhindered at unhindered
  split at step
  · next position =>
      rw [position] at here
      exact here.elim
  · next position =>
      split at step
      · cases step
        exact .inr ⟨exited, fun proc member => .inl member⟩
      · split at step
        · cases step
          exact .inl ⟨.stopReceived, List.mem_cons_self, trivial⟩
        · cases step
          refine .inr ⟨by simpa using exited, ?_⟩
          rw [tryRecv_position, position]
          trivial
  · next ok disconnected position =>
      rw [position] at here
      cases step
      refine .inr ⟨exited, ?_⟩
      -- every process has been found exited, so that none is left in the map
      apply List.filter_eq_nil_iff.mpr
      intro proc member
      rcases here proc member with waiting | gone
      · exact absurd waiting List.not_mem_nil
      · simpa using gone
  · next proc rest ok disconnected position =>
      rw [position] at here
      dsimp only at here
      split at step
      · cases step
        exact .inl ⟨.stopReceived, List.mem_cons_self, trivial⟩
      · rw [position] at unhindered
        have gone : proc.name ∈ supervision.tryRecv.1.exited := by
          rw [tryRecv_exited]
          exact unhindered exited
        obtain ⟨checked, found, same⟩ := Option.map_eq_some_iff.mp step
        unfold check at found
        rw [if_pos gone] at found
        cases found
        cases same
        refine .inr ⟨?_, ?_⟩
        · rw [← tryRecv_schedulersExited] at exited
          exact exited
        · intro other member
          simp only [forget, tryRecv_watched] at member
          rcases here other member with waiting | already
          · rcases List.mem_cons.mp waiting with same | later
            · exact .inr (List.mem_append_right _ (by rw [same]; exact List.mem_cons_self))
            · exact .inl later
          · exact .inr (List.mem_append_left _ already)
  · next position =>
      rw [position] at here
      exact here.elim
  · next ok position =>
      rw [position] at here
      dsimp only at here
      unfold conclude at step
      rw [here, List.isEmpty_nil, if_pos rfl] at step
      by_cases free : supervision.lock.tryRead = true
      · rw [if_pos free, if_pos exited] at step
        cases step
        exact .inr ⟨exited, trivial⟩
      · rw [if_neg free] at step
        cases step
        exact .inl ⟨.lockBusy, List.mem_cons_self, trivial⟩
  · next position =>
      rw [position] at unhindered
      have same := Option.some.inj step
      unfold shutDown at same
      rw [if_pos unhindered] at same
      cases same
      exact .inl ⟨_, List.mem_cons_self, trivial⟩
  · next position =>
      rw [position] at here
      exact here.elim
  · cases step

theorem schedulersExited_finishes (graph : String) (exited : supervision.schedulersExited = true) :
    ({ supervision with schedulerThreads := supervision.schedulerThreads.map fun thread =>
      if thread.1 = graph then (graph, true) else thread } : Supervision).schedulersExited = true := by
  unfold schedulersExited at exited ⊢
  obtain ⟨some, all⟩ := Bool.and_eq_true_iff.mp exited
  rw [Bool.and_eq_true_iff]
  constructor
  · simpa using some
  · simp only [List.all_eq_true, List.mem_map] at all ⊢
    intro thread member
    obtain ⟨old, member, same⟩ := member
    subst same
    split
    · rfl
    · exact all old member

theorem Finishing.step (finishing : supervision.Finishing) (unhindered : Unhindered supervision move)
    (step : supervision.step move = some (next, events)) :
    (∃ event ∈ events, event.Settles) ∨ next.Finishing := by
  cases move with
  | watchdog reply => exact finishing.watchdog unhindered step
  | exits | releaseRead =>
      cases step
      exact .inr ⟨finishing.exited, finishing.position⟩
  | finishes graph =>
      cases step
      exact .inr ⟨schedulersExited_finishes graph finishing.exited, finishing.position⟩
  | update schedulerThreads running =>
      unfold Supervision.step at step
      dsimp only at step
      split at step
      · obtain ⟨rfl, rfl⟩ := Prod.mk.inj (Option.some.inj step)
        split
        · next exited => exact .inr ⟨exited, finishing.position⟩
        · exact .inl ⟨.resumed, List.mem_cons_self, trivial⟩
      · cases step
  | signal | read | write | releaseWrite =>
      unfold Supervision.step at step
      dsimp only at step
      split at step
      · cases step
        exact .inr ⟨finishing.exited, finishing.position⟩
      · cases step

end Supervision

variable {supervision : Supervision} {trace : List SupervisionEvent}

/-- A finished network is reported as stopped in every unhindered run. -/
theorem watchdog_reports {watched : List Watched} {schedulerThreads : List (String × Bool)}
    (run : supervisionMachine.Run Unhindered (.start watched schedulerThreads) trace supervision) :
    Reported trace supervision := by
  constructor
  · apply Machine.Run.history (fun (trace : List SupervisionEvent) _ => ∀ before after : List SupervisionEvent,
      trace = before ++ .left :: after → ∃ event ∈ before, event.Excuses) run
    · intro before after split
      simp at split
    · intro earlier state move next events _ unhindered excused step before after split
      rcases append_eq_append_cons split with ⟨middle, past, _⟩ | ⟨middle, now, same⟩
      · exact excused before middle past
      · obtain ⟨event, member, excuses⟩ := Supervision.step_left unhindered step now
        rw [same]
        exact ⟨event, List.mem_append_right _ member, excuses⟩
  · intro before event after split iterates
    have owed : Owes Supervision.Finishing (· = .iterates true) SupervisionEvent.Settles trace supervision := by
      apply run.owes
      · intro _ state move next events before event after _ _ step split iterates
        subst iterates
        have member : SupervisionEvent.iterates true ∈ events := by
          rw [split]
          exact List.mem_append_right _ List.mem_cons_self
        exact .inr (Supervision.step_iterates step member).2
      · intro _ state move next events _ unhindered step finishing
        exact finishing.step unhindered step
    rcases owed before event after split iterates with settled | finishing
    · exact .inl settled
    · exact .inr finishing.underway

/-- A graph without exported outports finishes. -/
def finishesAlone : List SupervisionMove :=
  [.finishes "main", .watchdog .timeUp, .watchdog .timeUp, .watchdog .timeUp, .watchdog .timeUp, .watchdog .sent]

theorem watchdog_reports_finished :
    Reported (supervisionMachine.reported (.start [] [("main", false)]) finishesAlone)
      (supervisionMachine.played (.start [] [("main", false)]) finishesAlone) := by
  have unhindered : supervisionMachine.Permits Unhindered (.start [] [("main", false)]) finishesAlone := by decide
  have run := supervisionMachine.run_played unhindered (by decide)
  exact watchdog_reports run

/-- The watchdog finds the outport thread alive. -/
def finishesWithOutport : List SupervisionMove :=
  [.finishes "main", .watchdog .timeUp, .watchdog .timeUp, .watchdog .timeUp, .watchdog .timeUp, .watchdog .timeUp]

/-- Another thread reads while the watchdog wants to shut the network down. -/
def finishesWhileRead : List SupervisionMove :=
  [.finishes "main", .watchdog .timeUp, .watchdog .timeUp, .watchdog .timeUp, .watchdog .timeUp, .read,
    .watchdog .sent]

/-- A finished network with an exported outport is not stopped, and neither is one
whose lock is taken at the wrong moment. -/
theorem watchdog_misses :
    (∃ supervision, supervisionMachine.Run anyMove (.start [⟨"main-OUT", false⟩] [("main", false)])
      [.iterates true] supervision ∧ ¬ Reported [.iterates true] supervision) ∧
    ∃ supervision, supervisionMachine.Run anyMove (.start [] [("main", false)])
      [.iterates true, .lockBusy, .left] supervision ∧
      ¬ Reported [.iterates true, .lockBusy, .left] supervision := by
  constructor
  · have run := supervisionMachine.run_played
      (Machine.permits_any (.start [⟨"main-OUT", false⟩] [("main", false)]) finishesWithOutport) (by decide)
    refine ⟨_, run, fun reported => ?_⟩
    rcases reported.calls [] _ [] rfl rfl with ⟨_, member, _⟩ | underway
    · exact absurd member List.not_mem_nil
    · exact underway
  · have run := supervisionMachine.run_played
      (Machine.permits_any (.start [] [("main", false)]) finishesWhileRead) (by decide)
    refine ⟨_, run, fun reported => ?_⟩
    obtain ⟨event, member, excuses⟩ := reported.reason [.iterates true, .lockBusy] [] rfl
    simp only [List.mem_cons, List.not_mem_nil, or_false] at member
    rcases member with rfl | rfl
    · exact excuses
    · exact excuses

section
variable {π : Type} [DecidableEq π]

/-- Nobody stops the network, and the packets are text. -/
def Undisturbed (_ : Boundary π) : BoundaryMove π → Prop
  | .requestStop => False
  | .push _ packet => packet.textOrUtf8.isSome = true
  | _ => True

structure Boundary.Waiting (boundary : Boundary π) : Prop where
  staying : boundary.thread.isLeaving = false
  unsignaled : boundary.signals = []
  unstopped : boundary.stop = none
  known : boundary.inports ≠ []
  texts : ∀ port, ∀ packet ∈ (boundary.rings port).buffer, packet.textOrUtf8.isSome = true

theorem Boundary.Waiting.step {boundary next : Boundary π} {move : BoundaryMove π}
    {events : List (BoundaryEvent π)} (waiting : boundary.Waiting) (undisturbed : Undisturbed boundary move)
    (step : boundary.step move = some (next, events)) : next.Waiting := by
  obtain ⟨staying, unsignaled, unstopped, known, texts⟩ := waiting
  cases move with
  | outport =>
      have kind := boundary.outport_cases step
      cases kind with
      | goesOn _ after fewer =>
          rw [unsignaled] at fewer
          exact ⟨after, List.suffix_nil.mp fewer, unstopped, known, texts⟩
      | @broadcasts port ip rest _ _ found =>
          refine ⟨staying, unsignaled, unstopped, known, fun other packet member => ?_⟩
          by_cases here : other = port
          · subst here
            simp only [Function.update_self, Ring.drop_buffer] at member
            exact texts other packet (List.mem_of_mem_drop member)
          · simp only [Function.update_of_ne here] at member
            exact texts other packet member
      | @panics port ip _ _ found silent =>
          have text := texts port ip (by rw [found]; exact List.mem_cons_self)
          rw [silent] at text
          cases text
      | stops _ queued => cases unsignaled.symm.trans queued
      | idle _ none => exact absurd none known
      | reports position | exits position =>
          rw [position] at staying
          cases staying
  | push port packet =>
      unfold Boundary.step at step
      dsimp only at step
      split at step
      · split at step
        · split at step
          · next ring pushed =>
              cases step
              obtain ⟨_, buffer, _⟩ := Ring.push_some pushed
              refine ⟨staying, unsignaled, unstopped, known, fun other waiting member => ?_⟩
              by_cases here : other = port
              · subst here
                simp only [Function.update_self, buffer] at member
                rcases List.mem_append.mp member with old | new
                · exact texts other waiting old
                · rw [List.mem_singleton.mp new]
                  exact undisturbed
              · simp only [Function.update_of_ne here] at member
                exact texts other waiting member
          · cases step
            exact ⟨staying, unsignaled, unstopped, known, texts⟩
        · cases step
      · cases step
  | dispatch =>
      unfold Boundary.step at step
      dsimp only at step
      split at step
      · split at step
        · cases step
          exact ⟨staying, unsignaled, unstopped, known, texts⟩
        · cases step
      · cases step
  | returned | schedulerExits =>
      unfold Boundary.step at step
      dsimp only at step
      split at step
      · cases step
        exact ⟨staying, unsignaled, unstopped, known, texts⟩
      · cases step
  | requestStop => exact undisturbed.elim
  | stop =>
      unfold Boundary.step at step
      rw [unstopped] at step
      cases step

/-- The outport thread does not end by itself, so that the watchdog never finds its
exit flag set, however long the nodes have been retired. -/
theorem Boundary.outport_stays {inports : List π} {capacity : Nat} {trace : List (BoundaryEvent π)}
    {boundary : Boundary π} (known : inports ≠ [])
    (run : (boundaryMachine π).Run Undisturbed (.start inports capacity) trace boundary) :
    boundary.thread.isFinished = false := by
  have waiting : boundary.Waiting := by
    apply Machine.Run.invariant Boundary.Waiting run
    · exact ⟨rfl, rfl, rfl, known, fun _ _ member => nomatch member⟩
    · intro _ _ _ _ undisturbed waiting step
      exact waiting.step undisturbed step
  have staying := waiting.staying
  cases position : boundary.thread with
  | exited | panicked =>
      rw [position] at staying
      cases staying
  | _ => rfl

end

end Flowd
