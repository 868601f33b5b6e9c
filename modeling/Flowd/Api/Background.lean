import Flowd.Api.Message
import Mathlib.Data.Rat.Floor

namespace Flowd

/-! What the API offers to components with a background thread: bounded channels to it, and
when to try again after an error. -/

/-- `DEFAULT_MAX_INFLIGHT` -/
def defaultMaxInflight : Nat := 10

/-- `DEFAULT_MAX_PENDING` -/
def defaultMaxPending : Nat := 100

/-- `create_io_channels`: a channel of commands, a channel of results, and what the thread
works on.  For the history, a result comes with its command and the thread has a list of all
it has reported. -/
structure IoChannels (Command Answer : Type) where
  commands : List Command
  working : Option Command
  results : List (Command × Answer)
  reported : List (Command × Answer)
  alive : Bool
deriving DecidableEq, Repr

/-- What `try_send` returns. -/
inductive TrySend where
  | sent
  | full
  | disconnected
deriving DecidableEq, Repr

/-- What `try_recv` returns. -/
inductive TryRecv (Answer : Type) where
  | received (answer : Answer)
  | empty
  | disconnected
deriving DecidableEq, Repr

/-- What the background thread does: it takes the next command, it sends a result with
`try_send`, or it ends. -/
inductive WorkerMove (Answer : Type) where
  | take
  | report (answer : Answer)
  | die
deriving DecidableEq, Repr

namespace IoChannels

variable {Command Answer : Type} (channels : IoChannels Command Answer)

def new : IoChannels Command Answer := ⟨[], none, [], [], true⟩

def trySend (command : Command) : TrySend × IoChannels Command Answer :=
  if channels.alive then
    if channels.commands.length < defaultMaxInflight then
      (.sent, { channels with commands := channels.commands ++ [command] })
    else (.full, channels)
  else (.disconnected, channels)

def tryRecv : TryRecv Answer × IoChannels Command Answer :=
  match channels.results with
  | (_, answer) :: rest => (.received answer, { channels with results := rest })
  | [] => (if channels.alive then .empty else .disconnected, channels)

/-- A result that finds its channel full is dropped. -/
def work : WorkerMove Answer → Option (IoChannels Command Answer)
  | .take =>
      match channels.alive, channels.working, channels.commands with
      | true, none, command :: rest => some { channels with commands := rest, working := some command }
      | _, _, _ => none
  | .report answer =>
      match channels.alive, channels.working with
      | true, some command =>
          let reported := channels.reported ++ [(command, answer)]
          if channels.results.length < defaultMaxPending then
            some { channels with working := none, results := channels.results ++ [(command, answer)], reported }
          else some { channels with working := none, reported }
      | _, _ => none
  | .die => some { channels with working := none, alive := false }

variable {channels}

theorem trySend_cases (command : Command) :
    (channels.alive = true ∧ channels.commands.length < defaultMaxInflight ∧
        channels.trySend command = (.sent, { channels with commands := channels.commands ++ [command] })) ∨
      (channels.alive = true ∧ defaultMaxInflight ≤ channels.commands.length ∧
        channels.trySend command = (.full, channels)) ∨
      channels.alive = false ∧ channels.trySend command = (.disconnected, channels) := by
  unfold trySend
  cases alive : channels.alive with
  | false => exact .inr (.inr ⟨rfl, rfl⟩)
  | true =>
      by_cases room : channels.commands.length < defaultMaxInflight
      · exact .inl ⟨rfl, room, by simp [room]⟩
      · exact .inr (.inl ⟨rfl, Nat.le_of_not_lt room, by simp [room]⟩)

theorem tryRecv_cases :
    (channels.results = [] ∧ channels.alive = true ∧ channels.tryRecv = (.empty, channels)) ∨
      (channels.results = [] ∧ channels.alive = false ∧ channels.tryRecv = (.disconnected, channels)) ∨
      ∃ command answer rest, channels.results = (command, answer) :: rest ∧
        channels.tryRecv = (.received answer, { channels with results := rest }) := by
  unfold tryRecv
  cases results : channels.results with
  | nil =>
      cases alive : channels.alive with
      | true => exact .inl ⟨rfl, rfl, rfl⟩
      | false => exact .inr (.inl ⟨rfl, rfl, rfl⟩)
  | cons result rest => exact .inr (.inr ⟨result.1, result.2, rest, rfl, rfl⟩)

/-- The thread takes a command when it has none, and reports on the one it has. -/
theorem work_cases {move : WorkerMove Answer} {next : IoChannels Command Answer} (worked : channels.work move = some next) :
    (∃ command rest, move = .take ∧ channels.working = none ∧ channels.commands = command :: rest ∧
        next = { channels with commands := rest, working := some command }) ∨
      (∃ command answer, move = .report answer ∧ channels.working = some command ∧
        next.working = none ∧ next.commands = channels.commands ∧ next.alive = channels.alive ∧
        next.reported = channels.reported ++ [(command, answer)] ∧
        (channels.results.length < defaultMaxPending → next.results = channels.results ++ [(command, answer)]) ∧
        (defaultMaxPending ≤ channels.results.length → next.results = channels.results)) ∨
      move = .die ∧ next = { channels with working := none, alive := false } := by
  cases move with
  | die => exact .inr (.inr ⟨rfl, (Option.some_inj.mp worked).symm⟩)
  | take =>
      unfold work at worked
      cases alive : channels.alive <;> cases working : channels.working <;> cases commands : channels.commands <;>
        simp only [alive, working, commands, reduceCtorEq, Option.some.injEq] at worked
      exact .inl ⟨_, _, rfl, rfl, rfl, worked.symm⟩
  | report answer =>
      unfold work at worked
      cases alive : channels.alive <;> cases working : channels.working <;>
        simp only [alive, working, reduceCtorEq] at worked
      refine .inr (.inl ⟨_, answer, rfl, rfl, ?_⟩)
      split at worked
      · next room =>
          cases worked
          exact ⟨rfl, rfl, rfl, rfl, fun _ => rfl, fun full => absurd room (Nat.not_lt.mpr full)⟩
      · next full =>
          cases worked
          exact ⟨rfl, rfl, rfl, rfl, fun room => absurd room full, fun _ => rfl⟩

end IoChannels

inductive ErrorType where
  | transient
  | permanent
deriving DecidableEq, Repr

/-- Durations are in nanoseconds. -/
structure RetryConfig where
  maxRetries : Nat
  initialDelay : Nat
  backoffMultiplier : ℚ
  maxDelay : Nat

/-- `RetryConfig::default()` -/
def RetryConfig.default : RetryConfig := ⟨3, 1000000000, 2, 30000000000⟩

structure RetryState where
  attempt : Nat
  nextRetryAt : Instant
  lastErrorType : ErrorType
deriving DecidableEq, Repr

/-- A cast to `u64` cuts off the fraction and saturates. -/
def asU64 (number : ℚ) : Nat := min (2 ^ 64 - 1) ⌊number⌋.toNat

/-- The delay before the retry of that number: whole milliseconds, not more than the
maximum. -/
def RetryConfig.delay (config : RetryConfig) (attempt : Nat) : Nat :=
  let initialMillis : ℚ := (config.initialDelay / 1000000 : Nat)
  let delay := initialMillis * config.backoffMultiplier ^ (attempt - 1)
  min (asU64 delay * 1000000) config.maxDelay

namespace RetryState

variable (state : RetryState) (config : RetryConfig)

def new (now : Instant) : RetryState := ⟨0, now, .transient⟩

def shouldRetry (errorType : ErrorType) : Bool :=
  match errorType with
  | .permanent => false
  | .transient => state.attempt < config.maxRetries

def calculateNextRetry (now : Instant) : RetryState :=
  { state with attempt := state.attempt + 1, nextRetryAt := now + config.delay (state.attempt + 1) }

def isReadyToRetry (now : Instant) : Bool := state.nextRetryAt ≤ now

end RetryState

example : RetryConfig.default.delay 3 = 4000000000 := by decide +kernel

end Flowd
