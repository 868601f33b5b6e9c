import Flowd.Component.Timed

namespace Flowd

/-! Cron: a tick for every time of a schedule. -/

namespace Cron

inductive WhenPort where
  | when
deriving DecidableEq, Repr

inductive TickPort where
  | tick
deriving DecidableEq, Repr

/-- A point of time on the wall clock, in nanoseconds. -/
abbrev DateTime := Int

/-- The times of a schedule in order, up to the first that is none. -/
abbrev Times := Nat → Option DateTime

/-- The cron crate: `Schedule::from_str`, and the times that come after a given one. -/
structure Engine where
  Schedule : Type
  fromStr : String → Option Schedule
  upcoming : Schedule → DateTime → Times

/-- `OwnedScheduleIterator` -/
structure OwnedScheduleIterator where
  times : Times
  position : Nat

def OwnedScheduleIterator.next (iterator : OwnedScheduleIterator) : Option DateTime × OwnedScheduleIterator :=
  (iterator.times iterator.position, { iterator with position := iterator.position + 1 })

/-- WHEN has been read and gives a schedule, or the tick for a time has been pushed. -/
inductive Event where
  | scheduled (times : Times)
  | ticked (scheduled now : DateTime)

structure State where
  schedule : Option OwnedScheduleIterator
  nextFireTime : Option DateTime
  timerArmed : Bool

def new : State := ⟨none, none, false⟩

/-- The wall clock and the monotonic clock advance equally; `epoch` is the time at which the latter is zero. -/
def wall (epoch : DateTime) (now : Instant) : DateTime := epoch + now

/-- `arm_next_timer`; `to_std` accepts every positive duration. -/
def armNextTimer (epoch : DateTime) (state : State) (context : NodeContext) (clock : Clock) :
    State × NodeContext × Clock :=
  match state.nextFireTime with
  | none => (state, context, clock)
  | some next =>
      let clock := clock.read
      let now := wall epoch clock.now
      let clock := clock.read
      let wait := if now < next then (next - now).toNat else 0
      ({ state with timerArmed := true }, { context with wakeAt := some (clock.now + wait) }, clock)

/-- A call that finds no schedule. -/
def configure (engine : Engine) (epoch : DateTime) (state : State) (call : Call WhenPort TickPort)
    (context : NodeContext) (clock : Clock) : Turn State WhenPort TickPort Event :=
  match call.pop .when with
  | none => ⟨state, call, context, clock, [], .result .noWork⟩
  | some (ip, call) =>
      match ip.asText with
      | none => ⟨state, call, context, clock, [], .panicked⟩
      | some cronStr =>
          match engine.fromStr cronStr with
          | none => ⟨state, call, context, clock, [], .result .finished⟩
          | some schedule =>
              let clock := clock.read
              let times := engine.upcoming schedule (wall epoch clock.now)
              match OwnedScheduleIterator.next ⟨times, 0⟩ with
              | (none, _) => ⟨state, call, context, clock, [.scheduled times], .result .finished⟩
              | (some nextTime, iterator) =>
                  let state := { state with schedule := some iterator, nextFireTime := some nextTime }
                  let (state, context, clock) := armNextTimer epoch state context clock
                  ⟨state, call, context, clock, [.scheduled times], .result (.didWork 1)⟩

/-- The timer has fired for `next`. -/
def fire (epoch : DateTime) (state : State) (iterator : OwnedScheduleIterator) (next : DateTime)
    (call : Call WhenPort TickPort) (context : NodeContext) (clock : Clock) : Turn State WhenPort TickPort Event :=
  match call.push (.tick, .bytes []) with
  | (call, false) =>
      let clock := clock.read
      ⟨state, call, { context with wakeAt := some (clock.now + defaultIoPollInterval) }, clock, [], .result .noWork⟩
  | (call, true) =>
      let log := [.ticked next (wall epoch clock.now)]
      let state := { state with timerArmed := false }
      match iterator.next with
      | (none, iterator) =>
          ⟨{ state with schedule := some iterator, nextFireTime := none }, call, context, clock, log,
            .result (.didWork 1)⟩
      | (some nextTime, iterator) =>
          let state := { state with schedule := some iterator, nextFireTime := some nextTime }
          let (state, context, clock) := armNextTimer epoch state context clock
          ⟨state, call, context, clock, log, .result (.didWork 1)⟩

/-- What follows the signals. -/
def proceed (engine : Engine) (epoch : DateTime) (state : State) (call : Call WhenPort TickPort)
    (context : NodeContext) (clock : Clock) : Turn State WhenPort TickPort Event :=
  match state.schedule with
  | none => configure engine epoch state call context clock
  | some iterator =>
      if state.timerArmed && context.timerFiredAt.isSome then
        let context := { context with timerFiredAt := none }
        match state.nextFireTime with
        | none => ⟨state, call, context, clock, [], .result .finished⟩
        | some next => fire epoch state iterator next call context clock
      else
        let result := if state.nextFireTime.isSome then .noWork else .finished
        ⟨state, call, context, clock, [], .result result⟩

def process (engine : Engine) (epoch : DateTime) (state : State) (call : Call WhenPort TickPort)
    (context : NodeContext) (clock : Clock) : Turn State WhenPort TickPort Event :=
  match call.begin.poll FbpMessage.textOrUtf8 with
  | (call, true) => ⟨state, call, context, clock, [], .result .finished⟩
  | (call, false) => proceed engine epoch state call context clock

def component (engine : Engine) (epoch : DateTime) : TimedComponent where
  In := WhenPort
  Out := TickPort
  State := State
  Event := Event
  new
  process := process engine epoch

/-! The calls, one by one. -/

/-- The ticks, each with its time and the time at which it was pushed. -/
def ticks (log : List Event) : List (DateTime × DateTime) :=
  log.filterMap fun event =>
    match event with
    | .scheduled _ => none
    | .ticked scheduled now => some (scheduled, now)

@[simp] theorem ticks_append (left right : List Event) : ticks (left ++ right) = ticks left ++ ticks right :=
  List.filterMap_append

theorem never_early {epoch next : Int} {first second : Nat} (later : first ≤ second) :
    next ≤ epoch + ↑(second + if epoch + first < next then (next - (epoch + first)).toNat else 0) := by
  split <;> omega

theorem wall_mono (epoch : DateTime) {before after : Instant} (later : before ≤ after) :
    wall epoch before ≤ wall epoch after :=
  Int.add_le_add_left (Int.ofNat_le.mpr later) epoch

/-- The timer is armed for the next time, never earlier. -/
theorem armNextTimer_later (epoch : DateTime) (schedule : Option OwnedScheduleIterator) (next : DateTime)
    (armed : Bool) (context : NodeContext) (clock : Clock) :
    ∃ when later, armNextTimer epoch ⟨schedule, some next, armed⟩ context clock =
        (⟨schedule, some next, true⟩, { context with wakeAt := some when }, later) ∧ next ≤ wall epoch when :=
  ⟨_, _, rfl, never_early clock.read.now_le_read⟩

/-! Where Cron stands with its schedule. -/

/-- The times that WHEN gives. -/
def Reads (engine : Engine) (taken : List FbpMessage) (times : Times) : Prop :=
  ∃ ip cronStr schedule now, taken = [ip] ∧ ip.asText = some cronStr ∧ engine.fromStr cronStr = some schedule ∧
    times = engine.upcoming schedule now

/-- What the edges show of the log. -/
structure Account (engine : Engine) (ports : Call WhenPort TickPort) (log : List Event) : Prop where
  sent : (ports.outs .tick).sent = (ticks log).map fun _ => .bytes []
  begins : log = [] ∨ ∃ times, log.head? = some (.scheduled times) ∧ Reads engine (ports.taken .when) times
  served : ∀ times, log.head? = some (.scheduled times) →
    (ticks log).map (fun tick => some tick.1) = (List.range (ticks log).length).map times
  punctual : ∀ tick ∈ ticks log, tick.1 ≤ tick.2

/-- Before WHEN has been read, while a time is outstanding, and after the last tick; the last argument is the
one deadline or fired timer there is. -/
inductive Phase (epoch : DateTime) (taken : List FbpMessage) (log : List Event) : State → Option Instant → Prop where
  | unread (nothing : taken = []) (empty : log = []) : Phase epoch taken log new none
  | waits {times : Times} {next : DateTime} {when : Instant} (begins : log.head? = some (.scheduled times))
      (outstanding : times (ticks log).length = some next) (later : next ≤ wall epoch when) :
      Phase epoch taken log ⟨some ⟨times, (ticks log).length + 1⟩, some next, true⟩ (some when)
  | exhausted {times : Times} (begins : log.head? = some (.scheduled times))
      (last : times (ticks log).length = none) :
      Phase epoch taken log ⟨some ⟨times, (ticks log).length + 1⟩, none, false⟩ none

/-- All of a deadline, a fired timer and a request for a deadline that there is. -/
inductive Sole : Option Instant → Option Instant → Option Instant → Option Instant → Prop where
  | nothing : Sole none none none none
  | deadline (when : Instant) : Sole (some when) (some when) none none
  | fired (when : Instant) : Sole (some when) none (some when) none
  | asked (when : Instant) : Sole (some when) none none (some when)

/-- Nothing is outstanding, unless the turns were stopped. -/
def Over (log : List Event) (history : List (Turn State WhenPort TickPort Event)) : Prop :=
  ∀ times next, log.head? = some (.scheduled times) → times (ticks log).length = some next →
    ∃ turn ∈ history, turn.call.Stopped FbpMessage.textOrUtf8

variable {engine : Engine} {epoch : DateTime} {ports later : Call WhenPort TickPort} {log : List Event}
variable {history : List (Turn State WhenPort TickPort Event)} {times : Times} {next : DateTime}

theorem Account.congr (account : Account engine ports log) (taken : later.taken .when = ports.taken .when)
    (sent : (later.outs .tick).sent = (ports.outs .tick).sent) : Account engine later log :=
  ⟨sent.trans account.sent, by rw [taken]; exact account.begins, account.served, account.punctual⟩

/-- WHEN has been read. -/
theorem Account.schedule (account : Account engine ports []) (reads : Reads engine (later.taken .when) times)
    (sent : (later.outs .tick).sent = (ports.outs .tick).sent) : Account engine later [.scheduled times] :=
  ⟨sent.trans account.sent, .inr ⟨times, rfl, reads⟩, fun _ _ => rfl, fun _ none => absurd none List.not_mem_nil⟩

/-- The next time is served. -/
theorem Account.tick {now : DateTime} (account : Account engine ports log)
    (begins : log.head? = some (.scheduled times)) (outstanding : times (ticks log).length = some next)
    (due : next ≤ now) (taken : later.taken .when = ports.taken .when)
    (sent : (later.outs .tick).sent = (ports.outs .tick).sent ++ [.bytes []]) :
    Account engine later (log ++ [.ticked next now]) := by
  have head (event : Event) : (log ++ [event]).head? = log.head? := by
    cases log with
    | nil => cases begins
    | cons first rest => rfl
  have one : ticks [.ticked next now] = [(next, now)] := rfl
  refine ⟨?_, .inr ⟨times, (head _).trans begins, ?_⟩, ?_, ?_⟩
  · rw [sent, account.sent, ticks_append, List.map_append, one]
    rfl
  · rcases account.begins with none | ⟨same, found, reads⟩
    · rw [none] at begins
      cases begins
    · rw [begins] at found
      cases found
      rw [taken]
      exact reads
  · intro same found
    rw [head, begins] at found
    cases found
    rw [ticks_append, one, List.map_append, account.served times begins, List.length_append, List.length_singleton,
      List.range_succ, List.map_append, List.map_singleton, List.map_singleton, outstanding]
  · intro tick member
    rw [ticks_append, List.mem_append] at member
    rcases member with earlier | last
    · exact account.punctual tick earlier
    · cases List.mem_singleton.mp last
      exact due

/-- What WHEN gives is no schedule. -/
def Declines (engine : Engine) (taken : List FbpMessage) : Prop :=
  ∃ ip cronStr, taken = [ip] ∧ ip.asText = some cronStr ∧ engine.fromStr cronStr = none

/-- There is a schedule, and no time of it is left. -/
def Served (log : List Event) : Prop :=
  ∃ times, log.head? = some (.scheduled times) ∧ times (ticks log).length = none

/-- What a call leaves behind, with `deadline` in force. -/
structure Closes (engine : Engine) (epoch : DateTime) (deadline wakeAt : Option Instant) (log : List Event)
    (history : List (Turn State WhenPort TickPort Event)) (turn : Turn State WhenPort TickPort Event) : Prop where
  account : Account engine turn.call (log ++ turn.log)
  ends : turn.returned = .panicked ∨ turn.returned = .result .finished → Over (log ++ turn.log) (history ++ [turn])
  stays : turn.returned ≠ .panicked ∧ turn.returned ≠ .result .finished → turn.context.timerFiredAt = none ∧
    ∃ token, Phase epoch (turn.call.taken .when) (log ++ turn.log) turn.component token ∧
      Sole token deadline none (turn.context.wakeAt.or wakeAt)
  finishes : turn.returned = .result .finished → turn.call.Stopped FbpMessage.textOrUtf8 ∨
    Declines engine (turn.call.taken .when) ∨ Served (log ++ turn.log)

variable {state : State} {call : Call WhenPort TickPort} {context : NodeContext} {clock : Clock}
variable {deadline wakeAt : Option Instant} {turn : Turn State WhenPort TickPort Event}

theorem Over.nothing : Over [] history := fun _ _ begins _ => by cases begins

theorem Served.over (served : Served log) : Over log history := by
  obtain ⟨times, begins, last⟩ := served
  intro same next found outstanding
  rw [begins] at found
  cases found
  rw [last] at outstanding
  cases outstanding

/-- A call that ends for want of times, or without ever having had a schedule. -/
theorem Closes.ended (account : Account engine turn.call (log ++ turn.log))
    (ends : turn.returned = .panicked ∨ turn.returned = .result .finished)
    (why : log ++ turn.log = [] ∧ (turn.returned = .result .finished → Declines engine (turn.call.taken .when)) ∨
      Served (log ++ turn.log)) : Closes engine epoch deadline wakeAt log history turn := by
  refine ⟨account, fun _ => ?_, fun going => ?_, fun finished => ?_⟩
  · rcases why with ⟨empty, _⟩ | served
    · rw [empty]
      exact .nothing
    · exact served.over
  · rcases ends with panicked | finished
    · exact absurd panicked going.1
    · exact absurd finished going.2
  · rcases why with ⟨_, declines⟩ | served
    · exact .inr (.inl (declines finished))
    · exact .inr (.inr served)

theorem Closes.stopped (account : Account engine call log) (stopped : call.Stopped FbpMessage.textOrUtf8) :
    Closes engine epoch deadline wakeAt log history ⟨state, call, context, clock, [], .result .finished⟩ := by
  refine ⟨by rw [List.append_nil]; exact account, fun _ _ _ _ _ => ?_, fun going => absurd rfl going.2,
    fun _ => .inl stopped⟩
  exact ⟨_, List.mem_append_right _ (List.mem_singleton_self _), stopped⟩

/-- A call that leaves the component waiting, or still without a schedule. -/
theorem Closes.going {token : Option Instant} (account : Account engine turn.call (log ++ turn.log))
    (going : turn.returned ≠ .panicked ∧ turn.returned ≠ .result .finished)
    (unmarked : turn.context.timerFiredAt = none)
    (phase : Phase epoch (turn.call.taken .when) (log ++ turn.log) turn.component token)
    (sole : Sole token deadline none (turn.context.wakeAt.or wakeAt)) :
    Closes engine epoch deadline wakeAt log history turn := by
  refine ⟨account, fun ends => ?_, fun _ => ⟨unmarked, token, phase, sole⟩, fun finished => absurd finished going.2⟩
  rcases ends with panicked | finished
  · exact absurd panicked going.1
  · exact absurd finished going.2

/-- Before there is a schedule. -/
theorem configure_closes (account : Account engine call []) (nothing : call.taken .when = [])
    (unmarked : context.timerFiredAt = none) (asleep : context.wakeAt = none) :
    Closes engine epoch none context.wakeAt [] history (configure engine epoch new call context clock) := by
  unfold configure
  rcases call.pop_cases .when with ⟨_, popped⟩ | ⟨ip, _, next, _, popped, took, _, outs, _, _⟩
  · rw [popped]
    refine .going account ⟨by simp, by simp⟩ unmarked (.unread nothing rfl) ?_
    rw [asleep]
    exact .nothing
  · rw [popped]
    have taken : next.taken .when = [ip] := by
      have all := took.taken
      rw [nothing] at all
      exact all
    have sent : (next.outs .tick).sent = (call.outs .tick).sent := by rw [outs]
    have silent (log : List Event) (empty : log = []) : Account engine next ([] ++ log) := by
      rw [empty]
      refine ⟨sent.trans account.sent, .inl rfl, account.served, account.punctual⟩
    dsimp only
    cases text : ip.asText with
    | none => exact .ended (silent _ rfl) (.inl rfl) (.inl ⟨rfl, fun finished => by cases finished⟩)
    | some cronStr =>
        dsimp only
        cases parsed : engine.fromStr cronStr with
        | none => exact .ended (silent _ rfl) (.inr rfl) (.inl ⟨rfl, fun _ => ⟨ip, cronStr, taken, text, parsed⟩⟩)
        | some schedule =>
            dsimp only [OwnedScheduleIterator.next]
            have reads : Reads engine (next.taken .when) (engine.upcoming schedule (wall epoch clock.read.now)) :=
              ⟨ip, cronStr, schedule, _, taken, text, parsed, rfl⟩
            cases first : engine.upcoming schedule (wall epoch clock.read.now) 0 with
            | none => exact .ended (account.schedule reads sent) (.inr rfl) (.inr ⟨_, rfl, first⟩)
            | some nextTime =>
                obtain ⟨when, later, armed, due⟩ := armNextTimer_later epoch
                  (some ⟨engine.upcoming schedule (wall epoch clock.read.now), 0 + 1⟩) nextTime new.timerArmed context
                  clock.read
                dsimp only
                rw [armed]
                exact .going (account.schedule reads sent) ⟨by simp, by simp⟩ unmarked (.waits rfl first due)
                  (.asked when)

/-- The timer has fired while a time is outstanding. -/
theorem fire_closes (account : Account engine call log) (begins : log.head? = some (.scheduled times))
    (outstanding : times (ticks log).length = some next) (due : next ≤ wall epoch clock.now)
    (unmarked : context.timerFiredAt = none) (asleep : context.wakeAt = none) :
    Closes engine epoch none none log history
      (fire epoch ⟨some ⟨times, (ticks log).length + 1⟩, some next, true⟩ ⟨times, (ticks log).length + 1⟩ next call
        context clock) := by
  unfold fire
  rcases call.push_cases (.tick, .bytes []) with ⟨outs, pushed, sent, _⟩ | ⟨outs, refused, sent, _⟩
  · rw [pushed]
    have served : Account engine { call with outs } (log ++ [.ticked next (wall epoch clock.now)]) :=
      account.tick begins outstanding due rfl (sent .tick)
    have count : (ticks (log ++ [Event.ticked next (wall epoch clock.now)])).length = (ticks log).length + 1 := by
      rw [ticks_append, List.length_append]
      rfl
    have head : (log ++ [Event.ticked next (wall epoch clock.now)]).head? = some (.scheduled times) := by
      rw [List.head?_append, begins]
      rfl
    dsimp only [OwnedScheduleIterator.next]
    rw [← count]
    cases following : times (ticks (log ++ [Event.ticked next (wall epoch clock.now)])).length with
    | none =>
        refine .going served ⟨by simp, by simp⟩ unmarked (.exhausted head following) ?_
        rw [asleep]
        exact .nothing
    | some nextTime =>
        obtain ⟨when, later, armed, after⟩ := armNextTimer_later epoch
          (some ⟨times, (ticks (log ++ [Event.ticked next (wall epoch clock.now)])).length + 1⟩) nextTime false context clock
        dsimp only
        rw [armed]
        exact .going served ⟨by simp, by simp⟩ unmarked (.waits head following after) (.asked when)
  · rw [refused]
    have same : Account engine { call with outs } (log ++ []) := by
      rw [List.append_nil]
      exact account.congr rfl ((sent .tick).trans rfl)
    have after : next ≤ wall epoch (clock.read.now + defaultIoPollInterval) :=
      due.trans (wall_mono epoch (clock.now_le_read.trans (Nat.le_add_right _ _)))
    refine .going same ⟨by simp, by simp⟩ unmarked ?_ (.asked _)
    rw [List.append_nil]
    exact .waits begins outstanding after

theorem proceed_closes {token : Option Instant} (account : Account engine call log)
    (phase : Phase epoch (call.taken .when) log state token)
    (sole : Sole token deadline context.timerFiredAt context.wakeAt)
    (past : ∀ firedAt, context.timerFiredAt = some firedAt → firedAt ≤ clock.now) :
    Closes engine epoch deadline context.wakeAt log history (proceed engine epoch state call context clock) := by
  have same : Account engine call (log ++ []) := by rwa [List.append_nil]
  generalize fired : context.timerFiredAt = mark at sole
  generalize asked : context.wakeAt = request at sole
  cases phase with
  | unread nothing empty =>
      subst empty
      cases sole
      have configures : Closes engine epoch none context.wakeAt [] history (configure engine epoch new call context clock) :=
        configure_closes account nothing fired asked
      rw [asked] at configures
      exact configures
  | @waits times next when begins outstanding later =>
      -- without a fired timer nothing is done
      have idle (unmarked : context.timerFiredAt = none) (sole : Sole (some when) deadline none request) :
          Closes engine epoch deadline request log history
            (proceed engine epoch ⟨some ⟨times, (ticks log).length + 1⟩, some next, true⟩ call context clock) := by
        unfold proceed
        simp only [unmarked, Option.isSome_none, Bool.and_false, Bool.false_eq_true, if_false, Option.isSome_some, if_true]
        have waiting : Phase epoch (call.taken .when) (log ++ []) ⟨some ⟨times, (ticks log).length + 1⟩, some next, true⟩
            (some when) := by
          rw [List.append_nil]
          exact .waits begins outstanding later
        refine .going same ⟨by simp, by simp⟩ unmarked waiting ?_
        rw [asked, Option.or_self]
        exact sole
      cases sole with
      | deadline => exact idle fired (.deadline when)
      | asked => exact idle fired (.asked when)
      | fired =>
          have due : next ≤ wall epoch clock.now := later.trans (wall_mono epoch (past when fired))
          have fires : Closes engine epoch none none log history
              (fire epoch ⟨some ⟨times, (ticks log).length + 1⟩, some next, true⟩ ⟨times, (ticks log).length + 1⟩ next call
                { context with timerFiredAt := none } clock) :=
            fire_closes account begins outstanding due rfl asked
          unfold proceed
          simpa only [fired, Option.isSome_some, Bool.and_self, if_true] using fires
  | @exhausted times begins last =>
      cases sole
      have served : Served (log ++ []) := by
        rw [List.append_nil]
        exact ⟨times, begins, last⟩
      exact .ended same (.inr rfl) (.inr served)

theorem process_closes {token : Option Instant} (account : Account engine call log)
    (phase : Phase epoch (call.taken .when) log state token)
    (sole : Sole token deadline context.timerFiredAt context.wakeAt)
    (past : ∀ firedAt, context.timerFiredAt = some firedAt → firedAt ≤ clock.now) :
    Closes engine epoch deadline context.wakeAt log history (process engine epoch state call context clock) := by
  obtain ⟨signalsIn, signalsOut, heard, polled, stops⟩ := call.begin.poll_cases FbpMessage.textOrUtf8
  unfold process
  cases result : call.begin.poll FbpMessage.textOrUtf8 with
  | mk listened stop =>
  rw [result] at polled stops
  have same : listened = { call.begin with signalsIn, signalsOut, heard := call.begin.heard ++ heard } := polled
  have listens : Account engine listened log := by
    rw [same]
    exact account.congr rfl rfl
  cases stop with
  | true => exact .stopped listens (stops rfl)
  | false =>
      have phase : Phase epoch (listened.taken .when) log state token := by
        rw [same]
        exact phase
      exact proceed_closes listens phase sole past

end Cron

end Flowd
