import Flowd.Component.Timed

namespace Flowd

/-! Delay: holds every packet back for a fixed time. -/

namespace Delay

/-- `scaled` parses a decimal number and multiplies it: `num_str.parse::<f64>` and
`(num * multiplier) as u64`. -/
structure Engine where
  scaled : String → Nat → Option Nat

/-- `str::parse::<u64>` -/
def parseU64 (text : String) : Option Nat :=
  let digits := match text.toList with
    | '+' :: rest => rest
    | all => all
  if !digits.isEmpty && digits.all Char.isDigit then
    let value := Nat.ofDigitChars 10 digits 0
    if value < 2 ^ 64 then some value else none
  else none

def stripPrefix (start text : List Char) : Option (List Char) :=
  if start.isPrefixOf text then some (text.drop start.length) else none

/-- Some duration, in nanoseconds; none is an error. -/
def parseDelay (engine : Engine) (s : String) : Option Nat :=
  let s := (trim s).toList
  let delayValue := if s.head? = some '?' then stripPrefix "?delay=".toList s else some s
  delayValue.bind fun value =>
    match parseU64 (.ofList value) with
    | some num => some (fromMicros num)
    | none =>
        let isNumber := fun c : Char => c.isDigit || c == '.'
        let numStr := String.ofList (value.filter isNumber)
        let unit := String.ofList (value.filter fun c => !isNumber c)
        let multiplier := match unit with
          | "us" => some 1
          | "ms" => some 1000
          | "s" => some 1000000
          | _ => none
        (multiplier.bind (engine.scaled numStr)).map fromMicros

structure DelayedPacket where
  data : FbpMessage
  readyTime : Instant

/-- What Delay does, with the time when it does it. -/
inductive Event where
  | accepted (ip : FbpMessage) (arrival : Instant)
  | released (packet : DelayedPacket) (now : Instant)

structure State where
  delay : Option Nat
  pendingPackets : List DelayedPacket

def new : State := ⟨none, []⟩

/-- What the loops of a call work on. -/
structure Work where
  pendingPackets : List DelayedPacket
  call : Call ConfInPort OutPort
  context : NodeContext
  clock : Clock
  log : List Event

/-- The loop over the packets that are due at `firedAt`; true if it panics. -/
def releaseDue (overflowChecks : Bool) (firedAt : Instant) : List DelayedPacket → Work → Work × Bool
  | [], work => ({ work with pendingPackets := [] }, false)
  | front :: rest, work =>
      if front.readyTime ≤ firedAt then
        match work.call.push (.out, front.data) with
        | (call, false) =>
            -- the packet goes back to the front
            let clock := work.clock.read
            ({ work with
              pendingPackets := front :: rest
              call
              clock
              context := { work.context with wakeAt := some (clock.now + defaultIoPollInterval) } }, false)
        | (call, true) =>
            let work := { work with
              pendingPackets := rest
              call := call.worked
              log := work.log ++ [.released front work.clock.now] }
            match work.context.spend overflowChecks with
            | none => (work, true)
            | some context => releaseDue overflowChecks firedAt rest { work with context }
      else ({ work with pendingPackets := front :: rest }, false)

/-- `if let Some(fired_at) = context.take_timer_fired()`; true if it panics. -/
def release (overflowChecks : Bool) (work : Work) : Work × Bool :=
  match work.context.timerFiredAt with
  | none => (work, false)
  | some firedAt =>
      releaseDue overflowChecks firedAt work.pendingPackets
        { work with context := { work.context with timerFiredAt := none } }

/-- `while context.remaining_budget > 0`.  Each round but the last takes a packet from IN, so their
number bounds the rounds. -/
def rounds (overflowChecks : Bool) (delay : Nat) : Nat → Work → Work × Option Returned
  | 0, work => (work, none)
  | count + 1, work =>
      if work.context.remainingBudget = 0 then (work, none)
      else
        match work.call.poll FbpMessage.textOrUtf8 with
        | (call, true) => ({ work with call }, some (.result .finished))
        | (call, false) =>
            match release overflowChecks { work with call } with
            | (work, true) => (work, some .panicked)
            | (work, false) =>
                match work.call.pop .inn with
                | none => (work, none)
                | some (ip, call) =>
                    let clock := work.clock.read
                    let work := { work with
                      pendingPackets := work.pendingPackets ++ [⟨ip, clock.now + delay⟩]
                      call := call.worked
                      clock
                      log := work.log ++ [.accepted ip clock.now] }
                    match work.context.spend overflowChecks with
                    | none => (work, some .panicked)
                    | some context => rounds overflowChecks delay count { work with context }

/-- The delay of this call; none is a panic. -/
def readDelay (engine : Engine) (state : State) (call : Call ConfInPort OutPort) :
    Option (Nat × Call ConfInPort OutPort) :=
  match state.delay with
  | some delay => some (delay, call)
  | none =>
      match call.pop .conf with
      | none => some (fromMicros 50, call)
      | some (configData, call) =>
          configData.asText.map fun configStr => ((parseDelay engine configStr).getD (fromMicros 50), call)

/-- What follows the loop, if it did not return. -/
def conclude (delay : Nat) (work : Work) : Turn State ConfInPort OutPort Event :=
  let state : State := ⟨some delay, work.pendingPackets⟩
  if work.call.isAbandoned .inn && work.pendingPackets.isEmpty then
    ⟨state, work.call, work.context, work.clock, work.log, .result .finished⟩
  else
    let context := match work.pendingPackets with
      | [] => work.context
      | front :: _ => { work.context with wakeAt := some front.readyTime }
    ⟨state, work.call, context, work.clock, work.log, work.call.didWork⟩

def process (engine : Engine) (overflowChecks : Bool) (state : State) (call : Call ConfInPort OutPort)
    (context : NodeContext) (clock : Clock) : Turn State ConfInPort OutPort Event :=
  match readDelay engine state call.begin with
  | none => ⟨state, call.begin, context, clock, [], .panicked⟩
  | some (delay, call) =>
      match call.poll FbpMessage.textOrUtf8 with
      | (call, true) =>
          ⟨{ state with delay := some delay }, call, context, clock, [], .result .finished⟩
      | (call, false) =>
          match rounds overflowChecks delay ((call.inbox .inn).length + 1)
            ⟨state.pendingPackets, call, context, clock, []⟩ with
          | (work, some returned) =>
              ⟨⟨some delay, work.pendingPackets⟩, work.call, work.context, work.clock, work.log, returned⟩
          | (work, none) => conclude delay work

def component (engine : Engine) (overflowChecks : Bool) : TimedComponent where
  In := ConfInPort
  Out := OutPort
  State := State
  Event := Event
  new
  process := process engine overflowChecks

/-! What a call does. -/

def arrivals (log : List Event) : List (FbpMessage × Instant) :=
  log.filterMap fun event =>
    match event with
    | .accepted ip arrival => some (ip, arrival)
    | .released .. => none

def releases (log : List Event) : List (DelayedPacket × Instant) :=
  log.filterMap fun event =>
    match event with
    | .accepted .. => none
    | .released packet now => some (packet, now)

/-- The entry that an arrival makes in the queue. -/
def delayed (delay : Nat) (arrival : FbpMessage × Instant) : DelayedPacket := ⟨arrival.1, arrival.2 + delay⟩

@[simp] theorem arrivals_append (left right : List Event) : arrivals (left ++ right) = arrivals left ++ arrivals right :=
  List.filterMap_append

@[simp] theorem releases_append (left right : List Event) : releases (left ++ right) = releases left ++ releases right :=
  List.filterMap_append

/-- From `before` to `after` these things were done, with that timer fired: what leaves the queue leaves
it at the front, for OUT, when it is due, and what comes from IN is appended. -/
structure Progress (delay : Nat) (fired : Option Instant) (before after : Work) (done : List Event) : Prop where
  log : after.log = before.log ++ done
  took : Call.Took .inn before.call after.call ((arrivals done).map Prod.fst)
  sent : (after.call.outs .out).sent = (before.call.outs .out).sent ++ (releases done).map fun release => release.1.data
  queue : before.pendingPackets ++ (arrivals done).map (delayed delay) =
    (releases done).map Prod.fst ++ after.pendingPackets
  clock : before.clock.now ≤ after.clock.now
  mark : after.context.timerFiredAt = none ∨ after.context.timerFiredAt = before.context.timerFiredAt
  heard : ∃ new, after.call.heard = before.call.heard ++ new
  due : ∀ release ∈ releases done, ∃ firedAt, fired = some firedAt ∧ release.1.readyTime ≤ firedAt ∧
    before.clock.now ≤ release.2

variable {delay : Nat} {fired : Option Instant} {before between after : Work} {done more : List Event}

theorem Progress.rest (ins : after.call.ins = before.call.ins)
    (sent : (after.call.outs .out).sent = (before.call.outs .out).sent)
    (heard : ∃ new, after.call.heard = before.call.heard ++ new) (log : after.log = before.log)
    (queue : after.pendingPackets = before.pendingPackets) (clock : before.clock.now ≤ after.clock.now)
    (mark : after.context.timerFiredAt = none ∨ after.context.timerFiredAt = before.context.timerFiredAt) :
    Progress delay fired before after [] := by
  refine ⟨?_, .of_eq ins, ?_, ?_, clock, mark, heard, fun _ none => absurd none List.not_mem_nil⟩
  · rw [log, List.append_nil]
  · rw [sent]
    exact (List.append_nil _).symm
  · rw [queue]
    exact List.append_nil _

theorem Progress.refl (work : Work) : Progress delay fired work work [] :=
  .rest rfl rfl ⟨[], (List.append_nil _).symm⟩ rfl rfl (Nat.le_refl _) (.inr rfl)

theorem Progress.trans (first : Progress delay fired before between done) (second : Progress delay fired between after more) :
    Progress delay fired before after (done ++ more) := by
  refine ⟨?_, ?_, ?_, ?_, first.clock.trans second.clock, ?_, ?_, ?_⟩
  · rw [second.log, first.log, List.append_assoc]
  · rw [arrivals_append, List.map_append]
    exact first.took.trans second.took
  · rw [second.sent, first.sent, releases_append, List.map_append, List.append_assoc]
  · rw [arrivals_append, List.map_append, ← List.append_assoc, first.queue, List.append_assoc, second.queue,
      releases_append, List.map_append, List.append_assoc]
  · rcases second.mark with none | same
    · exact .inl none
    · rw [same]
      exact first.mark
  · obtain ⟨new, heard⟩ := first.heard
    obtain ⟨later, also⟩ := second.heard
    exact ⟨new ++ later, by rw [also, heard, List.append_assoc]⟩
  · intro release member
    rw [releases_append, List.mem_append] at member
    rcases member with early | late
    · exact first.due release early
    · obtain ⟨firedAt, same, ready, time⟩ := second.due release late
      exact ⟨firedAt, same, ready, first.clock.trans time⟩

/-- A timer that had fired is only forgotten. -/
theorem Progress.forget {left : Option Instant} (progress : Progress delay left before after done)
    (forgotten : left = none ∨ left = fired) : Progress delay fired before after done := by
  refine ⟨progress.log, progress.took, progress.sent, progress.queue, progress.clock, progress.mark,
    progress.heard, fun release member => ?_⟩
  obtain ⟨firedAt, same, facts⟩ := progress.due release member
  rcases forgotten with none | kept
  · rw [none] at same
    cases same
  · exact ⟨firedAt, kept ▸ same, facts⟩

/-- A decrement of the budget is no progress of its own. -/
theorem Progress.spent (progress : Progress delay fired before after done) (budget : Nat) :
    Progress delay fired before { after with context := { after.context with remainingBudget := budget } } done :=
  ⟨progress.log, progress.took, progress.sent, progress.queue, progress.clock, progress.mark, progress.heard,
    progress.due⟩

/-- The panic of an underflow. -/
def Underflow (overflowChecks : Bool) (work : Work) : Prop :=
  overflowChecks = true ∧ work.context.remainingBudget = 0

/-- Due packets are released in order; those that remain keep their order. -/
theorem releaseDue_progress (overflowChecks : Bool) (delay : Nat) (firedAt : Instant) (queue : List DelayedPacket) (work : Work)
    (pending : work.pendingPackets = queue) :
    (∃ done, Progress delay (some firedAt) work (releaseDue overflowChecks firedAt queue work).1 done) ∧
      ((releaseDue overflowChecks firedAt queue work).2 = true →
        Underflow overflowChecks (releaseDue overflowChecks firedAt queue work).1) := by
  induction queue generalizing work with
  | nil => exact ⟨⟨[], .rest rfl rfl ⟨[], (List.append_nil _).symm⟩ rfl pending.symm (Nat.le_refl _) (.inr rfl)⟩,
      fun panicked => by cases panicked⟩
  | cons front rest ih =>
      unfold releaseDue
      split
      · next due =>
          rcases work.call.push_cases (.out, front.data) with ⟨outs, pushed, sent, _⟩ | ⟨outs, refused, sent, _⟩
          · rw [pushed]
            let released : Work := { work with
              pendingPackets := rest
              call := ({ work.call with outs } : Call ConfInPort OutPort).worked
              log := work.log ++ [.released front work.clock.now] }
            have step : Progress delay (some firedAt) work released [.released front work.clock.now] := by
              refine ⟨rfl, .of_eq rfl, ?_, ?_, Nat.le_refl _, .inr rfl, ⟨[], (List.append_nil _).symm⟩, ?_⟩
              · rw [show (released.call.outs .out).sent = (outs .out).sent from rfl, sent, addressed_singleton_self]
                rfl
              · rw [pending]
                exact List.append_nil _
              · intro release member
                cases List.mem_singleton.mp member
                exact ⟨firedAt, rfl, due, Nat.le_refl _⟩
            dsimp only
            rcases work.context.spend_cases overflowChecks with ⟨zero, checks, spent⟩ | ⟨budget, spent, _⟩
            · rw [spent]
              exact ⟨⟨_, step⟩, fun _ => ⟨checks, zero⟩⟩
            · rw [spent]
              obtain ⟨⟨done, later⟩, panics⟩ := ih { released with
                context := { released.context with remainingBudget := budget } } rfl
              exact ⟨⟨_, (step.spent budget).trans later⟩, panics⟩
          · rw [refused]
            refine ⟨⟨[], .rest rfl (sent .out) ⟨[], (List.append_nil _).symm⟩ rfl pending.symm ?_ (.inr rfl)⟩, ?_⟩
            · exact work.clock.now_le_read
            · intro panicked
              cases panicked
      · exact ⟨⟨[], .rest rfl rfl ⟨[], (List.append_nil _).symm⟩ rfl pending.symm (Nat.le_refl _) (.inr rfl)⟩,
          fun panicked => by cases panicked⟩

theorem release_progress (overflowChecks : Bool) (delay : Nat) (work : Work) :
    (∃ done, Progress delay work.context.timerFiredAt work (release overflowChecks work).1 done) ∧
      ((release overflowChecks work).2 = true → Underflow overflowChecks (release overflowChecks work).1) := by
  unfold release
  cases marked : work.context.timerFiredAt with
  | none => exact ⟨⟨[], .refl work⟩, fun panicked => by cases panicked⟩
  | some firedAt =>
      let taken : Work := { work with context := { work.context with timerFiredAt := none } }
      have take : Progress delay (some firedAt) work taken [] :=
        .rest rfl rfl ⟨[], (List.append_nil _).symm⟩ rfl rfl (Nat.le_refl _) (.inl rfl)
      obtain ⟨⟨done, released⟩, panics⟩ :=
        releaseDue_progress overflowChecks delay firedAt work.pendingPackets taken rfl
      exact ⟨⟨_, take.trans released⟩, panics⟩

/-- What the loop does, and why it is left. -/
structure Loops (overflowChecks : Bool) (delay : Nat) (before : Work) (after : Work × Option Returned) : Prop where
  progress : ∃ done, Progress delay before.context.timerFiredAt before after.1 done
  ends : after.2 = none ∨ after.2 = some (.result .finished) ∧ after.1.call.Stopped FbpMessage.textOrUtf8 ∨
    after.2 = some .panicked ∧ Underflow overflowChecks after.1
  /-- With an empty queue it is only left when IN is empty. -/
  drained : after.2 = none → after.1.pendingPackets = [] → after.1.call.inbox .inn = [] ∨
    before.context.remainingBudget = 0 ∧ before.pendingPackets = []

theorem rounds_loops (overflowChecks : Bool) (delay count : Nat) (work : Work)
    (enough : (work.call.inbox .inn).length < count) :
    Loops overflowChecks delay work (rounds overflowChecks delay count work) := by
  induction count generalizing work with
  | zero => exact absurd enough (Nat.not_lt_zero _)
  | succ count ih =>
      unfold rounds
      split
      · next spent => exact ⟨⟨[], .refl work⟩, .inl rfl, fun _ empty => .inr ⟨spent, empty⟩⟩
      · next positive =>
          obtain ⟨signalsIn, signalsOut, heard, polled, stops⟩ := work.call.poll_cases FbpMessage.textOrUtf8
          cases result : work.call.poll FbpMessage.textOrUtf8 with
          | mk listened stop =>
          rw [result] at polled stops
          have same : listened = { work.call with signalsIn, signalsOut, heard := work.call.heard ++ heard } := polled
          have listens : Progress delay work.context.timerFiredAt work { work with call := listened } [] := by
            rw [same]
            exact .rest rfl rfl ⟨heard, rfl⟩ rfl rfl (Nat.le_refl _) (.inr rfl)
          cases stop with
          | true => exact ⟨⟨[], listens⟩, .inr (.inl ⟨rfl, stops rfl⟩), fun returned => by cases returned⟩
          | false =>
              obtain ⟨⟨done, released⟩, panics⟩ :=
                release_progress overflowChecks delay { work with call := listened }
              have far := listens.trans released
              dsimp only
              generalize release overflowChecks { work with call := listened } = outcome at released panics far ⊢
              obtain ⟨freed, panicked⟩ := outcome
              cases panicked with
              | true => exact ⟨⟨_, far⟩, .inr (.inr ⟨rfl, panics rfl⟩), fun returned => by cases returned⟩
              | false =>
                  dsimp only
                  rcases freed.call.pop_cases .inn with ⟨empty, popped⟩ |
                    ⟨ip, rest, next, found, popped, took, left, outs, hears, _⟩
                  · rw [popped]
                    exact ⟨⟨_, far⟩, .inl rfl, fun _ _ => .inl empty⟩
                  · rw [popped]
                    let clock := freed.clock.read
                    let accepted : Work := { freed with
                      pendingPackets := freed.pendingPackets ++ [⟨ip, clock.now + delay⟩]
                      call := next.worked
                      clock
                      log := freed.log ++ [.accepted ip clock.now] }
                    have accepts : Progress delay work.context.timerFiredAt freed accepted [.accepted ip clock.now] := by
                      refine ⟨rfl, took.congr rfl, ?_, rfl, freed.clock.now_le_read, .inr rfl, ⟨[], ?_⟩,
                        fun _ none => absurd none List.not_mem_nil⟩
                      · rw [show accepted.call.outs = freed.call.outs from outs]
                        exact (List.append_nil _).symm
                      · rw [List.append_nil]
                        exact hears
                    have whole := far.trans accepts
                    dsimp only
                    rcases freed.context.spend_cases overflowChecks with ⟨zero, checks, spent⟩ | ⟨budget, spent, _⟩
                    · rw [spent]
                      exact ⟨⟨_, whole⟩, .inr (.inr ⟨rfl, checks, zero⟩), fun returned => by cases returned⟩
                    · rw [spent]
                      let going : Work := { accepted with
                        context := { accepted.context with remainingBudget := budget } }
                      have fewer : (going.call.inbox .inn).length < count := by
                        have sizes := congrArg List.length far.took.inbox
                        rw [found] at sizes
                        simp only [List.length_append, List.length_cons] at sizes
                        change (next.inbox .inn).length < count
                        rw [left]
                        omega
                      have later := ih going fewer
                      obtain ⟨more, onwards⟩ := later.progress
                      refine ⟨⟨_, (whole.spent budget).trans (onwards.forget (whole.spent budget).mark)⟩, later.ends,
                        fun returned empty => ?_⟩
                      rcases later.drained returned empty with drained | ⟨_, none⟩
                      · exact .inl drained
                      · exact absurd none (by simp [going, accepted])

theorem readDelay_keeps {engine : Engine} {state : State} {call prepared : Call ConfInPort OutPort}
    (read : readDelay engine state call = some (delay, prepared)) :
    (state.delay = some delay ∨ state.delay = none) ∧ prepared.ins .inn = call.ins .inn ∧
      prepared.outs = call.outs ∧ prepared.signalsIn = call.signalsIn := by
  unfold readDelay at read
  cases known : state.delay with
  | some found =>
      rw [known] at read
      cases read
      exact ⟨.inl rfl, rfl, rfl, rfl⟩
  | none =>
      rw [known] at read
      rcases call.pop_cases .conf with ⟨_, popped⟩ | ⟨packet, rest, next, _, popped, took, _, outs, _, _⟩
      · rw [popped] at read
        cases read
        exact ⟨.inr rfl, rfl, rfl, rfl⟩
      · rw [popped] at read
        obtain ⟨configStr, _, same⟩ := Option.map_eq_some_iff.mp read
        cases same
        exact ⟨.inr rfl, took.others _ ConfInPort.inn_ne_conf, outs, (Call.pop_keeps popped).1⟩

/-- How a call can go. -/
inductive Turns (overflowChecks : Bool) (state : State) (call : Call ConfInPort OutPort) (context : NodeContext)
    (clock : Clock) : Turn State ConfInPort OutPort Event → Prop where
  | unreadable (unset : state.delay = none) :
      Turns overflowChecks state call context clock ⟨state, call.begin, context, clock, [], .panicked⟩
  | ended {delay : Nat} {prepared : Call ConfInPort OutPort} {work : Work} {done : List Event} {returned : Returned}
      (either : state.delay = some delay ∨ state.delay = none) (inn : prepared.ins .inn = call.ins .inn)
      (outs : prepared.outs = call.outs)
      (progress : Progress delay context.timerFiredAt ⟨state.pendingPackets, prepared, context, clock, []⟩ work done)
      (why : returned = .result .finished ∧ work.call.Stopped FbpMessage.textOrUtf8 ∨
        returned = .panicked ∧ Underflow overflowChecks work) :
      Turns overflowChecks state call context clock
        ⟨⟨some delay, work.pendingPackets⟩, work.call, work.context, work.clock, work.log, returned⟩
  | concluded {delay : Nat} {prepared : Call ConfInPort OutPort} {work : Work} {done : List Event}
      (either : state.delay = some delay ∨ state.delay = none) (inn : prepared.ins .inn = call.ins .inn)
      (outs : prepared.outs = call.outs)
      (progress : Progress delay context.timerFiredAt ⟨state.pendingPackets, prepared, context, clock, []⟩ work done)
      (drained : 0 < context.remainingBudget → work.pendingPackets = [] → work.call.inbox .inn = []) :
      Turns overflowChecks state call context clock (conclude delay work)

theorem turns (engine : Engine) (overflowChecks : Bool) (state : State) (call : Call ConfInPort OutPort)
    (context : NodeContext) (clock : Clock) :
    Turns overflowChecks state call context clock (process engine overflowChecks state call context clock) := by
  unfold process
  cases read : readDelay engine state call.begin with
  | none =>
      refine .unreadable ?_
      unfold readDelay at read
      cases known : state.delay with
      | none => rfl
      | some delay =>
          rw [known] at read
          cases read
  | some found =>
      obtain ⟨delay, prepared⟩ := found
      obtain ⟨either, inn, outs, _⟩ := readDelay_keeps read
      obtain ⟨signalsIn, signalsOut, heard, polled, stops⟩ := prepared.poll_cases FbpMessage.textOrUtf8
      dsimp only
      cases result : prepared.poll FbpMessage.textOrUtf8 with
      | mk listened stop =>
      rw [result] at polled stops
      have same : listened = { prepared with signalsIn, signalsOut, heard := prepared.heard ++ heard } := polled
      have listenedInn : listened.ins .inn = call.ins .inn := by
        rw [same]
        exact inn
      have listenedOuts : listened.outs = call.outs := by
        rw [same]
        exact outs
      cases stop with
      | true =>
          have nothing : Progress delay context.timerFiredAt ⟨state.pendingPackets, listened, context, clock, []⟩
            ⟨state.pendingPackets, listened, context, clock, []⟩ [] := .refl _
          exact .ended either listenedInn listenedOuts nothing (.inl ⟨rfl, stops rfl⟩)
      | false =>
          have loops := rounds_loops overflowChecks delay ((listened.inbox .inn).length + 1)
            ⟨state.pendingPackets, listened, context, clock, []⟩ (Nat.lt_succ_self _)
          dsimp only
          generalize rounds overflowChecks delay ((listened.inbox .inn).length + 1)
            ⟨state.pendingPackets, listened, context, clock, []⟩ = outcome at loops ⊢
          obtain ⟨work, ended⟩ := outcome
          obtain ⟨done, progress⟩ := loops.progress
          cases ended with
          | none =>
              refine .concluded either listenedInn listenedOuts progress fun positive empty => ?_
              rcases loops.drained rfl empty with drained | ⟨spent, _⟩
              · exact drained
              · exact absurd spent (Nat.pos_iff_ne_zero.mp positive)
          | some returned =>
              refine .ended either listenedInn listenedOuts progress ?_
              rcases loops.ends with none | ⟨finished, stopped⟩ | ⟨panicked, underflow⟩
              · cases none
              · exact .inl ⟨Option.some.inj finished, stopped⟩
              · exact .inr ⟨Option.some.inj panicked, underflow⟩

end Delay

end Flowd
