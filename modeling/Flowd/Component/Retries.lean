import Flowd.Component.Clients

namespace Flowd

/-! How often and how soon the connectors try again. -/

open Transition

/-- The backoff before the retry of that number, with no rounding. -/
def RetryConfig.backoff (config : RetryConfig) (retry : Nat) : ℚ :=
  min (config.initialDelay * config.backoffMultiplier ^ (retry - 1)) config.maxDelay

namespace Attempt

def handedAt : Attempt → Option Instant
  | .handed now => some now
  | .failed _ _ => none

def failedAt : Attempt → Option Instant
  | .handed _ => none
  | .failed _ now => some now

def isTransient : Attempt → Bool
  | .handed _ => false
  | .failed errorType _ => errorType = .transient

end Attempt

def handed (trace : List Attempt) : List Instant := trace.filterMap Attempt.handedAt

def failed (trace : List Attempt) : List Instant := trace.filterMap Attempt.failedAt

/-- Each retry keeps some distance from the failure before it. -/
def Spaced (distance : Nat → ℚ) (trace : List Attempt) : Prop :=
  ∀ (k : Nat) (failure retry : Instant), (failed trace)[k]? = some failure → (handed trace)[k + 1]? = some retry →
    (failure : ℚ) + distance (k + 1) ≤ retry

/-- Nothing is handed over after a permanent error. -/
def GivenUp (trace : List Attempt) : Prop :=
  ∀ earlier now later, trace = earlier ++ .failed .permanent now :: later → handed later = []

/-- The attempts are bounded, they back off, and none follows a permanent error. -/
structure BacksOff (config : RetryConfig) (trace : List Attempt) : Prop where
  bounded : (handed trace).length ≤ config.maxRetries + 1
  spaced : Spaced config.backoff trace
  given_up : GivenUp trace

@[simp] theorem handed_append (left right : List Attempt) : handed (left ++ right) = handed left ++ handed right :=
  List.filterMap_append ..

@[simp] theorem failed_append (left right : List Attempt) : failed (left ++ right) = failed left ++ failed right :=
  List.filterMap_append ..

@[simp] theorem handed_handed (now : Instant) : handed [.handed now] = [now] := rfl
@[simp] theorem handed_failed (errorType : ErrorType) (now : Instant) : handed [.failed errorType now] = [] := rfl
@[simp] theorem failed_handed (now : Instant) : failed [.handed now] = [] := rfl
@[simp] theorem failed_failed (errorType : ErrorType) (now : Instant) : failed [.failed errorType now] = [now] := rfl

theorem Spaced.snoc_failed {distance : Nat → ℚ} {trace : List Attempt} {errorType : ErrorType} {now : Instant}
    (spaced : Spaced distance trace) (ahead : (handed trace).length ≤ (failed trace).length + 1) :
    Spaced distance (trace ++ [.failed errorType now]) := by
  intro k failure retry failing retrying
  rw [handed_append, handed_failed, List.append_nil] at retrying
  have within : k + 1 < (handed trace).length := (List.getElem?_eq_some_iff.mp retrying).1
  rw [failed_append, List.getElem?_append_left (by omega)] at failing
  exact spaced k failure retry failing retrying

/-- A retry that keeps its distance from the last failure. -/
theorem Spaced.snoc_handed {distance : Nat → ℚ} {trace : List Attempt} {now : Instant} (spaced : Spaced distance trace)
    (balanced : (handed trace).length = (failed trace).length)
    (last : ∀ failure : Instant, (failed trace).getLast? = some failure → (failure : ℚ) + distance (handed trace).length ≤ now) :
    Spaced distance (trace ++ [.handed now]) := by
  intro k failure retry failing retrying
  rw [failed_append, failed_handed, List.append_nil] at failing
  rw [handed_append, handed_handed] at retrying
  by_cases earlier : k + 1 < (handed trace).length
  · rw [List.getElem?_append_left earlier] at retrying
    exact spaced k failure retry failing retrying
  · have within : k < (failed trace).length := (List.getElem?_eq_some_iff.mp failing).1
    have final : k + 1 = (handed trace).length := by omega
    rw [final, List.getElem?_concat_length, Option.some.injEq] at retrying
    rw [← retrying, final]
    apply last
    rw [List.getLast?_eq_getElem?, ← failing, ← balanced, ← final, Nat.add_sub_cancel]

theorem GivenUp.snoc_failed {trace : List Attempt} (givenUp : GivenUp trace) (errorType : ErrorType) (now : Instant) :
    GivenUp (trace ++ [.failed errorType now]) := by
  intro earlier then_ later same
  rcases List.eq_nil_or_concat later with rfl | ⟨before, last, rfl⟩
  · rfl
  · rw [List.concat_eq_append, ← List.cons_append, ← List.append_assoc] at same
    obtain ⟨front, back⟩ := List.append_inj' same rfl
    cases back
    rw [List.concat_eq_append, handed_append, givenUp _ _ _ front, handed_failed, List.append_nil]

theorem GivenUp.of_transient {trace : List Attempt} (transient : ∀ now, .failed .permanent now ∉ trace) (now : Instant) :
    GivenUp (trace ++ [.handed now]) := by
  intro earlier then_ later same
  have member : Attempt.failed .permanent then_ ∈ trace ++ [.handed now] := by simp [same]
  rcases List.mem_append.mp member with inside | last
  · exact absurd inside (transient then_)
  · simp at last

namespace Connector

variable {Address Failure : Type} (connector : Connector Address Failure)

def isTransient (result : Address × Except Failure Unit) : Bool :=
  match result.2 with
  | .ok _ => false
  | .error failure => connector.classify failure = .transient

/-- How many transient errors are among some results. -/
def transients (results : List (Address × Except Failure Unit)) : Nat := results.countP connector.isTransient

/-- A first backoff is all that is ever waited for, and the failures are not counted. -/
def Mild (config : RetryConfig) (component : ClientComponent Address Failure) : Prop :=
  config.maxRetries = 0 ∨
    connector.transients component.channels.reported ≤ config.maxRetries ∧
      ∀ retry, 0 < retry → retry ≤ connector.transients component.channels.reported →
        config.backoff retry ≤ config.delay 1

/-- What a call does for the connection. -/
inductive Moved (component : ClientComponent Address Failure) (turn : ClientTurn Address Failure) : Prop where
  | still (log : turn.log = []) (state : turn.component.state = component.state ∨
        (∃ pendingMessages, turn.component.state = .connected pendingMessages) ∨ turn.component.state = .finished)
      (results : turn.component.channels.results <:+ component.channels.results)
  | began (now : Instant) (waiting : component.state = .waitingForConfig) (log : turn.log = [.handed now])
      (state : ∃ address, turn.component.state = .connecting address)
      (results : turn.component.channels.results <:+ component.channels.results)
  | retried (now : Instant) (address : Address) (retryState : RetryState)
      (retrying : component.state = .retryingConnection address retryState) (ready : retryState.nextRetryAt ≤ now)
      (log : turn.log = [.handed now]) (state : ∃ address, turn.component.state = .connecting address)
      (results : turn.component.channels.results <:+ component.channels.results)
  | failed (now : Instant) (address : Address) (retryState : RetryState)
      (connecting : component.state = .connecting address)
      (allowed : component.retryState.attempt < component.retryConfig.maxRetries)
      (log : turn.log = [.failed .transient now])
      (state : turn.component.state = .retryingConnection address retryState)
      (due : now + component.retryConfig.delay (component.retryState.attempt + 1) = retryState.nextRetryAt)
      (results : connector.transients turn.component.channels.results + 1 =
        connector.transients component.channels.results)
  | gaveUp (now : Instant) (errorType : ErrorType) (address : Address) (connecting : component.state = .connecting address)
      (log : turn.log = [.failed errorType now]) (state : turn.component.state = .finished)
      (results : connector.transients turn.component.channels.results + (if errorType = .transient then 1 else 0) =
        connector.transients component.channels.results)

/-- A call does not touch the configuration, leaves the counter at zero, and reports nothing. -/
structure Keeps (component next : ClientComponent Address Failure) : Prop where
  retryConfig : next.retryConfig = component.retryConfig
  attempt : component.retryState.attempt = 0 → next.retryState.attempt = 0
  reported : next.channels.reported = component.channels.reported

variable {connector} {component : ClientComponent Address Failure} {call : Call ConfInPort OutPort}
variable {context : NodeContext} {clock : Clock} {address : Address}

theorem settle_moved (state : component.state = .connecting address) :
    Moved connector component (connector.settle component call context clock address) ∧
      Keeps component (connector.settle component call context clock address).component := by
  unfold settle
  rcases component.channels.tryRecv_cases with ⟨_, _, received⟩ | ⟨_, _, received⟩ | ⟨tried, answer, rest, results, received⟩
  · rw [received]
    exact ⟨.still rfl (.inl state.symm) (List.suffix_refl _), rfl, id, rfl⟩
  · rw [received]
    exact ⟨.still rfl (.inl state.symm) (List.suffix_refl _), rfl, id, rfl⟩
  · rw [received]
    have suffix : rest <:+ component.channels.results := results ▸ List.suffix_cons _ _
    cases answer with
    | ok connected => exact ⟨.still rfl (.inr (.inl ⟨[], rfl⟩)) suffix, rfl, id, rfl⟩
    | error failure =>
        dsimp only
        split
        · next again =>
            cases classified : connector.classify failure with
            | permanent => simp [RetryState.shouldRetry, classified] at again
            | transient =>
                refine ⟨.failed _ address _ state (by simpa [RetryState.shouldRetry, classified] using again) rfl rfl rfl ?_,
                  rfl, fun _ => rfl, rfl⟩
                simp [results, transients, isTransient, classified]
        · refine ⟨.gaveUp _ (connector.classify failure) address state rfl rfl ?_, rfl, id, rfl⟩
          simp only [results, transients, isTransient, List.countP_cons, decide_eq_true_eq]

theorem retry_moved {retryState : RetryState} (state : component.state = .retryingConnection address retryState) :
    Moved connector component (retry component call context clock address retryState) ∧
      Keeps component (retry component call context clock address retryState).component := by
  unfold retry
  dsimp only
  split
  · next ready =>
      have ready : retryState.nextRetryAt ≤ clock.read.now := of_decide_eq_true ready
      rcases component.channels.trySend_cases address with ⟨_, _, sent⟩ | ⟨_, _, sent⟩ | ⟨_, sent⟩
      · rw [sent]
        exact ⟨.retried _ address retryState state ready rfl ⟨address, rfl⟩ (List.suffix_refl _), rfl, id, rfl⟩
      · rw [sent]
        exact ⟨.still rfl (.inl state.symm) (List.suffix_refl _), rfl, id, rfl⟩
      · rw [sent]
        exact ⟨.still rfl (.inr (.inr rfl)) (List.suffix_refl _), rfl, id, rfl⟩
  · exact ⟨.still rfl (.inl state.symm) (List.suffix_refl _), rfl, id, rfl⟩

theorem configuration_moved (state : component.state = .waitingForConfig) :
    Moved connector component (connector.configuration component call context clock) ∧
      Keeps component (connector.configuration component call context clock).component := by
  unfold configuration
  rcases call.pop_cases .conf with ⟨_, popped⟩ | ⟨urlMsg, _, _, _, popped, _⟩
  · rw [popped]
    dsimp only
    split
    · rcases component.channels.tryRecv_cases with ⟨_, _, received⟩ | ⟨_, _, received⟩ | ⟨_, answer, rest, results, received⟩
      · rw [received]
        exact ⟨.still rfl (.inr (.inr rfl)) (List.suffix_refl _), rfl, id, rfl⟩
      · rw [received]
        exact ⟨.still rfl (.inr (.inr rfl)) (List.suffix_refl _), rfl, id, rfl⟩
      · rw [received]
        have suffix : rest <:+ component.channels.results := results ▸ List.suffix_cons _ _
        cases answer with
        | ok connected => exact ⟨.still rfl (.inr (.inl ⟨[], rfl⟩)) suffix, rfl, id, rfl⟩
        | error failure => exact ⟨.still rfl (.inr (.inr rfl)) suffix, rfl, id, rfl⟩
    · exact ⟨.still rfl (.inr (.inr rfl)) (List.suffix_refl _), rfl, id, rfl⟩
  · rw [popped]
    dsimp only
    cases connector.configure urlMsg with
    | panics => exact ⟨.still rfl (.inr (.inr rfl)) (List.suffix_refl _), rfl, id, rfl⟩
    | invalid => exact ⟨.still rfl (.inr (.inr rfl)) (List.suffix_refl _), rfl, id, rfl⟩
    | address address =>
        dsimp only
        rcases component.channels.trySend_cases address with ⟨_, _, sent⟩ | ⟨_, _, sent⟩ | ⟨_, sent⟩
        · rw [sent]
          exact ⟨.began _ state rfl ⟨address, rfl⟩ (List.suffix_refl _), rfl, id, rfl⟩
        · rw [sent]
          exact ⟨.still rfl (.inl state.symm) (List.suffix_refl _), rfl, id, rfl⟩
        · rw [sent]
          exact ⟨.still rfl (.inr (.inr rfl)) (List.suffix_refl _), rfl, id, rfl⟩

theorem exchange_moved {pendingMessages : List FbpMessage} :
    Moved connector component (connector.exchange component call context clock pendingMessages) ∧
      Keeps component (connector.exchange component call context clock pendingMessages).component := by
  unfold exchange
  dsimp only
  split
  · exact ⟨.still rfl (.inr (.inr rfl)) (List.suffix_refl _), rfl, id, rfl⟩
  · split
    · exact ⟨.still rfl (.inr (.inr rfl)) (List.suffix_refl _), rfl, id, rfl⟩
    · split
      · exact ⟨.still rfl (.inr (.inl ⟨_, rfl⟩)) (List.suffix_refl _), rfl, id, rfl⟩
      · exact ⟨.still rfl (.inr (.inl ⟨_, rfl⟩)) (List.suffix_refl _), rfl, id, rfl⟩

theorem process_moved (connector : Connector Address Failure) (component : ClientComponent Address Failure)
    (call : Call ConfInPort OutPort) (context : NodeContext) (clock : Clock) :
    Moved connector component (connector.process component call context clock) ∧
      Keeps component (connector.process component call context clock).component := by
  unfold process
  dsimp only
  split
  · exact ⟨.still rfl (.inr (.inr rfl)) (List.suffix_refl _), rfl, id, rfl⟩
  · unfold proceed
    cases state : component.state with
    | waitingForConfig => exact configuration_moved state
    | connecting address => exact settle_moved state
    | retryingConnection address retryState => exact retry_moved state
    | connected pendingMessages => exact exchange_moved
    | finished => exact ⟨.still rfl (.inr (.inr rfl)) (List.suffix_refl _), rfl, id, rfl⟩

/-- How the attempts so far fit the state. -/
def Phase (config : RetryConfig) (trace : List Attempt) : ClientState Address → Prop
  | .waitingForConfig => trace = []
  | .connecting _ =>
      (handed trace).length = (failed trace).length + 1 ∧ trace.countP Attempt.isTransient = (failed trace).length ∧
        ∀ now, .failed .permanent now ∉ trace
  | .retryingConnection _ retryState =>
      (handed trace).length = (failed trace).length ∧ trace.countP Attempt.isTransient = (failed trace).length ∧
        (∀ now, .failed .permanent now ∉ trace) ∧ 0 < config.maxRetries ∧
          ∀ failure : Instant, (failed trace).getLast? = some failure → failure + config.delay 1 ≤ retryState.nextRetryAt
  | .connected _ => True
  | .finished => True

/-- The attempts of a run so far. -/
structure Tried (connector : Connector Address Failure) (config : RetryConfig) (trace : List Attempt)
    (component : ClientComponent Address Failure) : Prop where
  retryConfig : component.retryConfig = config
  attempt : component.retryState.attempt = 0
  spaced : Spaced (fun _ => config.delay 1) trace
  again : 1 < (handed trace).length → 0 < config.maxRetries
  seen : (handed trace).length ≤ trace.countP Attempt.isTransient + 1
  reported : trace.countP Attempt.isTransient + connector.transients component.channels.results ≤
    connector.transients component.channels.reported
  given_up : GivenUp trace
  phase : Phase config trace component.state

theorem Tried.slowsDown {config : RetryConfig} {trace : List Attempt} (tried : Tried connector config trace component)
    (mild : Mild connector config component) : BacksOff config trace := by
  have seen := tried.seen
  have reported := tried.reported
  rcases mild with never | ⟨few, short⟩
  · have single : (handed trace).length ≤ 1 := by
      by_contra more
      have again := tried.again (by omega)
      omega
    refine ⟨by omega, fun k failure retry _ retrying => ?_, tried.given_up⟩
    have within := (List.getElem?_eq_some_iff.mp retrying).1
    omega
  · refine ⟨by omega, fun k failure retry failing retrying => ?_, tried.given_up⟩
    have within := (List.getElem?_eq_some_iff.mp retrying).1
    have distance := tried.spaced k failure retry failing retrying
    have backoff := short (k + 1) (by omega) (by omega)
    exact le_trans (by gcongr) distance

theorem Tried.start (connector : Connector Address Failure) (config : RetryConfig) (now : Instant) :
    Tried connector config [] (Connector.new config now) where
  retryConfig := rfl
  attempt := rfl
  spaced k failure retry failing := by simp [failed] at failing
  again := by simp [handed]
  seen := by simp [handed]
  reported := by simp [Connector.new, IoChannels.new, transients]
  given_up earlier now later same := by simp at same
  phase := rfl

/-- What one call does to the attempts. -/
theorem Tried.moved {config : RetryConfig} {trace : List Attempt} {turn : ClientTurn Address Failure}
    (tried : Tried connector config trace component) (moved : Moved connector component turn)
    (keeps : Keeps component turn.component) : Tried connector config (trace ++ turn.log) turn.component := by
  have retryConfig := keeps.retryConfig.trans tried.retryConfig
  have attempt := keeps.attempt tried.attempt
  have phase := tried.phase
  have seen := tried.seen
  have reported := tried.reported
  cases moved with
  | still log state results =>
      rw [log, List.append_nil]
      have fewer : connector.transients turn.component.channels.results ≤ connector.transients component.channels.results :=
        results.sublist.countP_le
      refine ⟨retryConfig, attempt, tried.spaced, tried.again, seen, ?_, tried.given_up, ?_⟩
      · rw [keeps.reported]
        omega
      · rcases state with same | ⟨pendingMessages, connected⟩ | finished
        · rw [same]
          exact phase
        · rw [connected]
          trivial
        · rw [finished]
          trivial
  | began now waiting log state results =>
      obtain ⟨address, connecting⟩ := state
      rw [waiting] at phase
      have untried : trace = [] := phase
      have fewer : connector.transients turn.component.channels.results ≤ connector.transients component.channels.results :=
        results.sublist.countP_le
      rw [log, untried]
      rw [untried] at tried seen reported
      refine ⟨retryConfig, attempt, fun k failure retry failing => by simp at failing,
        fun more => by simp at more, by simp, ?_, .of_transient (by simp) now, ?_⟩
      · rw [keeps.reported]
        simp only [List.nil_append, List.countP_singleton, Attempt.isTransient, List.countP_nil] at reported ⊢
        simp only [Bool.false_eq_true, if_false]
        omega
      · rw [connecting]
        exact ⟨rfl, rfl, by simp⟩
  | retried now address retryState retrying ready log state results =>
      obtain ⟨address, connecting⟩ := state
      rw [retrying] at phase
      obtain ⟨balanced, transient, open_, allowed, due⟩ := phase
      have fewer : connector.transients turn.component.channels.results ≤ connector.transients component.channels.results :=
        results.sublist.countP_le
      have count : (trace ++ [Attempt.handed now]).countP Attempt.isTransient = trace.countP Attempt.isTransient := by
        simp [Attempt.isTransient]
      rw [log]
      refine ⟨retryConfig, attempt, tried.spaced.snoc_handed balanced fun failure last => ?_, fun _ => allowed, ?_, ?_,
        .of_transient open_ now, ?_⟩
      · have late := Nat.le_trans (due failure last) ready
        exact_mod_cast late
      · rw [count, handed_append, handed_handed, List.length_append, List.length_singleton]
        omega
      · rw [count, keeps.reported]
        omega
      · rw [connecting]
        refine ⟨by simp [balanced], by rw [count]; simpa using transient, fun then_ => ?_⟩
        simpa using open_ then_
  | failed now address retryState connecting allowed log state due results =>
      rw [connecting] at phase
      obtain ⟨ahead, transient, open_⟩ := phase
      have count : (trace ++ [Attempt.failed .transient now]).countP Attempt.isTransient =
          trace.countP Attempt.isTransient + 1 := by
        simp [Attempt.isTransient]
      rw [log]
      refine ⟨retryConfig, attempt, tried.spaced.snoc_failed (by omega), by simpa using tried.again, ?_, ?_,
        tried.given_up.snoc_failed _ now, ?_⟩
      · rw [count, handed_append, handed_failed, List.append_nil]
        omega
      · rw [count, keeps.reported]
        omega
      · rw [state]
        rw [tried.retryConfig, tried.attempt] at due
        rw [tried.retryConfig] at allowed
        refine ⟨by simpa using ahead, by rw [count]; simpa using transient, fun then_ => by simpa using open_ then_,
          by omega, fun failure last => ?_⟩
        simp only [failed_append, failed_failed, List.getLast?_concat, Option.some.injEq] at last
        rw [← last]
        exact Nat.le_of_eq due
  | gaveUp now errorType address connecting log state results =>
      rw [connecting] at phase
      obtain ⟨ahead, transient, open_⟩ := phase
      have count : (trace ++ [Attempt.failed errorType now]).countP Attempt.isTransient =
          trace.countP Attempt.isTransient + if errorType = .transient then 1 else 0 := by
        simp [Attempt.isTransient]
      rw [log]
      refine ⟨retryConfig, attempt, tried.spaced.snoc_failed (by omega), by simpa using tried.again, ?_, ?_,
        tried.given_up.snoc_failed _ now, by rw [state]; trivial⟩
      · rw [count, handed_append, handed_failed, List.append_nil]
        omega
      · rw [count, keeps.reported]
        omega

theorem Tried.work {config : RetryConfig} {trace : List Attempt} {move : WorkerMove (Except Failure Unit)}
    {channels : IoChannels Address (Except Failure Unit)} (tried : Tried connector config trace component)
    (worked : component.channels.work move = some channels) :
    Tried connector config trace { component with channels } := by
  have reported := tried.reported
  refine ⟨tried.retryConfig, tried.attempt, tried.spaced, tried.again, tried.seen, ?_, tried.given_up, tried.phase⟩
  rcases IoChannels.work_cases worked with ⟨_, _, _, _, _, rfl⟩ | ⟨tried, answer, _, _, _, _, _, added, room, full⟩ | ⟨_, rfl⟩
  · exact reported
  · have onwards : connector.transients channels.results ≤
        connector.transients component.channels.results + connector.transients [(tried, answer)] := by
      by_cases space : component.channels.results.length < defaultMaxPending
      · rw [room space, transients, List.countP_append]
        rfl
      · rw [full (Nat.le_of_not_lt space)]
        exact Nat.le_add_right _ _
    have total : connector.transients channels.reported =
        connector.transients component.channels.reported + connector.transients [(tried, answer)] := by
      rw [added, transients, List.countP_append]
      rfl
    show _ ≤ connector.transients channels.reported
    have fewer : trace.countP Attempt.isTransient + connector.transients channels.results ≤
        trace.countP Attempt.isTransient + connector.transients component.channels.results +
          connector.transients [(tried, answer)] := by omega
    show trace.countP Attempt.isTransient + connector.transients channels.results ≤ connector.transients channels.reported
    omega
  · exact reported

theorem Tried.step {config : RetryConfig} {trace events : List Attempt} {outpost next : Outpost connector.component}
    {affair : Affair connector.component} (tried : Tried connector config trace outpost.state)
    (step : outpost.step affair = some (next, events)) : Tried connector config (trace ++ events) next.state := by
  rcases Outpost.step_cases step with ⟨between, silent⟩ | ⟨context, schedule, later, _, rfl, rfl⟩
  · have silent : events = [] := silent
    rw [silent, List.append_nil]
    rcases between.worked with same | ⟨move, _, worked⟩
    · rw [same]
      exact tried
    · obtain ⟨channels, sent, changed⟩ := Option.map_eq_some_iff.mp worked
      rw [← changed]
      exact tried.work sent
  · obtain ⟨moved, keeps⟩ := process_moved connector outpost.state (outpost.ports.scheduled schedule) context
      ⟨outpost.now, later⟩
    exact tried.moved moved keeps

/-- The attempts back off in every run with a mild configuration and few failures. -/
theorem backsOff (connector : Connector Address Failure) (config : RetryConfig) (inCapacity : ConfInPort → Nat)
    (outCapacity : OutPort → Nat) (now : Instant) (outpost : Outpost connector.component) (trace : List Attempt)
    (run : (outpostMachine connector.component).Run anyMove
      (.start (Connector.new config now) inCapacity outCapacity now) trace outpost)
    (mild : Mild connector config outpost.state) : BacksOff config trace := by
  have tried : Tried connector config trace outpost.state :=
    Machine.Run.history (fun trace outpost => Tried connector config trace (Outpost.state outpost)) run
      (.start connector config now) fun _ _ tried step => tried.step step
  exact tried.slowsDown mild

/-- WSClient under the default configuration. -/
def wsStart : Outpost (WSClient.connector .offline).component :=
  .start (Connector.new .default 0) (fun _ => 1) (fun _ => 1) 0

def wsDispatch : Affair (WSClient.connector .offline).component :=
  .process { NodeContext.new "client" .normal 0 0 with remainingBudget := 10 } (fun _ => []) []

/-- An attempt fails, and the client is called when it has waited for a second. -/
def wsFailure : List (Affair (WSClient.connector .offline).component) :=
  [.work .take, .work (.report (.error .io)), wsDispatch, .elapse 1000000000, wsDispatch]

def wsConfigured : List (Affair (WSClient.connector .offline).component) :=
  [.feed ConfInPort.conf (.text "ws://localhost/"), wsDispatch]

/-- One failure. -/
def wsRetried : List (Affair (WSClient.connector .offline).component) := wsConfigured ++ wsFailure

/-- Four failures. -/
def wsPersistent : List (Affair (WSClient.connector .offline).component) :=
  wsConfigured ++ wsFailure ++ wsFailure ++ wsFailure ++ wsFailure

def wsAttempts (affairs : List (Affair (WSClient.connector .offline).component)) : List Attempt :=
  (outpostMachine _).reported wsStart affairs

theorem backsOff_retried :
    wsAttempts wsRetried = [.handed 0, .failed .transient 0, .handed 1000000000] ∧
      BacksOff .default (wsAttempts wsRetried) := by
  have run := Machine.run_played (outpostMachine (WSClient.connector .offline).component)
    (Machine.permits_any wsStart wsRetried) (by decide +kernel)
  refine ⟨by decide +kernel, backsOff _ .default _ _ _ _ _ run (.inr ⟨by decide +kernel, fun retry positive few => ?_⟩)⟩
  have single : (WSClient.connector .offline).transients
      ((outpostMachine _).played wsStart wsRetried).state.channels.reported = 1 := by decide +kernel
  have first : retry = 1 := by omega
  rw [first]
  decide +kernel

/-- The default allows for three retries; there are four. -/
theorem retries_unbounded :
    ¬ ∀ (connector : Connector String WSClient.Error) (config : RetryConfig) (inCapacity : ConfInPort → Nat)
      (outCapacity : OutPort → Nat) (now : Instant) (outpost : Outpost connector.component) (trace : List Attempt),
      (outpostMachine connector.component).Run anyMove
        (.start (Connector.new config now) inCapacity outCapacity now) trace outpost → BacksOff config trace := by
  intro backsOff
  have run := Machine.run_played (outpostMachine (WSClient.connector .offline).component)
    (Machine.permits_any wsStart wsPersistent) (by decide +kernel)
  have bounded := (backsOff _ _ _ _ _ _ _ run).bounded
  revert bounded
  decide +kernel

end Connector

end Flowd
