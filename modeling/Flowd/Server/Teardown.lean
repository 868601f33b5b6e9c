import Flowd.Server.Lifecycle

namespace Flowd.Server

open Transition

/-! Which run a network:stop tears down. -/

/-- The starts among the events. -/
def startsOf : List Event → List Attempt
  | [] => []
  | .started attempt _ :: rest => attempt :: startsOf rest
  | _ :: rest => startsOf rest

/-- The starts since a network:stop was acknowledged. -/
def startedSince (number : Nat) : List Event → List Attempt
  | [] => []
  | .acknowledged found :: rest => if found = number then startsOf rest else startedSince number rest
  | _ :: rest => startedSince number rest

/-- No network:stop tells anything to stop that was started after it was acknowledged. -/
def StopsOwnRun (trace : List Event) : Prop :=
  ∀ before number attempts ok live after, trace = before ++ .stopped (some number) attempts ok live :: after →
    ∀ attempt ∈ attempts, attempt ∉ startedSince number before

theorem startsOf_append (first rest : List Event) : startsOf (first ++ rest) = startsOf first ++ startsOf rest := by
  induction first with
  | nil => rfl
  | cons event later ih =>
      cases event with
      | started attempt live => exact congrArg (attempt :: ·) ih
      | acknowledged number => exact ih
      | stopped number attempts ok live => exact ih

theorem startedSince_append {number : Nat} {first : List Event} (rest : List Event)
    (known : .acknowledged number ∈ first) :
    startedSince number (first ++ rest) = startedSince number first ++ startsOf rest := by
  induction first with
  | nil => cases known
  | cons event later ih =>
      cases event with
      | started attempt live => exact ih (by simpa using known)
      | stopped found attempts ok live => exact ih (by simpa using known)
      | acknowledged found =>
          rw [List.cons_append, startedSince, startedSince]
          split
          · exact startsOf_append later rest
          · next other => exact ih (by simpa [Ne.symm other] using known)

theorem startedSince_new {number : Nat} {first : List Event} (unknown : .acknowledged number ∉ first) :
    startedSince number (first ++ [.acknowledged number]) = [] := by
  induction first with
  | nil => simp [startedSince, startsOf]
  | cons event later ih =>
      cases event with
      | started attempt live => exact ih (by simpa using unknown)
      | stopped found attempts ok live => exact ih (by simpa using unknown)
      | acknowledged found =>
          have other : found ≠ number := by
            intro same
            subst same
            exact unknown List.mem_cons_self
          rw [List.cons_append, startedSince, if_neg other]
          exact ih fun member => unknown (List.mem_cons_of_mem _ member)

/-- One more event keeps the property if it does. -/
theorem StopsOwnRun.snoc {trace : List Event} {event : Event} (own : StopsOwnRun trace)
    (last : ∀ number attempts ok live, event = .stopped (some number) attempts ok live →
      ∀ attempt ∈ attempts, attempt ∉ startedSince number trace) : StopsOwnRun (trace ++ [event]) := by
  intro before number attempts ok live after split
  rcases append_eq_append_cons split with ⟨middle, past, _⟩ | ⟨middle, now, earlier⟩
  · exact own before number attempts ok live middle past
  · cases middle with
    | nil =>
        cases now
        rw [earlier, List.append_nil]
        exact last number attempts ok live rfl
    | cons head rest => simp at now

namespace Life

variable {instantiate : String → ProcPorts → Except StartFailure Unit} {life after : Life} {events trace : List Event}

/-- No start succeeds while a network:stop is still to be carried out. -/
def Undisturbed (instantiate : String → ProcPorts → Except StartFailure Unit) (life : Life) (move : Move) : Prop :=
  ∀ graph target, life.task move = some (.start graph target) → life.server.Starts instantiate target →
    life.teardowns = []

/-- The stops that are still to be carried out: nothing was started since they were
acknowledged. -/
structure Pending (trace : List Event) (life : Life) : Prop where
  known : ∀ number ∈ life.teardowns, .acknowledged number ∈ trace
  quiet : ∀ number ∈ life.teardowns, startedSince number trace = []
  fresh : ∀ number, life.acknowledged ≤ number → .acknowledged number ∉ trace
  own : StopsOwnRun trace

namespace Pending

theorem fewer (pending : Pending trace life) (teardowns : ∀ number ∈ after.teardowns, number ∈ life.teardowns)
    (acknowledged : after.acknowledged = life.acknowledged) : Pending trace after where
  known := fun number member => pending.known number (teardowns number member)
  quiet := fun number member => pending.quiet number (teardowns number member)
  fresh := by
    rw [acknowledged]
    exact pending.fresh
  own := pending.own

theorem stop {number : Option Nat} {attempts live : List Attempt} {ok : Bool} (pending : Pending trace life)
    (quiet : ∀ found, number = some found → startedSince found trace = []) :
    Pending (trace ++ [.stopped number attempts ok live]) life where
  known := fun number member => List.mem_append_left _ (pending.known number member)
  quiet := by
    intro number member
    rw [startedSince_append _ (pending.known number member), pending.quiet number member]
    rfl
  fresh := by
    intro number later member
    rcases List.mem_append.mp member with past | now
    · exact pending.fresh number later past
    · cases List.mem_singleton.mp now
  own := by
    apply pending.own.snoc
    intro found attempts ok live same attempt _
    cases same
    rw [quiet found rfl]
    exact List.not_mem_nil

theorem acknowledge (pending : Pending trace life) (teardowns : after.teardowns = life.acknowledged :: life.teardowns)
    (acknowledged : after.acknowledged = life.acknowledged + 1) :
    Pending (trace ++ [.acknowledged life.acknowledged]) after where
  known := by
    rw [teardowns, List.forall_mem_cons]
    exact ⟨List.mem_append_right _ List.mem_cons_self,
      fun number member => List.mem_append_left _ (pending.known number member)⟩
  quiet := by
    rw [teardowns, List.forall_mem_cons]
    refine ⟨startedSince_new (pending.fresh life.acknowledged (Nat.le_refl _)), ?_⟩
    intro number member
    rw [startedSince_append _ (pending.known number member), pending.quiet number member]
    rfl
  fresh := by
    rw [acknowledged]
    intro number later member
    rcases List.mem_append.mp member with past | now
    · exact pending.fresh number (by omega) past
    · cases List.mem_singleton.mp now
      omega
  own := pending.own.snoc fun number attempts ok live same => (nomatch same)

theorem start {attempt : Attempt} {live : List Attempt} (pending : Pending trace life)
    (none : after.teardowns = []) (acknowledged : after.acknowledged = life.acknowledged) :
    Pending (trace ++ [.started attempt live]) after where
  known := by
    rw [none]
    exact fun number member => absurd member List.not_mem_nil
  quiet := by
    rw [none]
    exact fun number member => absurd member List.not_mem_nil
  fresh := by
    rw [acknowledged]
    intro number later member
    rcases List.mem_append.mp member with past | now
    · exact pending.fresh number later past
    · cases List.mem_singleton.mp now
  own := pending.own.snoc fun number attempts ok live same => (nomatch same)

end Pending

theorem step_pending {move : Move} (pending : Pending trace life)
    (undisturbed : life.Undisturbed instantiate move) (done : life.step instantiate move = some (after, events)) :
    Pending (trace ++ events) after := by
  rcases step_cases done with ⟨_, _, same, silent⟩ | ⟨work, asked, worked⟩ |
    ⟨number, late, _, waiting, stopped⟩ | ⟨late, _, stopped⟩ | ⟨attempt, _, same, silent⟩
  · subst same silent
    rw [List.append_nil]
    exact pending
  · by_cases start : ∃ graph target, work = .start graph target
    · obtain ⟨graph, target, same⟩ := start
      subst same
      rcases start_work_cases worked with ⟨_, failed⟩ | ⟨starts, launch⟩
      · rw [failed.events, List.append_nil]
        exact pending.fewer (fun number member => by rwa [← failed.teardowns]) failed.acknowledged
      · rw [launch.events]
        exact pending.start (launch.teardowns.trans (undisturbed graph target asked starts)) launch.acknowledged
    · have facts := plain_cases worked fun graph target same => start ⟨graph, target, same⟩
      rcases facts.teardowns with ⟨silent, teardowns, acknowledged⟩ | ⟨told, teardowns, acknowledged⟩
      · rw [silent, List.append_nil]
        exact pending.fewer (fun number member => by rwa [← teardowns]) acknowledged
      · rw [told]
        exact pending.acknowledge teardowns acknowledged
  · obtain ⟨_, same, told⟩ := stop_cases stopped
    have quiet : ∀ found, some number = some found → startedSince found trace = [] := by
      intro found same
      cases same
      exact pending.quiet number waiting
    rw [told, same]
    exact (pending.stop quiet).fewer (fun other member => List.mem_of_mem_erase member) rfl
  · obtain ⟨_, same, told⟩ := stop_cases stopped
    rw [told, same]
    have unnumbered : ∀ found, (none : Option Nat) = some found → startedSince found trace = [] := by
      intro found same
      cases same
    exact (pending.stop unnumbered).fewer (fun number member => member) rfl
  · subst same silent
    rw [List.append_nil]
    exact pending.fewer (fun number member => member) rfl

/-- Otherwise the start is torn down by a network:stop that came before it. -/
theorem disturbed {move : Move} (pending : Pending trace life) (done : life.step instantiate move = some (after, events))
    (wrong : ¬ life.Undisturbed instantiate move) :
    ∃ number last later, after.step instantiate (.teardown number ⟨[], [], false⟩) = some (last, later) ∧
      ¬ StopsOwnRun (trace ++ events ++ later) := by
  unfold Undisturbed at wrong
  push Not at wrong
  obtain ⟨graph, target, asked, starts, some⟩ := wrong
  obtain ⟨number, waiting⟩ := List.exists_mem_of_ne_nil _ some
  rcases step_cases done with ⟨idle, _⟩ | ⟨work, isWork, worked⟩ | ⟨_, _, isTeardown, _⟩ | ⟨_, isWatchdog, _⟩ | ⟨_, isFinish, _⟩
  · rw [asked] at idle
    cases idle
  · rw [asked] at isWork
    cases isWork
    rcases start_work_cases worked with ⟨fails, _⟩ | ⟨_, launch⟩
    · exact absurd starts fails
    · obtain ⟨inports, server⟩ := launch.server
      have still : number ∈ after.teardowns := by
        rw [launch.teardowns]
        exact waiting
      have signalled : life.server.attempts ∈ after.signalled false := by
        have entry : ⟨(life.server.objects target).network.name, life.server.attempts⟩ ∈
            after.server.runtime.schedulers.entries := by
          rw [server]
          exact AList.mem_lookup_iff.mp (AList.lookup_insert _)
        exact List.mem_append_left _ (List.mem_append_left _ (List.mem_map.mpr ⟨_, entry, rfl⟩))
      have since : life.server.attempts ∈ startedSince number (trace ++ events) := by
        rw [launch.events, startedSince_append _ (pending.known number waiting)]
        exact List.mem_append_right _ List.mem_cons_self
      refine ⟨number, _, _, by rw [step, if_pos still]; rfl, ?_⟩
      intro own
      exact own (trace ++ events) number _ _ _ [] rfl _ signalled since
  · rw [isTeardown] at asked
    cases asked
  · rw [isWatchdog] at asked
    cases asked
  · rw [isFinish] at asked
    cases asked

/-- As long as no start succeeds while a network:stop is still to be carried out, no
network:stop tells anything to stop that was started later. -/
theorem stops_own_run {server : FlowdServer}
    (run : (machine instantiate).Run (Undisturbed instantiate) (fresh server) trace life) :
    StopsOwnRun trace ∧ ∀ move after events, life.step instantiate move = some (after, events) →
      ¬ life.Undisturbed instantiate move →
        ∃ number last later, after.step instantiate (.teardown number ⟨[], [], false⟩) = some (last, later) ∧
          ¬ StopsOwnRun (trace ++ events ++ later) := by
  have pending : Pending trace life := by
    apply run.history Pending
    · refine ⟨fun _ member => absurd member List.not_mem_nil, fun _ member => absurd member List.not_mem_nil,
        fun _ _ member => absurd member List.not_mem_nil, ?_⟩
      intro before number attempts ok live after split
      simp at split
    · intro trace state action next events _ undisturbed pending step
      exact step_pending pending undisturbed step
  exact ⟨pending.own, fun move after events step wrong => disturbed pending step wrong⟩

/-- A network is started and then stopped. -/
def oneRun : List Move := [.request (.start none "main"), .request (.stop none "main"), .teardown 0 ⟨[], [], false⟩]

theorem stops_own_run_oneRun :
    let life := (machine constructAny).played (fresh twoGraphs) oneRun
    let trace := (machine constructAny).reported (fresh twoGraphs) oneRun
    StopsOwnRun trace ∧ ∀ move after events, life.step constructAny move = some (after, events) →
      ¬ life.Undisturbed constructAny move →
        ∃ number last later, after.step constructAny (.teardown number ⟨[], [], false⟩) = some (last, later) ∧
          ¬ StopsOwnRun (trace ++ events ++ later) := by
  have undisturbed : (machine constructAny).Permits (Undisturbed constructAny) (fresh twoGraphs) oneRun := by
    refine ⟨fun _ _ _ _ => rfl, ?_, ?_, trivial⟩
    · intro graph target asked
      cases asked
    · intro graph target asked
      cases asked
  exact stops_own_run ((machine constructAny).run_played undisturbed rfl)

/-- The run ends by itself while a network:stop is on its way, and the next one is told to
stop. -/
theorem stops_next_run : ∃ trace life,
    (machine constructAny).Run anyMove (fresh twoGraphs) trace life ∧ ¬ StopsOwnRun trace := by
  have run := (machine constructAny).run_played (Machine.permits_any (fresh twoGraphs)
    [.request (.start none "main"), .finish 0, .request (.stop none "main"), .watchdogStop ⟨[], [], false⟩,
      .request (.start none "main"), .teardown 0 ⟨[], [], false⟩]) rfl
  refine ⟨_, _, run, ?_⟩
  intro own
  exact own [.started 0 [0], .acknowledged 0, .stopped none [0] true [], .started 1 [1]] 0 [1, 1] true [] [] rfl 1
    List.mem_cons_self (by decide)

end Life

/-! How many schedulers are live. -/

/-- A start leaves no other scheduler thread live, and a stop that returns `Ok` leaves none. -/
def Event.Alone : Event → Prop
  | .started attempt live => live = [attempt]
  | .stopped _ _ true live => live = []
  | _ => True

namespace Life

variable {instantiate : String → ProcPorts → Except StartFailure Unit} {life after : Life} {events trace : List Event}

/-- Where a scheduler thread outlives its grace period, so does another thread. -/
def InTime (life : Life) (move : Move) : Prop :=
  (∀ number late, move = .teardown number late → late.schedulers ≠ [] → life.server.runtime.TimesOut late false) ∧
    ∀ late, move = .watchdogStop late → late.schedulers ≠ [] → life.server.runtime.TimesOut late true

/-- The live threads are tracked, and nothing is tracked when a start is possible. -/
structure Tracked (life : Life) : Prop where
  live : ∀ attempt ∈ life.live, ∃ name, ⟨name, attempt⟩ ∈ life.server.runtime.schedulerThreads.entries
  single : life.server.runtime.schedulerThreads.entries.length ≤ 1
  idle : life.server.runtime.boundaryThreads.entries = [] → life.server.runtime.watchdogThread = none →
    life.server.runtime.schedulerThreads.entries = []

theorem Tracked.none_live (tracked : Tracked life) (boundary : life.server.runtime.boundaryThreads.entries = [])
    (watchdog : life.server.runtime.watchdogThread = none) : life.live = [] := by
  apply List.eq_nil_iff_forall_not_mem.mpr
  intro attempt member
  obtain ⟨name, entry⟩ := tracked.live attempt member
  rw [tracked.idle boundary watchdog] at entry
  exact List.not_mem_nil entry

theorem mem_joined {late : Late} {attempt : Attempt} : attempt ∈ life.joined late ↔
    attempt ∈ life.live ∧
      ∀ name, ⟨name, attempt⟩ ∈ life.server.runtime.schedulerThreads.entries → name ∈ late.schedulers := by
  unfold joined
  rw [List.mem_filter]
  apply and_congr_right
  intro _
  rw [Bool.not_eq_true', List.any_eq_false]
  constructor
  · intro late name entry
    by_contra inTime
    exact late ⟨name, attempt⟩ entry (by simpa using inTime)
  · intro late entry member joins
    rw [Bool.and_eq_true, beq_iff_eq, Bool.not_eq_true', ← Bool.not_eq_true, List.contains_iff_mem] at joins
    obtain ⟨same, inTime⟩ := joins
    subst same
    exact inTime (late entry.1 member)

/-- A stop that leaves nothing behind but schedulers leaves no scheduler either. -/
theorem stop_tracked {number : Option Nat} {late : Late} {watchdogAllExited : Bool} (tracked : Tracked life)
    (inTime : late.schedulers ≠ [] → life.server.runtime.TimesOut late watchdogAllExited)
    (done : life.stop number late watchdogAllExited = some (after, events)) :
    Tracked after ∧ ∀ event ∈ events, event.Alone := by
  obtain ⟨_, same, told⟩ := stop_cases done
  obtain ⟨schedulers, boundary, watchdog⟩ := life.server.runtime.stop_threads late watchdogAllExited
  have punctual : ¬ life.server.runtime.TimesOut late watchdogAllExited → late.schedulers = [] := fun none =>
    by_contra fun some => none (inTime some)
  subst same told
  constructor
  · refine ⟨?_, ?_, ?_⟩
    · intro attempt member
      obtain ⟨live, tooLate⟩ := mem_joined.mp member
      obtain ⟨name, entry⟩ := tracked.live attempt live
      dsimp only
      rw [schedulers]
      exact ⟨name, List.mem_filter.mpr ⟨entry, List.contains_iff_mem.mpr (tooLate name entry)⟩⟩
    · dsimp only
      rw [schedulers]
      exact (List.length_filter_le _ _).trans tracked.single
    · dsimp only
      rw [schedulers, boundary, watchdog]
      intro noBoundary noWatchdog
      have none : ¬ life.server.runtime.TimesOut late watchdogAllExited := by
        intro timesOut
        rcases timesOut with ⟨name, tooLate, present⟩ | ⟨outside, tooLate, some⟩
        · obtain ⟨entry, member, same⟩ := List.mem_map.mp present
          subst same
          have kept : entry ∈ life.server.runtime.boundaryThreads.entries.filter
              fun thread => late.boundary.contains thread.1 :=
            List.mem_filter.mpr ⟨member, List.contains_iff_mem.mpr tooLate⟩
          have none : _ = [] := noBoundary
          exact List.eq_nil_iff_forall_not_mem.mp none entry kept
        · rw [outside, tooLate] at noWatchdog
          exact some noWatchdog
      rw [punctual none]
      exact List.filter_eq_nil_iff.mpr fun _ _ => Bool.false_ne_true
  · intro event member
    cases List.mem_singleton.mp member
    rcases life.server.runtime.stop_status late watchdogAllExited with ⟨_, failed, _⟩ | ⟨none, succeeded, _⟩
    · obtain ⟨failure, failed⟩ := Option.ne_none_iff_exists'.mp failed
      rw [failed]
      trivial
    · rw [succeeded]
      apply List.eq_nil_iff_forall_not_mem.mpr
      intro attempt member
      obtain ⟨live, tooLate⟩ := mem_joined.mp member
      obtain ⟨name, entry⟩ := tracked.live attempt live
      have late := tooLate name entry
      rw [punctual none] at late
      exact List.not_mem_nil late

theorem start_tracked {graph : String} {target : GraphRef} (tracked : Tracked life)
    (starts : life.server.Starts instantiate target) (launch : Launch graph target life after events) :
    Tracked after ∧ ∀ event ∈ events, event.Alone := by
  have passes := starts.1
  simp only [Runtime.refusesStart, Bool.or_eq_false_iff, Bool.not_eq_false', List.isEmpty_iff,
    Option.isSome_eq_false_iff, Option.isNone_iff_eq_none] at passes
  obtain ⟨⟨_, boundary⟩, watchdog⟩ := passes
  have nobody := tracked.none_live boundary watchdog
  obtain ⟨inports, server⟩ := launch.server
  have entries : after.server.runtime.schedulerThreads.entries =
      [⟨(life.server.objects target).network.name, life.server.attempts⟩] := by
    rw [server]
    change (AList.insert (life.server.objects target).network.name life.server.attempts
      life.server.runtime.schedulerThreads).entries = _
    rw [AList.entries_insert, tracked.idle boundary watchdog]
    rfl
  constructor
  · refine ⟨?_, ?_, ?_⟩
    · rw [launch.live, nobody, entries]
      intro attempt member
      cases List.mem_singleton.mp member
      exact ⟨_, List.mem_cons_self⟩
    · rw [entries]
      exact Nat.le_refl 1
    · intro _ none
      rw [server] at none
      cases none
  · rw [launch.events, nobody]
    intro event member
    cases List.mem_singleton.mp member
    rfl

theorem step_tracked {move : Move} (tracked : Tracked life) (inTime : life.InTime move)
    (done : life.step instantiate move = some (after, events)) : Tracked after ∧ ∀ event ∈ events, event.Alone := by
  rcases step_cases done with ⟨_, _, same, silent⟩ | ⟨work, _, worked⟩ |
    ⟨number, late, isTeardown, _, stopped⟩ | ⟨late, isWatchdog, stopped⟩ | ⟨attempt, _, same, silent⟩
  · subst same silent
    exact ⟨tracked, fun event member => absurd member List.not_mem_nil⟩
  · by_cases start : ∃ graph target, work = .start graph target
    · obtain ⟨graph, target, same⟩ := start
      subst same
      rcases start_work_cases worked with ⟨_, failed⟩ | ⟨starts, launch⟩
      · rw [failed.events]
        refine ⟨?_, fun event member => absurd member List.not_mem_nil⟩
        constructor
        · rw [failed.live, failed.schedulerThreads]
          exact tracked.live
        · rw [failed.schedulerThreads]
          exact tracked.single
        · rw [failed.boundaryThreads, failed.watchdogThread, failed.schedulerThreads]
          exact tracked.idle
      · exact start_tracked tracked starts launch
    · have facts := plain_cases worked fun graph target same => start ⟨graph, target, same⟩
      constructor
      · constructor
        · rw [facts.live, facts.threads.schedulerThreads]
          exact tracked.live
        · rw [facts.threads.schedulerThreads]
          exact tracked.single
        · rw [facts.threads.boundaryThreads, facts.threads.watchdogThread, facts.threads.schedulerThreads]
          exact tracked.idle
      · intro event member
        rcases facts.teardowns with ⟨silent, _⟩ | ⟨told, _⟩
        · rw [silent] at member
          exact absurd member List.not_mem_nil
        · rw [told] at member
          cases List.mem_singleton.mp member
          trivial
  · have same : Tracked { life with teardowns := life.teardowns.erase number } :=
      ⟨tracked.live, tracked.single, tracked.idle⟩
    exact stop_tracked same (inTime.1 number late isTeardown) stopped
  · exact stop_tracked tracked (inTime.2 late isWatchdog) stopped
  · subst same silent
    refine ⟨⟨?_, tracked.single, tracked.idle⟩, fun event member => absurd member List.not_mem_nil⟩
    intro other member
    exact tracked.live other (List.mem_of_mem_erase member)

/-- Otherwise the stop returns `Ok` and leaves a scheduler thread live. -/
theorem stop_leaves {number : Option Nat} {late : Late} {watchdogAllExited : Bool} (tracked : Tracked life)
    (tooLate : late.schedulers ≠ []) (inTime : ¬ life.server.runtime.TimesOut late watchdogAllExited)
    (done : life.stop number late watchdogAllExited = some (after, events)) : ∃ event ∈ events, ¬ event.Alone := by
  obtain ⟨possible, _, told⟩ := stop_cases done
  obtain ⟨name, member⟩ := List.exists_mem_of_ne_nil _ tooLate
  have live := List.all_eq_true.mp possible name member
  split at live
  · next attempt found =>
      have entry : ⟨name, attempt⟩ ∈ life.server.runtime.schedulerThreads.entries := AList.mem_lookup_iff.mp found
      obtain ⟨only, same⟩ := List.length_eq_one_iff.mp
        (Nat.le_antisymm tracked.single (List.length_pos_of_mem entry))
      have left : attempt ∈ life.joined late := by
        apply mem_joined.mpr
        refine ⟨List.contains_iff_mem.mp live, ?_⟩
        intro other present
        rw [same] at entry present
        cases List.mem_singleton.mp entry
        cases List.mem_singleton.mp present
        exact member
      rw [told]
      refine ⟨_, List.mem_cons_self, ?_⟩
      rcases life.server.runtime.stop_status late watchdogAllExited with ⟨timesOut, _⟩ | ⟨_, succeeded, _⟩
      · exact absurd timesOut inTime
      · rw [succeeded]
        intro none
        have empty : life.joined late = [] := none
        rw [empty] at left
        exact List.not_mem_nil left
  · cases live

theorem step_leaves {move : Move} (tracked : Tracked life) (wrong : ¬ life.InTime move)
    (done : life.step instantiate move = some (after, events)) : ∃ event ∈ events, ¬ event.Alone := by
  rw [InTime, Classical.not_and_iff_not_or_not] at wrong
  push Not at wrong
  rcases wrong with ⟨number, late, same, tooLate, inTime⟩ | ⟨late, same, tooLate, inTime⟩
  · subst same
    rcases step_cases done with ⟨_, ⟨_, isRequest⟩, _⟩ | ⟨_, asked, _⟩ | ⟨_, _, isTeardown, _, stopped⟩ |
      ⟨_, isWatchdog, _⟩ | ⟨_, isFinish, _⟩
    · cases isRequest
    · cases asked
    · cases isTeardown
      have same : Tracked { life with teardowns := life.teardowns.erase number } :=
        ⟨tracked.live, tracked.single, tracked.idle⟩
      exact stop_leaves same tooLate inTime stopped
    · cases isWatchdog
    · cases isFinish
  · subst same
    rcases step_cases done with ⟨_, ⟨_, isRequest⟩, _⟩ | ⟨_, asked, _⟩ | ⟨_, _, isTeardown, _⟩ |
      ⟨_, isWatchdog, stopped⟩ | ⟨_, isFinish, _⟩
    · cases isRequest
    · cases asked
    · cases isTeardown
    · cases isWatchdog
      exact stop_leaves tracked tooLate inTime stopped
    · cases isFinish

/-- As long as no scheduler thread alone outlives its grace period, a stop that returns
`Ok` leaves no scheduler thread live, and a start only its own. -/
theorem one_live_scheduler {components : List ComponentInfo} {secrets : HashMap String (String × AccessLevel)}
    {loaded : HashMap String Stored.Graph} {active : String}
    (run : (machine instantiate).Run InTime (fresh (load components secrets loaded active)) trace life) :
    (∀ event ∈ trace, event.Alone) ∧ ∀ move after events, life.step instantiate move = some (after, events) →
      ((∀ event ∈ events, event.Alone) ↔ life.InTime move) := by
  have facts : Tracked life ∧ ∀ event ∈ trace, event.Alone := by
    apply run.history fun trace life => Tracked life ∧ ∀ event ∈ trace, event.Alone
    · refine ⟨⟨?_, Nat.zero_le 1, fun _ _ => rfl⟩, fun event member => absurd member List.not_mem_nil⟩
      intro attempt member
      cases member
    · intro trace state action next events _ inTime earlier step
      obtain ⟨tracked, alone⟩ := step_tracked earlier.1 inTime step
      refine ⟨tracked, ?_⟩
      intro event member
      rcases List.mem_append.mp member with past | now
      · exact earlier.2 event past
      · exact alone event now
  refine ⟨facts.2, ?_⟩
  intro move after events step
  constructor
  · intro alone
    by_contra wrong
    obtain ⟨event, member, others⟩ := step_leaves facts.1 wrong step
    exact others (alone event member)
  · intro inTime
    exact (step_tracked facts.1 inTime step).2

/-- The watchdog outlives the grace period together with the scheduler. -/
def slowShutdown : List Move :=
  [.request (.start none "main"), .request (.stop none "main"), .teardown 0 ⟨["main"], [], true⟩]

theorem one_live_scheduler_slowShutdown :
    let life := (machine constructAny).played (fresh twoGraphs) slowShutdown
    (∀ event ∈ (machine constructAny).reported (fresh twoGraphs) slowShutdown, event.Alone) ∧
      ∀ move after events, life.step constructAny move = some (after, events) →
        ((∀ event ∈ events, event.Alone) ↔ life.InTime move) := by
  have inTime : (machine constructAny).Permits InTime (fresh twoGraphs) slowShutdown := by
    refine ⟨⟨?_, ?_⟩, ⟨?_, ?_⟩, ⟨?_, ?_⟩, trivial⟩
    · intro number late same
      cases same
    · intro late same
      cases same
    · intro number late same
      cases same
    · intro late same
      cases same
    · intro number late same _
      cases same
      exact .inr ⟨rfl, rfl, Option.some_ne_none 0⟩
    · intro late same
      cases same
  exact one_live_scheduler ((machine constructAny).run_played inTime rfl)

/-- Only the scheduler outlives its grace period; the next start puts a second one next
to it. -/
theorem two_live_schedulers : ∃ trace life,
    (machine constructAny).Run anyMove (fresh twoGraphs) trace life ∧
      (.stopped (some 0) [0, 0] true [0] ∈ trace ∧ ¬ (Event.stopped (some 0) [0, 0] true [0]).Alone) ∧
      .started 1 [1, 0] ∈ trace ∧ ¬ (Event.started 1 [1, 0]).Alone := by
  have run := (machine constructAny).run_played (Machine.permits_any (fresh twoGraphs)
    [.request (.start none "main"), .request (.stop none "main"), .teardown 0 ⟨["main"], [], false⟩,
      .request (.start none "main")]) rfl
  exact ⟨_, _, run, ⟨by decide, List.cons_ne_nil 0 []⟩, by decide, fun alone => absurd (List.cons.inj alone).2 (by decide)⟩

end Life

end Flowd.Server
