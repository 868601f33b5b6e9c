import Mathlib.Tactic.Common

namespace Flowd.Transition

/-! Labelled machines that report events.

A machine moves by actions and reports, for each move, the events an observer
sees.  A run may be limited to the moves a predicate permits, so that one set of
rules serves both all runs and the runs that keep clear of some branch.
-/

structure Machine (σ α ε : Type) where
  step : σ → α → Option (σ × List ε)

variable {σ α ε : Type}

/-- The runs from `first` whose every move is permitted, with the events they
report in order. -/
inductive Machine.Run (machine : Machine σ α ε) (permitted : σ → α → Prop) (first : σ) :
    List ε → σ → Prop where
  | nil : machine.Run permitted first [] first
  | snoc {trace events : List ε} {state next : σ} {action : α} :
      machine.Run permitted first trace state → permitted state action →
      machine.step state action = some (next, events) →
      machine.Run permitted first (trace ++ events) next

/-- The predicate that permits every move. -/
def anyMove : σ → α → Prop := fun _ _ => True

namespace Machine

variable {machine : Machine σ α ε} {permitted : σ → α → Prop}
variable {first state next : σ} {trace events : List ε}

theorem Run.weaken {fewer : σ → α → Prop} (run : machine.Run fewer first trace state)
    (implies : ∀ state action, fewer state action → permitted state action) :
    machine.Run permitted first trace state := by
  induction run with
  | nil => exact .nil
  | snoc _ allowed step ih => exact .snoc ih (implies _ _ allowed) step

theorem Run.any (run : machine.Run permitted first trace state) :
    machine.Run anyMove first trace state :=
  run.weaken fun _ _ _ => trivial

/-- A run keeps to stricter moves if every state that it can reach does. -/
theorem Run.restrict {stricter : σ → α → Prop} (run : machine.Run permitted first trace state)
    (keeps : ∀ {earlier here action}, machine.Run permitted first earlier here → permitted here action →
      stricter here action) : machine.Run stricter first trace state := by
  induction run with
  | nil => exact .nil
  | snoc earlier allowed step ih => exact .snoc ih (keeps earlier allowed) step

theorem Run.append {later : List ε} (left : machine.Run permitted first trace state)
    (right : machine.Run permitted state later next) :
    machine.Run permitted first (trace ++ later) next := by
  induction right with
  | nil => simpa using left
  | snoc _ allowed step ih =>
      rw [← List.append_assoc]
      exact .snoc ih allowed step

theorem Run.single {action : α} (allowed : permitted first action)
    (step : machine.step first action = some (next, events)) :
    machine.Run permitted first events next := by
  simpa using Run.snoc .nil allowed step

/-- The history rule: a relation between the events so far and the state is kept
if every permitted move of a run keeps it. -/
theorem Run.history (relation : List ε → σ → Prop)
    (run : machine.Run permitted first trace state) (start : relation [] first)
    (keeps : ∀ {trace state action next events}, machine.Run permitted first trace state →
      permitted state action → relation trace state →
      machine.step state action = some (next, events) → relation (trace ++ events) next) :
    relation trace state := by
  induction run with
  | nil => exact start
  | snoc earlier allowed step ih => exact keeps earlier allowed ih step

theorem Run.invariant (invariant : σ → Prop)
    (run : machine.Run permitted first trace state) (start : invariant first)
    (keeps : ∀ {state action next events}, permitted state action → invariant state →
      machine.step state action = some (next, events) → invariant next) :
    invariant state :=
  Run.history (fun _ => invariant) run start fun _ allowed holds step => keeps allowed holds step

/-- The account rule: what is spent along a run has been gained along it or was there before, if every
permitted move from a state of the invariant keeps the account. -/
theorem Run.account (invariant : σ → Prop) (left : σ → Nat) (spent gained : ε → Bool)
    (run : machine.Run permitted first trace state) (start : invariant first)
    (keeps : ∀ {state action next events}, permitted state action → invariant state →
      machine.step state action = some (next, events) → invariant next ∧
        events.countP spent + left next ≤ left state + events.countP gained) :
    invariant state ∧ trace.countP spent + left state ≤ left first + trace.countP gained := by
  refine Run.history (fun trace state => invariant state ∧
    trace.countP spent + left state ≤ left first + trace.countP gained) run ⟨start, by simp⟩ ?_
  rintro trace state action next events _ allowed ⟨holds, balance⟩ step
  obtain ⟨after, paid⟩ := keeps allowed holds step
  refine ⟨after, ?_⟩
  rw [List.countP_append, List.countP_append]
  omega

/-- Plays a list of actions; the executable counterpart of a run. -/
def play (machine : Machine σ α ε) : σ → List α → Option (σ × List ε)
  | state, [] => some (state, [])
  | state, action :: rest =>
      match machine.step state action with
      | none => none
      | some (next, events) =>
          match machine.play next rest with
          | none => none
          | some (last, later) => some (last, events ++ later)

/-- Every action of the list is permitted where it is played. -/
def Permits (machine : Machine σ α ε) (permitted : σ → α → Prop) : σ → List α → Prop
  | _, [] => True
  | state, action :: rest =>
      permitted state action ∧
        match machine.step state action with
        | none => True
        | some (next, _) => machine.Permits permitted next rest

instance decidablePermits [∀ state, DecidablePred (permitted state)] :
    (first : σ) → (actions : List α) → Decidable (machine.Permits permitted first actions)
  | _, [] => inferInstanceAs (Decidable True)
  | state, action :: rest =>
      match found : machine.step state action with
      | none => decidable_of_iff (permitted state action) (by simp [Permits, found])
      | some (next, _) =>
          have := decidablePermits next rest
          decidable_of_iff (permitted state action ∧ machine.Permits permitted next rest) (by simp [Permits, found])

theorem run_of_play {actions : List α} (allowed : machine.Permits permitted first actions)
    (played : machine.play first actions = some (state, trace)) :
    machine.Run permitted first trace state := by
  induction actions generalizing first trace with
  | nil =>
      simp only [play, Option.some.injEq, Prod.mk.injEq] at played
      obtain ⟨rfl, rfl⟩ := played
      exact .nil
  | cons action rest ih =>
      obtain ⟨here, onwards⟩ := allowed
      cases step : machine.step first action with
      | none => simp [play, step] at played
      | some result =>
          obtain ⟨next, events⟩ := result
          cases remaining : machine.play next rest with
          | none => simp [play, step, remaining] at played
          | some result =>
              obtain ⟨last, later⟩ := result
              simp only [play, step, remaining, Option.some.injEq, Prod.mk.injEq] at played
              obtain ⟨rfl, rfl⟩ := played
              simp only [step] at onwards
              exact (Run.single here step).append (ih onwards remaining)

/-- The state a list of actions leads to, and what it reports. -/
def played (machine : Machine σ α ε) (first : σ) (actions : List α) : σ :=
  ((machine.play first actions).getD (first, [])).1

def reported (machine : Machine σ α ε) (first : σ) (actions : List α) : List ε :=
  ((machine.play first actions).getD (first, [])).2

theorem run_played (machine : Machine σ α ε) {actions : List α} (allowed : machine.Permits permitted first actions)
    (possible : (machine.play first actions).isSome = true) :
    machine.Run permitted first (machine.reported first actions) (machine.played first actions) := by
  obtain ⟨⟨last, events⟩, found⟩ := Option.isSome_iff_exists.mp possible
  unfold played reported
  rw [found]
  exact run_of_play allowed found

theorem permits_any (first : σ) (actions : List α) :
    machine.Permits anyMove first actions := by
  induction actions generalizing first with
  | nil => trivial
  | cons action rest ih =>
      refine ⟨trivial, ?_⟩
      cases machine.step first action with
      | none => trivial
      | some result => exact ih result.1

/-- The winding rule: if every permitted move from a state of the invariant uses something up, what
there is at first bounds the number of moves. -/
theorem play_length (invariant : σ → Prop) (left : σ → Nat)
    (keeps : ∀ {state action next events}, permitted state action → invariant state →
      machine.step state action = some (next, events) → invariant next ∧ left next < left state)
    {actions : List α} (start : invariant first) (allowed : machine.Permits permitted first actions)
    (played : machine.play first actions = some (state, trace)) :
    invariant state ∧ actions.length + left state ≤ left first := by
  induction actions generalizing first trace with
  | nil =>
      simp only [play, Option.some.injEq, Prod.mk.injEq] at played
      obtain ⟨rfl, rfl⟩ := played
      exact ⟨start, by simp⟩
  | cons action rest ih =>
      obtain ⟨here, onwards⟩ := allowed
      cases step : machine.step first action with
      | none => simp [play, step] at played
      | some result =>
          obtain ⟨next, events⟩ := result
          cases remaining : machine.play next rest with
          | none => simp [play, step, remaining] at played
          | some result =>
              obtain ⟨last, later⟩ := result
              simp only [play, step, remaining, Option.some.injEq, Prod.mk.injEq] at played
              obtain ⟨rfl, rfl⟩ := played
              simp only [step] at onwards
              obtain ⟨after, less⟩ := keeps here start step
              obtain ⟨holds, most⟩ := ih after onwards remaining
              refine ⟨holds, ?_⟩
              rw [List.length_cons]
              omega

/-- And from every state there is a way to one in which no permitted move is possible. -/
theorem play_to_end (invariant : σ → Prop) (left : σ → Nat)
    (keeps : ∀ {state action next events}, permitted state action → invariant state →
      machine.step state action = some (next, events) → invariant next ∧ left next < left state)
    (start : invariant first) :
    ∃ actions last trace, machine.Permits permitted first actions ∧ machine.play first actions = some (last, trace) ∧
      invariant last ∧ ∀ action, permitted last action → machine.step last action = none := by
  induction bound : left first using Nat.strongRecOn generalizing first with
  | _ bound ih =>
      by_cases stuck : ∀ action, permitted first action → machine.step first action = none
      · exact ⟨[], first, [], trivial, rfl, start, stuck⟩
      · simp only [not_forall] at stuck
        obtain ⟨action, allowed, possible⟩ := stuck
        obtain ⟨⟨next, events⟩, step⟩ := Option.ne_none_iff_exists'.mp possible
        obtain ⟨after, less⟩ := keeps allowed start step
        obtain ⟨actions, last, trace, onwards, played, holds, ended⟩ := ih (left next) (bound ▸ less) after rfl
        refine ⟨action :: actions, last, events ++ trace, ⟨allowed, ?_⟩, ?_, holds, ended⟩
        · rw [step]
          exact onwards
        · simp only [play, step, played]

end Machine

/-- After every event that triggers it, either a releasing event has followed or
the state keeps the promise. -/
def Owes (kept : σ → Prop) (trigger release : ε → Prop) (trace : List ε) (state : σ) : Prop :=
  ∀ before event after, trace = before ++ event :: after → trigger event →
    (∃ later ∈ after, release later) ∨ kept state

theorem append_eq_append_cons {left right before after : List ε} {event : ε}
    (same : left ++ right = before ++ event :: after) :
    (∃ middle, left = before ++ event :: middle ∧ after = middle ++ right) ∨
      ∃ middle, right = middle ++ event :: after ∧ before = left ++ middle := by
  rcases List.append_eq_append_iff.mp same with ⟨middle, rfl, right_eq⟩ | ⟨middle, rfl, split⟩
  · exact .inr ⟨middle, right_eq, rfl⟩
  · cases middle with
    | nil => exact .inr ⟨[], by simpa using split.symm, by simp⟩
    | cons head middle =>
        simp only [List.cons_append, List.cons.injEq] at split
        obtain ⟨rfl, rfl⟩ := split
        exact .inl ⟨middle, rfl, rfl⟩

/-- The move that reports an event, with the runs before and after it. -/
theorem Machine.Run.split_at {machine : Machine σ α ε} {permitted : σ → α → Prop}
    {first last : σ} {trace before after : List ε} {event : ε}
    (run : machine.Run permitted first trace last) (split : trace = before ++ event :: after) :
    ∃ earlier state action next events front back later, machine.Run permitted first earlier state ∧
      permitted state action ∧ machine.step state action = some (next, events) ∧
      machine.Run permitted next later last ∧ events = front ++ event :: back ∧
      before = earlier ++ front ∧ after = back ++ later := by
  induction run generalizing after with
  | nil => simp at split
  | @snoc trace events state next action prior allowed step ih =>
      rcases append_eq_append_cons split with ⟨middle, past, rfl⟩ | ⟨middle, now, rfl⟩
      · obtain ⟨earlier, from_, taken, into, reported, front, back, later, run, permits, stepped, rest, shape,
          rfl, rfl⟩ := ih past
        exact ⟨earlier, from_, taken, into, reported, front, back, later ++ events, run, permits, stepped,
          rest.snoc allowed step, shape, rfl, by simp⟩
      · exact ⟨trace, state, action, next, events, middle, after, [], prior, allowed, step, .nil, now, rfl,
          by simp⟩

/-- The obligation rule: a promise that every triggering move makes, and that
every move keeps unless it reports a release, is owed along every run. -/
theorem Machine.Run.owes {machine : Machine σ α ε} {permitted : σ → α → Prop}
    {first last : σ} {trace : List ε} {kept : σ → Prop} {trigger release : ε → Prop}
    (run : machine.Run permitted first trace last)
    (makes : ∀ {earlier state action next events before event after},
      machine.Run permitted first earlier state → permitted state action →
      machine.step state action = some (next, events) →
      events = before ++ event :: after → trigger event →
      (∃ later ∈ after, release later) ∨ kept next)
    (keeps : ∀ {earlier state action next events},
      machine.Run permitted first earlier state → permitted state action →
      machine.step state action = some (next, events) → kept state →
      (∃ later ∈ events, release later) ∨ kept next) :
    Owes kept trigger release trace last := by
  refine Machine.Run.history (Owes kept trigger release) run ?_ ?_
  · intro before event after empty
    simp at empty
  · intro earlier state action next events prior allowed owed step before event after split fired
    rcases append_eq_append_cons split with ⟨middle, past, rfl⟩ | ⟨middle, now, _⟩
    · rcases owed before event middle past fired with ⟨later, member, releases⟩ | holds
      · exact .inl ⟨later, List.mem_append_left _ member, releases⟩
      · rcases keeps prior allowed step holds with ⟨later, member, releases⟩ | holds
        · exact .inl ⟨later, List.mem_append_right _ member, releases⟩
        · exact .inr holds
    · exact makes prior allowed step now fired

/-- No barred event follows an event that triggers the bar. -/
def Bars (trigger barred : ε → Prop) (trace : List ε) : Prop :=
  ∀ before event after, trace = before ++ event :: after → trigger event →
    ∀ later ∈ after, ¬ barred later

/-- The bar rule: a triggering move leads into a set of states that no move leaves
and from which no move reports a barred event. -/
theorem Machine.Run.bars {machine : Machine σ α ε} {permitted : σ → α → Prop}
    {first last : σ} {trace : List ε} {trigger barred : ε → Prop} (inside : σ → Prop)
    (run : machine.Run permitted first trace last)
    (makes : ∀ {earlier state action next events before event after},
      machine.Run permitted first earlier state → permitted state action →
      machine.step state action = some (next, events) →
      events = before ++ event :: after → trigger event →
      (∀ later ∈ after, ¬ barred later) ∧ inside next)
    (keeps : ∀ {state action next events}, permitted state action →
      machine.step state action = some (next, events) → inside state →
      (∀ event ∈ events, ¬ barred event) ∧ inside next) :
    Bars trigger barred trace := by
  refine Machine.Run.history (fun trace _ => Bars trigger barred trace) run ?_ ?_
  · intro before event after empty
    simp at empty
  · intro earlier state action next events prior allowed barredSoFar step before event after split fired
    have owed : Owes inside trigger (fun _ => False) earlier state :=
      prior.owes (fun prior allowed step split fired => .inr (makes prior allowed step split fired).2)
        (fun _ allowed step holds => .inr (keeps allowed step holds).2)
    rcases append_eq_append_cons split with ⟨middle, past, rfl⟩ | ⟨middle, now, _⟩
    · intro later member
      rcases List.mem_append.mp member with member | member
      · exact barredSoFar before event middle past fired later member
      · rcases owed before event middle past fired with ⟨_, _, impossible⟩ | holds
        · exact impossible.elim
        · exact (keeps allowed step holds).1 later member
    · exact (makes prior allowed step now fired).1

end Flowd.Transition
