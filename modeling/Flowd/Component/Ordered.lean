import Flowd.Component.Forwarding
import Flowd.Lib.Sequence

namespace Flowd

/-! When the components that keep a packet their output refuses also keep the order. -/

open Transition

variable {ι ο π : Type} [DecidableEq ι] [DecidableEq ο]

namespace Buffering

variable (spec : Buffering ι ο π)

/-- How many packets the loop takes before it hears a stop; it polls before each of them. -/
def unstopped : List FbpMessage → Nat → Nat
  | [], budget => budget
  | _ :: _, 0 => 0
  | signal :: rest, budget + 1 => if spec.reads signal = some "stop" then 0 else unstopped rest budget + 1

/-- The same for a call, which polls once before the loop. -/
def patience : List FbpMessage → Nat → Nat
  | [], budget => budget
  | signal :: rest, budget => if spec.reads signal = some "stop" then 0 else spec.unstopped rest budget

/-- If the queue cannot be sent within the budget, no new packet gets past it: an output
for which a packet is queued refuses the next push, if a packet for it is taken. -/
def Orderly (budget : Nat) (pending : List π) (call : Call ι ο) : Prop :=
  let offered := call.outs.offer ((spec.held pending).take budget)
  let left := budget - (min budget pending.length - offered.1.length)
  offered.2.Blocked (offered.1 ++ (spec.held pending).drop budget)
    (spec.items ((call.inbox spec.inn).take (spec.patience call.signalsIn left)))

omit [DecidableEq ι] in
/-- What flushing leaves of the queue is what an offer leaves of it. -/
theorem flush_offer (budget : Nat) (pending : List π) (call : Call ι ο) :
    (spec.flush budget pending call).call.outs = (call.outs.offer ((spec.held pending).take budget)).2 ∧
      spec.held (spec.flush budget pending call).pending =
        (call.outs.offer ((spec.held pending).take budget)).1 ++ (spec.held pending).drop budget ∧
      (call.outs.offer ((spec.held pending).take budget)).1.length ≤ min budget pending.length ∧
      (spec.flush budget pending call).remainingBudget =
        budget - (min budget pending.length - (call.outs.offer ((spec.held pending).take budget)).1.length) ∧
      (spec.flush budget pending call).call.signalsIn = call.signalsIn := by
  induction budget generalizing pending call with
  | zero => exact ⟨rfl, rfl, Nat.zero_le _, rfl, rfl⟩
  | succ budget ih =>
      cases pending with
      | nil => exact ⟨rfl, rfl, Nat.zero_le _, rfl, rfl⟩
      | cons first rest =>
          have pushed : call.push (spec.route first) =
              ({ call with outs := (call.outs.push (spec.route first)).1 }, (call.outs.push (spec.route first)).2) := rfl
          cases accepted : (call.outs.push (spec.route first)).2 with
          | true =>
              obtain ⟨outs, left, short, spent, signals⟩ :=
                ih rest ({ call with outs := (call.outs.push (spec.route first)).1 } : Call ι ο).worked
              simp only [flush, pushed, accepted, held, List.map_cons, List.take_succ_cons, List.drop_succ_cons,
                Outlets.offer, if_pos, List.length_cons]
              have short : (Outlets.offer (call.outs.push (spec.route first)).1
                  ((rest.map spec.route).take budget)).1.length ≤ min budget rest.length := short
              refine ⟨outs, left, by omega, ?_, signals⟩
              rw [spent]
              change budget - (min budget rest.length - (Outlets.offer (call.outs.push (spec.route first)).1
                ((rest.map spec.route).take budget)).1.length) = _
              omega
          | false =>
              simp only [flush, pushed, accepted, held, List.map_cons, List.take_succ_cons, List.drop_succ_cons,
                Outlets.offer, Bool.false_eq_true, if_false, List.cons_append, List.take_append_drop, List.length_cons,
                List.length_take, List.length_map]
              refine ⟨trivial, trivial, ?_, ?_, trivial⟩
              · omega
              · omega

omit [DecidableEq ι] in
/-- Flushing keeps the order. -/
theorem flush_inOrder (budget : Nat) (pending : List π) (call : Call ι ο) :
    InOrder call.outs (spec.held pending) [] (spec.flush budget pending call).call.outs
      (spec.held (spec.flush budget pending call).pending) := by
  induction budget generalizing pending call with
  | zero => exact .still fun _ => rfl
  | succ budget ih =>
      cases pending with
      | nil => exact .still fun _ => rfl
      | cons first rest =>
          have pushed : call.push (spec.route first) =
              ({ call with outs := (call.outs.push (spec.route first)).1 }, (call.outs.push (spec.route first)).2) := rfl
          cases accepted : (call.outs.push (spec.route first)).2 with
          | true =>
              have after := ih rest ({ call with outs := (call.outs.push (spec.route first)).1 } : Call ι ο).worked
              simp only [flush, pushed, accepted]
              exact (InOrder.release (Outlets.sent_accepted accepted)).trans after
          | false =>
              simp only [flush, pushed, accepted]
              exact .still (Outlets.sent_refused accepted)

omit [DecidableEq ι] [DecidableEq ο] in
/-- A poll that hears no stop is one of those the loop survives. -/
theorem poll_unstopped {call listened : Call ι ο} (polled : call.poll spec.reads = (listened, false)) (budget : Nat) :
    spec.unstopped call.signalsIn (budget + 1) = spec.unstopped listened.signalsIn budget + 1 ∧
      spec.patience call.signalsIn budget = spec.unstopped listened.signalsIn budget := by
  unfold Call.poll at polled
  cases signals : call.signalsIn with
  | nil =>
      rw [signals] at polled
      cases polled
      rw [signals]
      exact ⟨rfl, rfl⟩
  | cons signal rest =>
      rw [signals] at polled
      dsimp only at polled
      by_cases stop : (spec.reads signal).getD "" = "stop"
      · rw [if_pos stop] at polled
        cases polled
      · have going : spec.reads signal ≠ some "stop" := by
          intro read
          rw [read] at stop
          exact stop rfl
        rw [if_neg stop] at polled
        have tail : listened.signalsIn = rest := by
          split at polled
          · cases polled
            rfl
          · cases polled
            rfl
        rw [tail, unstopped, patience, if_neg going, if_neg going]
        exact ⟨rfl, rfl⟩

/-- Receiving keeps the order if nothing gets past the queue. -/
theorem receive_inOrder (budget : Nat) (pending : List π) (call : Call ι ο)
    (blocked : call.outs.Blocked (spec.held pending)
      (spec.items ((call.inbox spec.inn).take (spec.unstopped call.signalsIn budget))))
    (calm : spec.leavesWhenFull = true ∨ call.outs.Quiet) :
    ∃ new, Call.Took spec.inn call (spec.receive budget pending call).call new ∧
      InOrder call.outs (spec.held pending) (spec.items new) (spec.receive budget pending call).call.outs
        (spec.held (spec.receive budget pending call).pending) := by
  induction budget generalizing pending call with
  | zero => exact ⟨[], .of_eq rfl, .still fun _ => rfl⟩
  | succ budget ih =>
      obtain ⟨signalsIn, signalsOut, heard, polled, _⟩ := call.poll_cases spec.reads
      unfold receive
      cases result : call.poll spec.reads with
      | mk listened stop =>
      rw [result] at polled
      have same : listened = { call with signalsIn, signalsOut, heard := call.heard ++ heard } := polled
      have outs : listened.outs = call.outs := by rw [same]
      have first : Call.Took spec.inn call listened [] := .of_eq (by rw [same])
      cases stop with
      | true => exact ⟨[], first, .still fun port => by rw [outs]⟩
      | false =>
          rw [(spec.poll_unstopped result budget).1] at blocked
          dsimp only
          rcases listened.pop_cases spec.inn with ⟨_, popped⟩ | ⟨ip, _, next, _, popped, took, _, kept, _, _⟩
          · rw [popped]
            exact ⟨[], first, .still fun port => by rw [outs]⟩
          · rw [popped]
            have took : Call.Took spec.inn call next [ip] := by simpa using first.trans took
            have kept : next.outs = call.outs := kept.trans outs
            have signals : next.signalsIn = listened.signalsIn := (Call.pop_keeps popped).1
            rw [took.inbox, List.singleton_append, List.take_succ_cons, ← signals] at blocked
            dsimp only
            cases transformed : spec.transform ip with
            | none =>
                have nothing : spec.items [ip] = [] := by simp [items, transformed]
                exact ⟨[ip], took, nothing ▸ .still fun port => by rw [kept]⟩
            | some packet =>
                rw [spec.items_cons _ transformed] at blocked
                have single : spec.items [ip] = [spec.route packet] := spec.items_cons [] transformed
                have pushed : next.push (spec.route packet) = ({ next with outs := (call.outs.push (spec.route packet)).1 },
                    (call.outs.push (spec.route packet)).2) := by
                  rw [← kept]
                  rfl
                dsimp only
                rw [pushed]
                cases accepted : (call.outs.push (spec.route packet)).2 with
                | true =>
                    have calmLater : spec.leavesWhenFull = true ∨ (call.outs.push (spec.route packet)).1.Quiet :=
                      calm.imp id fun quiet => quiet.push _
                    obtain ⟨later, tookLater, order⟩ := ih pending
                      ({ next with outs := (call.outs.push (spec.route packet)).1 } : Call ι ο).worked
                      (blocked.push accepted) calmLater
                    have offered : Call.Took spec.inn call
                        ({ next with outs := (call.outs.push (spec.route packet)).1 } : Call ι ο).worked [ip] :=
                      took.congr rfl
                    refine ⟨[ip] ++ later, offered.trans tookLater, ?_⟩
                    rw [items_append, single]
                    exact (InOrder.forward (Outlets.sent_accepted accepted) (blocked.free accepted)).trans order
                | false =>
                    have sent := Outlets.sent_refused accepted
                    have heldLater : spec.held (pending ++ [packet]) = spec.held pending ++ [spec.route packet] := by
                      simp [Buffering.held]
                    cases leaves : spec.leavesWhenFull with
                    | true =>
                        dsimp only
                        rw [if_pos rfl]
                        refine ⟨[ip], took.congr rfl, ?_⟩
                        rw [heldLater, single]
                        exact .keep sent
                    | false =>
                        dsimp only
                        rw [if_neg (by decide)]
                        have quiet : call.outs.Quiet := calm.resolve_left fun always => by
                          rw [leaves] at always
                          cases always
                        have unchanged := quiet.refused accepted
                        have blockedLater : (call.outs.push (spec.route packet)).1.Blocked
                            (spec.held (pending ++ [packet]))
                            (spec.items ((next.inbox spec.inn).take (spec.unstopped next.signalsIn budget))) := by
                          rw [heldLater, unchanged]
                          exact blocked.keep accepted
                        obtain ⟨later, tookLater, order⟩ := ih (pending ++ [packet])
                          ({ next with outs := (call.outs.push (spec.route packet)).1 } : Call ι ο).worked
                          blockedLater (.inr (quiet.push _))
                        have offered : Call.Took spec.inn call
                            ({ next with outs := (call.outs.push (spec.route packet)).1 } : Call ι ο).worked [ip] :=
                          took.congr rfl
                        refine ⟨[ip] ++ later, offered.trans tookLater, ?_⟩
                        rw [items_append, single]
                        rw [heldLater] at order
                        exact (InOrder.keep sent).trans order

/-- What is flushed and then received keeps the order. -/
theorem exchange_inOrder {budget : Nat} {pending : List π} {call begun between : Call ι ο}
    (insBefore : begun.ins = call.ins) (outsBefore : begun.outs = call.outs)
    (insBetween : between.ins = (spec.flush budget pending begun).call.ins)
    (outsBetween : between.outs = (spec.flush budget pending begun).call.outs)
    (signals : ∀ left, spec.patience call.signalsIn left = spec.unstopped between.signalsIn left)
    (orderly : spec.Orderly budget pending call) (calm : spec.leavesWhenFull = true ∨ call.outs.Quiet)
    (quietBetween : call.outs.Quiet → between.outs.Quiet) :
    let after := spec.receive (spec.flush budget pending begun).remainingBudget
      (spec.flush budget pending begun).pending between
    ∃ new, Call.Took spec.inn call after.call new ∧
      InOrder call.outs (spec.held pending) (spec.items new) after.call.outs (spec.held after.pending) := by
  have flushed := spec.flush_inOrder budget pending begun
  obtain ⟨offeredOuts, offeredPending, _, spent, _⟩ := spec.flush_offer budget pending begun
  have flushIns : (spec.flush budget pending begun).call.ins = begun.ins := (spec.flushed budget pending begun).ins
  rw [outsBefore] at flushed offeredOuts offeredPending spent
  have ins : between.ins = call.ins := insBetween.trans (flushIns.trans insBefore)
  have inbox : between.inbox spec.inn = call.inbox spec.inn := by rw [Call.inbox, Call.inbox, ins]
  have still : Call.Took spec.inn call between [] := .of_eq ins
  generalize spec.flush budget pending begun = flush at *
  have blocked : between.outs.Blocked (spec.held flush.pending)
      (spec.items ((between.inbox spec.inn).take (spec.unstopped between.signalsIn flush.remainingBudget))) := by
    unfold Orderly at orderly
    rw [outsBetween, offeredOuts, offeredPending, inbox, ← signals, spent]
    exact orderly
  obtain ⟨new, took, order⟩ := spec.receive_inOrder flush.remainingBudget flush.pending between blocked
    (calm.imp id quietBetween)
  rw [outsBetween] at order
  exact ⟨new, by simpa using still.trans took, flushed.trans order⟩

/-- Receiving keeps the order if every packet waits its turn. -/
theorem receive_inTurn (retains : spec.leavesWhenFull = false) (budget : Nat) (pending : List π) (call : Call ι ο)
    (inTurn : call.outs.InTurn (spec.held pending)
      (spec.items ((call.inbox spec.inn).take (spec.unstopped call.signalsIn budget)))) :
    ∃ new, Call.Took spec.inn call (spec.receive budget pending call).call new ∧
      InOrder call.outs (spec.held pending) (spec.items new) (spec.receive budget pending call).call.outs
        (spec.held (spec.receive budget pending call).pending) := by
  induction budget generalizing pending call with
  | zero => exact ⟨[], .of_eq rfl, .still fun _ => rfl⟩
  | succ budget ih =>
      obtain ⟨signalsIn, signalsOut, heard, polled, _⟩ := call.poll_cases spec.reads
      unfold receive
      cases result : call.poll spec.reads with
      | mk listened stop =>
      rw [result] at polled
      have same : listened = { call with signalsIn, signalsOut, heard := call.heard ++ heard } := polled
      have outs : listened.outs = call.outs := by rw [same]
      have first : Call.Took spec.inn call listened [] := .of_eq (by rw [same])
      cases stop with
      | true => exact ⟨[], first, .still fun port => by rw [outs]⟩
      | false =>
          rw [(spec.poll_unstopped result budget).1] at inTurn
          dsimp only
          rcases listened.pop_cases spec.inn with ⟨_, popped⟩ | ⟨ip, _, next, _, popped, took, _, kept, _, _⟩
          · rw [popped]
            exact ⟨[], first, .still fun port => by rw [outs]⟩
          · rw [popped]
            have took : Call.Took spec.inn call next [ip] := by simpa using first.trans took
            have kept : next.outs = call.outs := kept.trans outs
            have signals : next.signalsIn = listened.signalsIn := (Call.pop_keeps popped).1
            rw [took.inbox, List.singleton_append, List.take_succ_cons, ← signals] at inTurn
            dsimp only
            cases transformed : spec.transform ip with
            | none =>
                have nothing : spec.items [ip] = [] := by simp [items, transformed]
                exact ⟨[ip], took, nothing ▸ .still fun port => by rw [kept]⟩
            | some packet =>
                rw [spec.items_cons _ transformed, Outlets.InTurn] at inTurn
                have single : spec.items [ip] = [spec.route packet] := spec.items_cons [] transformed
                have pushed : next.push (spec.route packet) = ({ next with outs := (call.outs.push (spec.route packet)).1 },
                    (call.outs.push (spec.route packet)).2) := by
                  rw [← kept]
                  rfl
                have offered : Call.Took spec.inn call
                    ({ next with outs := (call.outs.push (spec.route packet)).1 } : Call ι ο).worked [ip] :=
                  took.congr rfl
                dsimp only
                rw [pushed]
                cases accepted : (call.outs.push (spec.route packet)).2 with
                | true =>
                    rw [if_pos accepted] at inTurn
                    obtain ⟨later, tookLater, order⟩ := ih pending
                      ({ next with outs := (call.outs.push (spec.route packet)).1 } : Call ι ο).worked inTurn.2
                    refine ⟨[ip] ++ later, offered.trans tookLater, ?_⟩
                    rw [items_append, single]
                    exact (InOrder.forward (Outlets.sent_accepted accepted) inTurn.1).trans order
                | false =>
                    have heldLater : spec.held (pending ++ [packet]) = spec.held pending ++ [spec.route packet] := by
                      simp [Buffering.held]
                    rw [if_neg (by simp [accepted]), ← heldLater] at inTurn
                    obtain ⟨later, tookLater, order⟩ := ih (pending ++ [packet])
                      ({ next with outs := (call.outs.push (spec.route packet)).1 } : Call ι ο).worked inTurn
                    dsimp only
                    rw [if_neg (by simp [retains])]
                    refine ⟨[ip] ++ later, offered.trans tookLater, ?_⟩
                    rw [items_append, single]
                    rw [heldLater] at order
                    exact (InOrder.keep (Outlets.sent_refused accepted)).trans order

/-- After the queue has been offered, every packet waits its turn. -/
def Patient (budget : Nat) (pending : List π) (call : Call ι ο) : Prop :=
  let offered := call.outs.offer ((spec.held pending).take budget)
  let left := budget - (min budget pending.length - offered.1.length)
  offered.2.InTurn (offered.1 ++ (spec.held pending).drop budget)
    (spec.items ((call.inbox spec.inn).take (spec.patience call.signalsIn left)))

instance decidablePatient (budget : Nat) (pending : List π) (call : Call ι ο) :
    Decidable (spec.Patient budget pending call) :=
  inferInstanceAs (Decidable (Outlets.InTurn _ _ _))

theorem pollFirst_inTurn (retains : spec.leavesWhenFull = false) {budget : Nat} {pending : List π} {call : Call ι ο}
    (patient : spec.Patient budget pending call) :
    ∃ new, Call.Took spec.inn call (spec.pollFirst budget pending call).call new ∧
      InOrder call.outs (spec.held pending) (spec.items new) (spec.pollFirst budget pending call).call.outs
        (spec.held (spec.pollFirst budget pending call).pending) := by
  obtain ⟨signalsIn, signalsOut, heard, polled, _⟩ := call.poll_cases spec.reads
  unfold pollFirst
  cases result : call.poll spec.reads with
  | mk listened stop =>
      rw [result] at polled
      have same : listened = { call with signalsIn, signalsOut, heard := call.heard ++ heard } := polled
      have ins : listened.ins = call.ins := by rw [same]
      have outs : listened.outs = call.outs := by rw [same]
      cases stop with
      | true => exact ⟨[], .of_eq ins, .still fun _ => by rw [outs]⟩
      | false =>
          have flushed := spec.flush_inOrder budget pending listened
          have flushIns := (spec.flushed budget pending listened).ins
          obtain ⟨offeredOuts, offeredPending, _, spent, signals⟩ := spec.flush_offer budget pending listened
          rw [outs] at flushed offeredOuts offeredPending spent
          dsimp only
          generalize spec.flush budget pending listened = flush at *
          have inbox : flush.call.inbox spec.inn = call.inbox spec.inn := by rw [Call.inbox, Call.inbox, flushIns, ins]
          have inTurn : flush.call.outs.InTurn (spec.held flush.pending) (spec.items ((flush.call.inbox spec.inn).take
              (spec.unstopped flush.call.signalsIn flush.remainingBudget))) := by
            unfold Patient at patient
            rw [offeredOuts, offeredPending, inbox, signals, spent, ← (spec.poll_unstopped result _).2]
            exact patient
          obtain ⟨new, took, order⟩ := spec.receive_inTurn retains flush.remainingBudget flush.pending flush.call inTurn
          have still : Call.Took spec.inn call flush.call [] := .of_eq (flushIns.trans ins)
          exact ⟨new, by simpa using still.trans took, flushed.trans order⟩

variable {spec} {budget : Nat} {pending : List π} {call : Call ι ο}

omit [DecidableEq ι] in
theorem flush_quiet (budget : Nat) (pending : List π) (quiet : call.outs.Quiet) :
    (spec.flush budget pending call).call.outs.Quiet := by
  induction budget generalizing pending call with
  | zero => exact quiet
  | succ budget ih =>
      cases pending with
      | nil => exact quiet
      | cons first rest =>
          unfold flush
          have pushed : call.push (spec.route first) =
              ({ call with outs := (call.outs.push (spec.route first)).1 }, (call.outs.push (spec.route first)).2) := rfl
          rw [pushed]
          cases (call.outs.push (spec.route first)).2 with
          | true => exact ih rest (quiet.push _)
          | false => exact quiet.push _

theorem flushFirst_inOrder (orderly : spec.Orderly budget pending call)
    (calm : spec.leavesWhenFull = true ∨ call.outs.Quiet) :
    ∃ new, Call.Took spec.inn call (spec.flushFirst budget pending call).call new ∧
      InOrder call.outs (spec.held pending) (spec.items new) (spec.flushFirst budget pending call).call.outs
        (spec.held (spec.flushFirst budget pending call).pending) := by
  have flush := spec.flushed budget pending call
  have order := spec.flush_inOrder budget pending call
  have signals := (spec.flush_offer budget pending call).2.2.2.2
  obtain ⟨signalsIn, signalsOut, heard, polled, _⟩ := (spec.flush budget pending call).call.poll_cases spec.reads
  unfold flushFirst
  dsimp only
  cases result : (spec.flush budget pending call).call.poll spec.reads with
  | mk listened stop =>
      rw [result] at polled
      have same : listened = { (spec.flush budget pending call).call with
        signalsIn, signalsOut, heard := (spec.flush budget pending call).call.heard ++ heard } := polled
      cases stop with
      | true =>
          refine ⟨[], .of_eq (by rw [same]; exact flush.ins), ?_⟩
          rw [same]
          exact order
      | false =>
          refine spec.exchange_inOrder rfl rfl (by rw [same]) (by rw [same]) ?_ orderly calm ?_
          · intro left
            rw [← signals]
            exact (spec.poll_unstopped result left).2
          · intro quiet
            rw [same]
            exact flush_quiet budget pending quiet

theorem pollFirst_inOrder (orderly : spec.Orderly budget pending call)
    (calm : spec.leavesWhenFull = true ∨ call.outs.Quiet) :
    ∃ new, Call.Took spec.inn call (spec.pollFirst budget pending call).call new ∧
      InOrder call.outs (spec.held pending) (spec.items new) (spec.pollFirst budget pending call).call.outs
        (spec.held (spec.pollFirst budget pending call).pending) := by
  obtain ⟨signalsIn, signalsOut, heard, polled, _⟩ := call.poll_cases spec.reads
  unfold pollFirst
  cases result : call.poll spec.reads with
  | mk listened stop =>
      rw [result] at polled
      have same : listened = { call with signalsIn, signalsOut, heard := call.heard ++ heard } := polled
      cases stop with
      | true =>
          refine ⟨[], .of_eq (by rw [same]), ?_⟩
          rw [same]
          exact .still fun _ => rfl
      | false =>
          refine spec.exchange_inOrder (by rw [same]) (by rw [same]) rfl rfl ?_ orderly calm ?_
          · intro left
            rw [(spec.flush_offer budget pending listened).2.2.2.2]
            exact (spec.poll_unstopped result left).2
          · intro quiet
            apply flush_quiet budget pending
            rw [same]
            exact quiet

end Buffering

end Flowd
