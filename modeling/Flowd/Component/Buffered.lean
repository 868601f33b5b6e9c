import Flowd.Api.Call

namespace Flowd

/-! The loops of the components that keep a packet their output refuses. -/

variable {ι ο π : Type}

/-- Where such a component takes packets, how it reads signals, what it makes of a
packet (`none` is a panic), where it sends the result, and whether it stops taking
packets once one is refused. -/
structure Buffering (ι ο π : Type) where
  inn : ι
  reads : FbpMessage → Option String
  transform : FbpMessage → Option π
  route : π → ο × FbpMessage
  leavesWhenFull : Bool

structure Received (ι ο π : Type) where
  pending : List π
  call : Call ι ο
  remainingBudget : Nat
  ended : Option Returned

namespace Buffering

variable (spec : Buffering ι ο π)

/-- The items that the packets of a list become. -/
def items (packets : List FbpMessage) : List (ο × FbpMessage) :=
  (packets.filterMap spec.transform).map spec.route

/-- The items that are held back. -/
def held (pending : List π) : List (ο × FbpMessage) := pending.map spec.route

theorem items_append (left right : List FbpMessage) :
    spec.items (left ++ right) = spec.items left ++ spec.items right := by
  simp [items]

theorem items_cons {ip : FbpMessage} {packet : π} (rest : List FbpMessage)
    (transformed : spec.transform ip = some packet) :
    spec.items (ip :: rest) = spec.route packet :: spec.items rest := by
  simp [items, transformed]

variable [DecidableEq ι] [DecidableEq ο]

/-- `while remaining_budget > 0 && !pending.is_empty()` -/
def flush : Nat → List π → Call ι ο → Received ι ο π
  | 0, pending, call => ⟨pending, call, 0, none⟩
  | budget + 1, [], call => ⟨[], call, budget + 1, none⟩
  | budget + 1, first :: rest, call =>
      match call.push (spec.route first) with
      | (call, true) => flush budget rest call.worked
      | (call, false) => ⟨first :: rest, call, budget + 1, none⟩

/-- `while remaining_budget > 0`: polls the signals, takes a packet and forwards it. -/
def receive : Nat → List π → Call ι ο → Received ι ο π
  | 0, pending, call => ⟨pending, call, 0, none⟩
  | budget + 1, pending, call =>
      match call.poll spec.reads with
      | (call, true) => ⟨pending, call, budget + 1, some (.result .finished)⟩
      | (call, false) =>
          match call.pop spec.inn with
          | none => ⟨pending, call, budget + 1, none⟩
          | some (ip, call) =>
              match spec.transform ip with
              | none => ⟨pending, call, budget + 1, some .panicked⟩
              | some packet =>
                  match call.push (spec.route packet) with
                  | (call, true) => receive budget pending call.worked
                  | (call, false) =>
                      if spec.leavesWhenFull then ⟨pending ++ [packet], call, budget + 1, none⟩
                      else receive budget (pending ++ [packet]) call.worked

/-- What flushing leaves alone, and that it loses nothing. -/
structure Flushed (budget : Nat) (pending : List π) (call : Call ι ο) (after : Received ι ο π) : Prop where
  ins : after.call.ins = call.ins
  heard : after.call.heard = call.heard
  budget_le : after.remainingBudget ≤ budget
  work : after.call.workUnits + after.remainingBudget = call.workUnits + budget
  idle : after.call.workUnits = call.workUnits → after.pending = pending
  balance : Balance call.outs (spec.held pending) [] after.call.outs (spec.held after.pending) []
  empties : after.pending = [] → pending.length ≤ budget ∧
    after.remainingBudget = budget - pending.length ∧
    ∀ rest, call.outs.fits (spec.held pending ++ rest) = after.call.outs.fits rest
  complete : pending.length ≤ budget → call.outs.fits (spec.held pending) = true → after.pending = []

omit [DecidableEq ι] in
theorem flushed (budget : Nat) (pending : List π) (call : Call ι ο) :
    spec.Flushed budget pending call (spec.flush budget pending call) := by
  induction budget generalizing pending call with
  | zero =>
      refine ⟨rfl, rfl, Nat.le_refl _, rfl, fun _ => rfl, .still fun _ => rfl, ?_, ?_⟩
      · intro empty
        have none : pending = [] := empty
        subst none
        exact ⟨Nat.le_refl _, rfl, fun _ => rfl⟩
      · intro fits _
        exact List.length_eq_zero_iff.mp (Nat.le_zero.mp fits)
  | succ budget ih =>
      cases pending with
      | nil =>
          exact ⟨rfl, rfl, Nat.le_refl _, rfl, fun _ => rfl, .still fun _ => rfl,
            fun _ => ⟨Nat.zero_le _, rfl, fun _ => rfl⟩, fun _ _ => rfl⟩
      | cons first rest =>
          rcases call.push_cases (spec.route first) with ⟨outs, pushed, sent, fits⟩ | ⟨outs, refused, sent, fits⟩
          · simp only [flush, pushed]
            have after := ih rest ({ call with outs } : Call ι ο).worked
            generalize spec.flush budget rest ({ call with outs } : Call ι ο).worked = result at after ⊢
            have work : result.call.workUnits + result.remainingBudget = call.workUnits + 1 + budget := after.work
            have smaller := after.budget_le
            refine ⟨after.ins, after.heard, by omega, by omega, ?_, ?_, ?_, ?_⟩
            · intro same
              exact absurd same (by omega)
            · exact (Balance.release sent).trans after.balance
            · intro empty
              obtain ⟨length, left, same⟩ := after.empties empty
              refine ⟨Nat.succ_le_succ length, by rw [left, List.length_cons]; omega, ?_⟩
              intro later
              rw [held, List.map_cons, List.cons_append, fits]
              exact same later
            · intro length all
              rw [held, List.map_cons, fits] at all
              exact after.complete (Nat.le_of_succ_le_succ length) all
          · simp only [flush, refused]
            refine ⟨rfl, rfl, Nat.le_refl _, rfl, fun _ => rfl, .still sent, ?_, ?_⟩
            · intro empty
              cases empty
            · intro _ all
              rw [held, List.map_cons, fits] at all
              cases all

/-- What receiving leaves alone, what it takes, and that it loses nothing. -/
structure Receives (budget : Nat) (pending : List π) (call : Call ι ο) (after : Received ι ο π) : Prop where
  took : ∃ new, Call.Took spec.inn call after.call new ∧
    Balance call.outs (spec.held pending) (spec.items new) after.call.outs (spec.held after.pending) []
  budget_le : after.remainingBudget ≤ budget
  work : call.workUnits ≤ after.call.workUnits
  ends : after.ended = none ∨ after.ended = some .panicked ∨
    after.ended = some (.result .finished) ∧ after.call.Stopped spec.reads
  idle : spec.leavesWhenFull = false → after.ended = none →
    after.call.workUnits = call.workUnits → after.pending = pending ∧ after.call.ins = call.ins
  empties : after.ended = none → after.pending = [] → pending = [] ∧
    after.call.inbox spec.inn = (call.inbox spec.inn).drop budget ∧
    ((call.inbox spec.inn).length ≤ budget → call.outs.fits (spec.items (call.inbox spec.inn)) = true)
  complete : pending = [] → (call.inbox spec.inn).length ≤ budget →
    call.outs.fits (spec.items (call.inbox spec.inn)) = true → after.pending = []

/-- How a round of receiving can go; `next` is the call after the packet was offered. -/
inductive Round (budget : Nat) (pending : List π) (call : Call ι ο) : Received ι ο π → Prop where
  | stopped {next : Call ι ο} (ins : next.ins = call.ins) (outs : next.outs = call.outs)
      (work : next.workUnits = call.workUnits) (stop : next.Stopped spec.reads) :
      Round budget pending call ⟨pending, next, budget + 1, some (.result .finished)⟩
  | empty {next : Call ι ο} (ins : next.ins = call.ins) (outs : next.outs = call.outs)
      (work : next.workUnits = call.workUnits) (nothing : call.inbox spec.inn = []) :
      Round budget pending call ⟨pending, next, budget + 1, none⟩
  | panicked {next : Call ι ο} {ip : FbpMessage} (took : Call.Took spec.inn call next [ip])
      (outs : next.outs = call.outs) (work : next.workUnits = call.workUnits)
      (bad : spec.transform ip = none) :
      Round budget pending call ⟨pending, next, budget + 1, some .panicked⟩
  | accepted {next : Call ι ο} {ip : FbpMessage} {packet : π} (took : Call.Took spec.inn call next [ip])
      (work : next.workUnits = call.workUnits) (good : spec.transform ip = some packet)
      (sent : ∀ port, (next.outs port).sent = (call.outs port).sent ++ addressed port [spec.route packet])
      (fits : ∀ rest, call.outs.fits (spec.route packet :: rest) = next.outs.fits rest) :
      Round budget pending call (spec.receive budget pending next.worked)
  | refused {next : Call ι ο} {ip : FbpMessage} {packet : π} (took : Call.Took spec.inn call next [ip])
      (work : next.workUnits = call.workUnits) (good : spec.transform ip = some packet)
      (sent : ∀ port, (next.outs port).sent = (call.outs port).sent)
      (fits : ∀ rest, call.outs.fits (spec.route packet :: rest) = false) :
      Round budget pending call
        (if spec.leavesWhenFull then ⟨pending ++ [packet], next, budget + 1, none⟩
          else spec.receive budget (pending ++ [packet]) next.worked)

theorem round (budget : Nat) (pending : List π) (call : Call ι ο) :
    spec.Round budget pending call (spec.receive (budget + 1) pending call) := by
  obtain ⟨signalsIn, signalsOut, new, polled, stops⟩ := call.poll_cases spec.reads
  unfold receive
  generalize call.poll spec.reads = result at polled stops ⊢
  obtain ⟨listened, stop⟩ := result
  have same : listened = { call with signalsIn, signalsOut, heard := call.heard ++ new } := polled
  cases stop with
  | true => exact .stopped (by rw [same]) (by rw [same]) (by rw [same]) (stops rfl)
  | false =>
      have inbox : listened.inbox spec.inn = call.inbox spec.inn := by rw [same]; rfl
      have outs : listened.outs = call.outs := by rw [same]
      have work : listened.workUnits = call.workUnits := by rw [same]
      have first : Call.Took spec.inn call listened [] := .of_eq (by rw [same])
      dsimp only
      rcases listened.pop_cases spec.inn with ⟨empty, popped⟩ | ⟨ip, rest, next, found, popped, took, left, kept, _, counted⟩
      · rw [popped]
        exact .empty (by rw [same]) outs work (inbox ▸ empty)
      · rw [popped]
        have took : Call.Took spec.inn call next [ip] := by simpa using first.trans took
        have kept : next.outs = call.outs := kept.trans outs
        have counted : next.workUnits = call.workUnits := counted.trans work
        dsimp only
        cases transformed : spec.transform ip with
        | none => exact .panicked took kept counted transformed
        | some packet =>
            dsimp only
            rcases next.push_cases (spec.route packet) with ⟨outs, pushed, sent, fits⟩ | ⟨outs, refused, sent, fits⟩
            · rw [pushed]
              rw [kept] at sent fits
              have offered : Call.Took spec.inn call { next with outs } [ip] := took.congr rfl
              exact .accepted offered counted transformed sent fits
            · rw [refused]
              rw [kept] at sent fits
              have offered : Call.Took spec.inn call { next with outs } [ip] := took.congr rfl
              exact .refused offered counted transformed sent fits

theorem receives (budget : Nat) (pending : List π) (call : Call ι ο) :
    spec.Receives budget pending call (spec.receive budget pending call) := by
  induction budget generalizing pending call with
  | zero =>
      refine ⟨⟨[], .of_eq rfl, .still fun _ => rfl⟩, Nat.le_refl _, Nat.le_refl _, .inl rfl,
        fun _ _ _ => ⟨rfl, rfl⟩, ?_, fun empty _ _ => empty⟩
      intro _ empty
      refine ⟨empty, rfl, fun none => ?_⟩
      rw [List.length_eq_zero_iff.mp (Nat.le_zero.mp none)]
      rfl
  | succ budget ih =>
      have round := spec.round budget pending call
      generalize spec.receive (budget + 1) pending call = after at round ⊢
      cases round with
      | @stopped next ins outs work stop =>
          refine ⟨⟨[], .of_eq ins, .still fun port => by rw [outs]⟩, Nat.le_refl _, Nat.le_of_eq work.symm,
            .inr (.inr ⟨rfl, stop⟩), ?_, ?_, fun empty _ _ => empty⟩
          all_goals
            intros
            contradiction
      | @empty next ins outs work nothing =>
          refine ⟨⟨[], .of_eq ins, .still fun port => by rw [outs]⟩, Nat.le_refl _, Nat.le_of_eq work.symm,
            .inl rfl, fun _ _ _ => ⟨rfl, ins⟩, ?_, fun none _ _ => none⟩
          intro _ none
          have left : next.inbox spec.inn = [] := by rw [← nothing, Call.inbox, ins]; rfl
          exact ⟨none, by rw [nothing, left, List.drop_nil], fun _ => by rw [nothing]; rfl⟩
      | @panicked next ip took outs work bad =>
          have nothing : spec.items [ip] = [] := by simp [items, bad]
          refine ⟨⟨[ip], took, ?_⟩, Nat.le_refl _, Nat.le_of_eq work.symm, .inr (.inl rfl), ?_, ?_,
            fun empty _ _ => empty⟩
          · rw [nothing]
            exact .still fun port => by rw [outs]
          all_goals
            intros
            contradiction
      | @accepted next ip packet took work good sent fits =>
          have rest := ih pending next.worked
          generalize spec.receive budget pending next.worked = after at rest ⊢
          have offered : Call.Took spec.inn call next.worked [ip] := took.congr rfl
          have inbox : call.inbox spec.inn = ip :: next.inbox spec.inn := took.inbox
          have items := spec.items_cons (next.inbox spec.inn) good
          have counted : call.workUnits + 1 ≤ after.call.workUnits := work ▸ rest.work
          obtain ⟨new, later, keeps⟩ := rest.took
          refine ⟨⟨ip :: new, offered.trans later, ?_⟩,
            Nat.le_succ_of_le rest.budget_le, Nat.le_of_succ_le counted, rest.ends, ?_, ?_, ?_⟩
          · rw [spec.items_cons new good]
            exact (Balance.forward sent).trans keeps
          · intro _ _ same
            exact absurd same (by omega)
          · intro ended none
            obtain ⟨empty, left, fit⟩ := rest.empties ended none
            refine ⟨empty, by rw [inbox]; exact left, fun room => ?_⟩
            rw [inbox] at room ⊢
            rw [items, fits]
            exact fit (Nat.le_of_succ_le_succ room)
          · intro none room fit
            rw [inbox] at room fit
            rw [items, fits] at fit
            exact rest.complete none (Nat.le_of_succ_le_succ room) fit
      | @refused next ip packet took work good sent fits =>
          have offered : Call.Took spec.inn call next.worked [ip] := took.congr rfl
          have inbox : call.inbox spec.inn = ip :: next.inbox spec.inn := took.inbox
          have items := spec.items_cons (next.inbox spec.inn) good
          have single : spec.items [ip] = [spec.route packet] := spec.items_cons [] good
          have held : spec.held (pending ++ [packet]) = spec.held pending ++ [spec.route packet] := by
            simp [Buffering.held]
          have unfit : call.outs.fits (spec.items (call.inbox spec.inn)) = false := by
            rw [inbox, items, fits]
          cases leaves : spec.leavesWhenFull with
          | true =>
              rw [if_pos rfl]
              refine ⟨⟨[ip], took, ?_⟩, Nat.le_refl _, Nat.le_of_eq work.symm, .inl rfl, ?_, ?_, ?_⟩
              · rw [held, single]
                exact .keep sent
              · intro stays
                cases leaves.symm.trans stays
              · intro _ none
                simp at none
              · intro _ _ fit
                cases unfit.symm.trans fit
          | false =>
              rw [if_neg (by decide)]
              have rest := ih (pending ++ [packet]) next.worked
              generalize spec.receive budget (pending ++ [packet]) next.worked = after at rest ⊢
              have counted : call.workUnits + 1 ≤ after.call.workUnits := work ▸ rest.work
              obtain ⟨new, later, keeps⟩ := rest.took
              refine ⟨⟨ip :: new, offered.trans later, ?_⟩,
                Nat.le_succ_of_le rest.budget_le, Nat.le_of_succ_le counted, rest.ends, ?_, ?_, ?_⟩
              · rw [held] at keeps
                rw [spec.items_cons new good]
                exact (Balance.keep sent).trans keeps
              · intro _ _ same
                exact absurd same (by omega)
              · intro ended none
                have nonempty := (rest.empties ended none).1
                simp at nonempty
              · intro _ _ fit
                cases unfit.symm.trans fit

/-- Polling, then flushing, then receiving. -/
def pollFirst (budget : Nat) (pending : List π) (call : Call ι ο) : Received ι ο π :=
  match call.poll spec.reads with
  | (call, true) => ⟨pending, call, budget, some (.result .finished)⟩
  | (call, false) =>
      let flushed := spec.flush budget pending call
      spec.receive flushed.remainingBudget flushed.pending flushed.call

/-- Flushing, then polling, then receiving. -/
def flushFirst (budget : Nat) (pending : List π) (call : Call ι ο) : Received ι ο π :=
  let flushed := spec.flush budget pending call
  match flushed.call.poll spec.reads with
  | (call, true) => ⟨flushed.pending, call, flushed.remainingBudget, some (.result .finished)⟩
  | (call, false) => spec.receive flushed.remainingBudget flushed.pending call

/-- What a whole call does to the edges. -/
structure Exchanged (budget : Nat) (pending : List π) (call : Call ι ο) (after : Received ι ο π) : Prop where
  took : ∃ new, Call.Took spec.inn call after.call new ∧
    Balance call.outs (spec.held pending) (spec.items new) after.call.outs (spec.held after.pending) []
  budget_le : after.remainingBudget ≤ budget
  ends : after.ended = none ∨ after.ended = some .panicked ∨
    after.ended = some (.result .finished) ∧ after.call.Stopped spec.reads
  idle : spec.leavesWhenFull = false → after.ended = none →
    after.call.workUnits = call.workUnits → after.pending = pending ∧ after.call.ins = call.ins
  empties : after.ended = none → after.pending = [] → pending.length ≤ budget ∧
    after.call.inbox spec.inn = (call.inbox spec.inn).drop (budget - pending.length) ∧
    (pending.length + (call.inbox spec.inn).length ≤ budget →
      call.outs.fits (spec.held pending ++ spec.items (call.inbox spec.inn)) = true)
  complete : after.ended = none → pending.length + (call.inbox spec.inn).length ≤ budget →
    call.outs.fits (spec.held pending ++ spec.items (call.inbox spec.inn)) = true → after.pending = []
  still : pending = [] → call.inbox spec.inn = [] → after.pending = []

variable {spec} {budget : Nat} {pending : List π} {call : Call ι ο}

/-- Flushing and receiving, with polls of the signals between. -/
theorem Flushed.exchanged {flushed : Received ι ο π} {begun between : Call ι ο}
    (flush : spec.Flushed budget pending begun flushed)
    (insBefore : begun.ins = call.ins) (outsBefore : begun.outs = call.outs)
    (workBefore : begun.workUnits = call.workUnits)
    (insBetween : between.ins = flushed.call.ins) (outsBetween : between.outs = flushed.call.outs)
    (workBetween : between.workUnits = flushed.call.workUnits) :
    spec.Exchanged budget pending call (spec.receive flushed.remainingBudget flushed.pending between) := by
  have rest := spec.receives flushed.remainingBudget flushed.pending between
  generalize spec.receive flushed.remainingBudget flushed.pending between = after at rest ⊢
  have ins : between.ins = call.ins := insBetween.trans (flush.ins.trans insBefore)
  have inbox : between.inbox spec.inn = call.inbox spec.inn := by rw [Call.inbox, Call.inbox, ins]
  have spent := flush.work
  have smaller := flush.budget_le
  have counted := rest.work
  obtain ⟨new, took, balance⟩ := rest.took
  have still : Call.Took spec.inn call between [] := .of_eq ins
  refine ⟨⟨new, by simpa using still.trans took, ?_⟩, rest.budget_le.trans flush.budget_le, rest.ends, ?_, ?_, ?_, ?_⟩
  · rw [outsBetween] at balance
    rw [← outsBefore]
    exact flush.balance.trans balance
  · intro stays ended same
    have flushIdle : flushed.call.workUnits = begun.workUnits := by omega
    obtain ⟨kept, untouched⟩ := rest.idle stays ended (by omega)
    exact ⟨kept.trans (flush.idle flushIdle), untouched.trans ins⟩
  · intro ended none
    obtain ⟨empty, left, fit⟩ := rest.empties ended none
    obtain ⟨room, budgetLeft, same⟩ := flush.empties empty
    rw [inbox] at left fit
    refine ⟨room, by rw [left, budgetLeft], fun total => ?_⟩
    rw [← outsBefore, same, ← outsBetween]
    exact fit (by omega)
  · intro ended total fit
    have fitsPending := Outlets.fits_of_append _ fit
    rw [← outsBefore] at fitsPending fit
    have empty := flush.complete (by omega) fitsPending
    obtain ⟨room, budgetLeft, same⟩ := flush.empties empty
    rw [same, ← outsBetween, ← inbox] at fit
    exact rest.complete empty (by rw [inbox]; omega) fit
  · intro none nothing
    subst none
    have empty := flush.complete (Nat.zero_le _) rfl
    rw [← inbox] at nothing
    exact rest.complete empty (by simp [nothing]) (by rw [nothing]; rfl)

omit [DecidableEq ι] in
/-- A call that a stop signal ends before anything is taken. -/
theorem exchanged_stopped {after : Received ι ο π} (ended : after.ended = some (.result .finished))
    (stopped : after.call.Stopped spec.reads) (ins : after.call.ins = call.ins)
    (budget_le : after.remainingBudget ≤ budget)
    (balance : Balance call.outs (spec.held pending) [] after.call.outs (spec.held after.pending) [])
    (still : pending = [] → after.pending = []) : spec.Exchanged budget pending call after := by
  refine ⟨⟨[], .of_eq ins, balance⟩, budget_le, .inr (.inr ⟨ended, stopped⟩), ?_, ?_, ?_, fun none _ => still none⟩
  · intro _ none
    rw [ended] at none
    cases none
  · intro none
    rw [ended] at none
    cases none
  · intro none
    rw [ended] at none
    cases none

variable (spec budget pending call)

theorem flushFirst_exchanged : spec.Exchanged budget pending call (spec.flushFirst budget pending call) := by
  have flush := spec.flushed budget pending call
  unfold flushFirst
  generalize spec.flush budget pending call = flushed at flush ⊢
  dsimp only
  obtain ⟨signalsIn, signalsOut, new, polled, stops⟩ := flushed.call.poll_cases spec.reads
  generalize flushed.call.poll spec.reads = result at polled stops ⊢
  obtain ⟨listened, stop⟩ := result
  have same : listened = { flushed.call with signalsIn, signalsOut, heard := flushed.call.heard ++ new } := polled
  cases stop with
  | true =>
      refine exchanged_stopped rfl (stops rfl) ?_ flush.budget_le ?_ fun none => ?_
      · rw [same]
        exact flush.ins
      · rw [same]
        exact flush.balance
      · subst none
        exact flush.complete (Nat.zero_le _) rfl
  | false => exact flush.exchanged rfl rfl rfl (by rw [same]) (by rw [same]) (by rw [same])

theorem pollFirst_exchanged : spec.Exchanged budget pending call (spec.pollFirst budget pending call) := by
  obtain ⟨signalsIn, signalsOut, new, polled, stops⟩ := call.poll_cases spec.reads
  unfold pollFirst
  generalize call.poll spec.reads = result at polled stops ⊢
  obtain ⟨listened, stop⟩ := result
  have same : listened = { call with signalsIn, signalsOut, heard := call.heard ++ new } := polled
  cases stop with
  | true =>
      refine exchanged_stopped rfl (stops rfl) (by rw [same]) (Nat.le_refl _) ?_ id
      rw [same]
      exact .still fun _ => rfl
  | false =>
      have flush := spec.flushed budget pending listened
      exact flush.exchanged (by rw [same]) (by rw [same]) (by rw [same]) rfl rfl rfl

end Buffering

end Flowd
