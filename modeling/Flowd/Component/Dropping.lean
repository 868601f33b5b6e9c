import Flowd.Component.Basic

namespace Flowd

/-! The loops of the components that have no place for a packet their output refuses. -/

variable {ι ο σ : Type}

/-- What such a component does after a refusal: leave the loop, take the next packet
nevertheless, or finish. -/
inductive WhenFull where
  | leave
  | goOn
  | finish
deriving DecidableEq, Repr

/-- `emit` is what a packet becomes, with the state of the loop after it; none is a
panic.  `overflowChecks` is the build option for integer overflow; it matters where
one packet becomes several items. -/
structure Dropping (ι ο σ : Type) where
  inn : ι
  emit : σ → FbpMessage → Option (σ × List (ο × FbpMessage))
  whenFull : WhenFull
  overflowChecks : Bool

inductive Verdict where
  | accepted
  | refused
  | panicked
deriving DecidableEq, Repr

structure Offered (ι ο : Type) where
  call : Call ι ο
  remainingBudget : Nat
  verdict : Verdict

structure Passed (ι ο σ : Type) where
  state : σ
  call : Call ι ο
  remainingBudget : Nat
  ended : Option Returned

namespace Dropping

variable (spec : Dropping ι ο σ)

/-- `remaining_budget -= 1` for a `u32`, none if it panics. -/
def spend : Nat → Option Nat
  | 0 => if spec.overflowChecks then none else some (2 ^ 32 - 1)
  | budget + 1 => some budget

/-- The items of one packet, pushed one after the other until one is refused. -/
def offer [DecidableEq ο] : List (ο × FbpMessage) → Nat → Call ι ο → Offered ι ο
  | [], budget, call => ⟨call, budget, .accepted⟩
  | item :: rest, budget, call =>
      match call.push item with
      | (call, true) =>
          match spec.spend budget with
          | none => ⟨call.worked, budget, .panicked⟩
          | some budget => offer rest budget call.worked
      | (call, false) => ⟨call, budget, .refused⟩

/-- `while remaining_budget > 0 && !inn.is_empty()`.  Each round takes a packet, so the
number of packets bounds the rounds. -/
def rounds [DecidableEq ι] [DecidableEq ο] : Nat → σ → Nat → Call ι ο → Passed ι ο σ
  | 0, state, budget, call => ⟨state, call, budget, none⟩
  | count + 1, state, budget, call =>
      if budget = 0 then ⟨state, call, budget, none⟩
      else
        match call.pop spec.inn with
        | none => ⟨state, call, budget, none⟩
        | some (ip, call) =>
            match spec.emit state ip with
            | none => ⟨state, call, budget, some .panicked⟩
            | some (next, items) =>
                let offered := spec.offer items budget call
                match offered.verdict with
                | .accepted => rounds count next offered.remainingBudget offered.call
                | .panicked => ⟨state, offered.call, offered.remainingBudget, some .panicked⟩
                | .refused =>
                    match spec.whenFull with
                    | .leave => ⟨state, offered.call, offered.remainingBudget, none⟩
                    | .goOn => rounds count next offered.remainingBudget offered.call
                    | .finish => ⟨state, offered.call, offered.remainingBudget, some (.result .finished)⟩

def pass [DecidableEq ι] [DecidableEq ο] (state : σ) (budget : Nat) (call : Call ι ο) : Passed ι ο σ :=
  spec.rounds (call.inbox spec.inn).length state budget call

/-- What the packets of a list become. -/
def emitted : σ → List FbpMessage → List (ο × FbpMessage)
  | _, [] => []
  | state, ip :: rest =>
      match spec.emit state ip with
      | none => []
      | some (next, items) => items ++ emitted next rest

/-- The pushes for one packet when none is refused, and the budget after them. -/
def attemptsOf : List (ο × FbpMessage) → Nat → List (ο × FbpMessage) × Option Nat
  | [], budget => ([], some budget)
  | item :: rest, budget =>
      match spec.spend budget with
      | none => ([item], none)
      | some budget => (item :: (attemptsOf rest budget).1, (attemptsOf rest budget).2)

/-- The pushes of a call when none is refused. -/
def attempts : σ → Nat → List FbpMessage → List (ο × FbpMessage)
  | _, _, [] => []
  | state, budget, ip :: rest =>
      if budget = 0 then []
      else
        match spec.emit state ip with
        | none => []
        | some (next, items) =>
            match spec.attemptsOf items budget with
            | (pushes, none) => pushes
            | (pushes, some budget) => pushes ++ attempts next budget rest

variable {spec}

theorem attempts_cons {state next : σ} {budget : Nat} {ip : FbpMessage} {items : List (ο × FbpMessage)}
    (rest : List FbpMessage) (positive : budget ≠ 0) (emitted : spec.emit state ip = some (next, items)) :
    ∃ later, spec.attempts state budget (ip :: rest) = (spec.attemptsOf items budget).1 ++ later ∧
      ∀ left, (spec.attemptsOf items budget).2 = some left → later = spec.attempts next left rest := by
  rw [attempts, if_neg positive, emitted]
  dsimp only
  split
  · next pushes stops =>
      rw [stops]
      exact ⟨[], (List.append_nil _).symm, fun _ none => (nomatch none)⟩
  · next pushes left goes =>
      rw [goes]
      refine ⟨_, rfl, fun other same => ?_⟩
      cases same
      rfl

theorem emitted_cons {state next : σ} {ip : FbpMessage} {items : List (ο × FbpMessage)} (rest : List FbpMessage)
    (emitted : spec.emit state ip = some (next, items)) :
    spec.emitted state (ip :: rest) = items ++ spec.emitted next rest := by
  simp [Dropping.emitted, emitted]

/-- Every packet becomes one item. -/
def OneForOne (spec : Dropping ι ο σ) : Prop :=
  ∀ state ip, ∃ next item, spec.emit state ip = some (next, [item])

/-- One item costs one unit of the budget. -/
theorem OneForOne.attempts (oneForOne : spec.OneForOne) (state : σ) (budget : Nat) (packets : List FbpMessage) :
    spec.attempts state budget packets = spec.emitted state (packets.take budget) := by
  induction packets generalizing state budget with
  | nil => simp [Dropping.attempts, emitted]
  | cons ip rest ih =>
      cases budget with
      | zero => rfl
      | succ budget =>
          obtain ⟨next, item, one⟩ := oneForOne state ip
          simp [Dropping.attempts, attemptsOf, spend, emitted, one, ih]

variable [DecidableEq ο]

/-- How the items of one packet fare. -/
inductive Fares (spec : Dropping ι ο σ) (items : List (ο × FbpMessage)) (budget : Nat) (call : Call ι ο) :
    Offered ι ο → Prop where
  | accepted {next : Call ι ο} {left : Nat} (ins : next.ins = call.ins)
      (attempts : spec.attemptsOf items budget = (items, some left))
      (sent : ∀ port, (next.outs port).sent = (call.outs port).sent ++ addressed port items)
      (fits : ∀ rest, call.outs.fits (items ++ rest) = next.outs.fits rest) :
      Fares spec items budget call ⟨next, left, .accepted⟩
  | refused {next : Call ι ο} {left : Nat} (front back : List (ο × FbpMessage))
      (ins : next.ins = call.ins)
      (parts : items = front ++ back) (lost : back ≠ [])
      (sent : ∀ port, (next.outs port).sent = (call.outs port).sent ++ addressed port front)
      (fits : ∀ rest, call.outs.fits ((spec.attemptsOf items budget).1 ++ rest) = false) :
      Fares spec items budget call ⟨next, left, .refused⟩
  | panicked {next : Call ι ο} {left : Nat} (front back : List (ο × FbpMessage))
      (ins : next.ins = call.ins)
      (parts : items = front ++ back) (underflow : (spec.attemptsOf items budget).2 = none)
      (sent : ∀ port, (next.outs port).sent = (call.outs port).sent ++ addressed port front) :
      Fares spec items budget call ⟨next, left, .panicked⟩

theorem fares (spec : Dropping ι ο σ) (items : List (ο × FbpMessage)) (budget : Nat) (call : Call ι ο) :
    spec.Fares items budget call (spec.offer items budget call) := by
  induction items generalizing budget call with
  | nil => exact .accepted rfl rfl (fun _ => by simp) fun _ => rfl
  | cons item rest ih =>
      unfold offer
      rcases call.push_cases item with ⟨outs, pushed, sent, fits⟩ | ⟨outs, refused, sent, fits⟩
      · rw [pushed]
        cases spent : spec.spend budget with
        | none =>
            refine .panicked [item] rest rfl rfl ?_ sent
            rw [attemptsOf, spent]
        | some budget' =>
            have later := ih budget' ({ call with outs } : Call ι ο).worked
            dsimp only
            generalize spec.offer rest budget' ({ call with outs } : Call ι ο).worked = offered at later ⊢
            have sentAll : ∀ port (items : List (ο × FbpMessage)),
                (outs port).sent ++ addressed port items =
                  (call.outs port).sent ++ addressed port (item :: items) := by
              intro port items
              rw [sent, List.append_assoc, ← addressed_append]
              rfl
            cases later with
            | accepted ins attempts sentLater fitsLater =>
                refine .accepted ins ?_ (fun port => (sentLater port).trans (sentAll port rest)) ?_
                · simp only [attemptsOf, spent, attempts]
                · intro more
                  rw [List.cons_append, fits]
                  exact fitsLater more
            | @refused next left front back ins parts lost sentLater fitsLater =>
                refine .refused (item :: front) back ins (congrArg (item :: ·) parts) lost
                  (fun port => (sentLater port).trans (sentAll port front)) ?_
                intro more
                simp only [attemptsOf, spent, List.cons_append]
                rw [fits]
                exact fitsLater more
            | @panicked next left front back ins parts underflow sentLater =>
                refine .panicked (item :: front) back ins (congrArg (item :: ·) parts) ?_
                  fun port => (sentLater port).trans (sentAll port front)
                rw [attemptsOf, spent]
                exact underflow
      · rw [refused]
        refine .refused [] (item :: rest) rfl rfl (by simp) (fun port => by simp [sent]) ?_
        intro more
        have first : ∃ others, (spec.attemptsOf (item :: rest) budget).1 = item :: others := by
          unfold attemptsOf
          split
          · exact ⟨[], rfl⟩
          · exact ⟨_, rfl⟩
        obtain ⟨others, same⟩ := first
        rw [same, List.cons_append]
        exact fits _

/-- What the loop takes, and that it loses something exactly if a push is refused. -/
structure Passes [DecidableEq ι] (spec : Dropping ι ο σ) (state : σ) (budget : Nat) (call : Call ι ο)
    (after : Passed ι ο σ) : Prop where
  took : ∃ new lost, Call.Took spec.inn call after.call new ∧
    Balance call.outs [] (spec.emitted state new) after.call.outs [] lost ∧
    (after.ended ≠ some .panicked →
      (lost = [] ↔ call.outs.fits (spec.attempts state budget (call.inbox spec.inn)) = true))
  ends : after.ended = none ∨ after.ended = some .panicked ∧ ¬ spec.OneForOne ∨
    after.ended = some (.result .finished) ∧
      call.outs.fits (spec.attempts state budget (call.inbox spec.inn)) = false
  left : spec.OneForOne → call.outs.fits (spec.attempts state budget (call.inbox spec.inn)) = true →
    after.call.inbox spec.inn = (call.inbox spec.inn).drop budget ∧
      after.remainingBudget = budget - (call.inbox spec.inn).length ∧
      ∀ rest, call.outs.fits (spec.attempts state budget (call.inbox spec.inn) ++ rest) = after.call.outs.fits rest

variable [DecidableEq ι]

/-- A loop that ends before it takes anything. -/
theorem passes_nothing {state : σ} {budget : Nat} {call : Call ι ο}
    (idle : budget = 0 ∨ call.inbox spec.inn = []) : spec.Passes state budget call ⟨state, call, budget, .none⟩ := by
  have none : spec.attempts state budget (call.inbox spec.inn) = [] := by
    rcases idle with spent | empty
    · cases call.inbox spec.inn with
      | nil => rfl
      | cons ip rest => exact if_pos spent
    · rw [empty]
      rfl
  refine ⟨⟨[], [], .of_eq rfl, .still fun _ => rfl, fun _ => ?_⟩, .inl rfl, fun _ _ => ⟨?_, ?_, ?_⟩⟩
  · rw [none]
    exact ⟨fun _ => rfl, fun _ => rfl⟩
  · rcases idle with rfl | empty
    · rfl
    · simp [empty]
  · rcases idle with rfl | empty
    · exact (Nat.zero_sub _).symm
    · simp [empty]
  · rw [none]
    exact fun _ => rfl

section
variable {state next : σ} {budget left : Nat} {call offered : Call ι ο} {ip : FbpMessage}
variable {items lost front : List (ο × FbpMessage)} {after : Passed ι ο σ}

/-- A packet makes the component panic. -/
theorem passes_panicked (took : Call.Took spec.inn call offered [ip])
    (balance : Balance call.outs [] (spec.emitted state [ip]) offered.outs [] lost) (several : ¬ spec.OneForOne) :
    spec.Passes state budget call ⟨state, offered, left, some .panicked⟩ :=
  ⟨⟨[ip], lost, took, balance, fun calm => absurd rfl calm⟩, .inr (.inl ⟨rfl, several⟩),
    fun oneForOne => absurd oneForOne several⟩

/-- The loop goes on after all items of a packet have been accepted. -/
theorem passes_accepted (positive : budget ≠ 0) (emits : spec.emit state ip = some (next, items))
    (took : Call.Took spec.inn call offered [ip])
    (attempts : spec.attemptsOf items budget = (items, some left))
    (sent : ∀ port, (offered.outs port).sent = (call.outs port).sent ++ addressed port items)
    (fits : ∀ rest, call.outs.fits (items ++ rest) = offered.outs.fits rest)
    (rounds : spec.Passes next left offered after) : spec.Passes state budget call after := by
  obtain ⟨⟨new, lost, more, balance, exact⟩, ends, fine⟩ := rounds
  have inbox : call.inbox spec.inn = ip :: offered.inbox spec.inn := took.inbox
  obtain ⟨later, pushes, goesOn⟩ := spec.attempts_cons (offered.inbox spec.inn) positive emits
  rw [attempts] at pushes goesOn
  rw [goesOn left rfl] at pushes
  have same : call.outs.fits (spec.attempts state budget (call.inbox spec.inn)) =
      offered.outs.fits (spec.attempts next left (offered.inbox spec.inn)) := by
    rw [inbox, pushes]
    exact fits _
  rw [← same] at exact ends fine
  refine ⟨⟨ip :: new, lost, took.trans more, ?_, exact⟩, ends, ?_⟩
  · rw [spec.emitted_cons new emits]
    exact (Balance.forward sent).trans balance
  · intro oneForOne fit
    have spent : budget = left + 1 := by
      obtain ⟨_, item, one⟩ := oneForOne state ip
      cases emits.symm.trans one
      cases budget with
      | zero => exact absurd rfl positive
      | succ budget => simpa [attemptsOf, spend] using attempts
    obtain ⟨drained, budgetAfter, fitsAfter⟩ := fine oneForOne fit
    rw [inbox, spent]
    refine ⟨drained, ?_, fun more => ?_⟩
    · rw [List.length_cons, budgetAfter]
      omega
    · rw [← spent, pushes, List.append_assoc, fits]
      exact fitsAfter more

/-- An item of a packet has been refused. -/
structure Refusal (spec : Dropping ι ο σ) (state : σ) (budget : Nat) (call offered : Call ι ο) (ip : FbpMessage)
    (lost : List (ο × FbpMessage)) : Prop where
  took : Call.Took spec.inn call offered [ip]
  balance : Balance call.outs [] (spec.emitted state [ip]) offered.outs [] lost
  loses : lost ≠ []
  unfit : call.outs.fits (spec.attempts state budget (call.inbox spec.inn)) = false

/-- The loop ends with the refusal. -/
theorem Refusal.stops (refusal : spec.Refusal state budget call offered ip lost) {ended : Option Returned}
    (kind : ended = none ∨ ended = some (.result .finished)) :
    spec.Passes state budget call ⟨state, offered, left, ended⟩ := by
  refine ⟨⟨[ip], lost, refusal.took, refusal.balance, fun _ => ?_⟩, ?_, fun _ fit => ?_⟩
  · simp [refusal.loses, refusal.unfit]
  · rcases kind with none | finished
    · exact .inl none
    · exact .inr (.inr ⟨finished, refusal.unfit⟩)
  · cases refusal.unfit.symm.trans fit

/-- The loop goes on after the refusal. -/
theorem Refusal.goesOn (refusal : spec.Refusal state budget call offered ip lost)
    (emits : spec.emit state ip = some (next, items)) (rounds : spec.Passes next left offered after) :
    spec.Passes state budget call after := by
  obtain ⟨⟨new, gone, more, later, _⟩, ends, _⟩ := rounds
  have balance := refusal.balance
  have single : spec.emitted state [ip] = items := by simp [emitted, emits]
  refine ⟨⟨ip :: new, lost ++ gone, refusal.took.trans more, ?_, fun _ => ?_⟩, ?_,
    fun _ fit => ?_⟩
  · rw [spec.emitted_cons new emits, ← single]
    exact balance.trans later
  · simp [refusal.loses, refusal.unfit]
  · rcases ends with ended | ended | ⟨ended, _⟩
    · exact .inl ended
    · exact .inr (.inl ended)
    · exact .inr (.inr ⟨ended, refusal.unfit⟩)
  · cases refusal.unfit.symm.trans fit

end

theorem rounds_passes {count : Nat} {call : Call ι ο} (enough : (call.inbox spec.inn).length = count)
    (state : σ) (budget : Nat) : spec.Passes state budget call (spec.rounds count state budget call) := by
  induction count generalizing state budget call with
  | zero => exact passes_nothing (.inr (List.length_eq_zero_iff.mp enough))
  | succ count ih =>
      unfold rounds
      split
      · next spent => exact passes_nothing (.inl spent)
      · next positive =>
          rcases call.pop_cases spec.inn with ⟨empty, _⟩ | ⟨ip, rest, popped, found, taken, took, left, outs, _⟩
          · rw [empty] at enough
            cases enough
          · rw [taken]
            dsimp only
            cases emits : spec.emit state ip with
            | none =>
                have nothing : spec.emitted state [ip] = [] := by simp [emitted, emits]
                have balance : Balance call.outs [] (spec.emitted state [ip]) popped.outs [] [] := by
                  rw [nothing, outs]
                  exact .still fun _ => rfl
                refine passes_panicked took balance fun oneForOne => ?_
                obtain ⟨_, _, one⟩ := oneForOne state ip
                cases emits.symm.trans one
            | some result =>
                obtain ⟨next, items⟩ := result
                have single : spec.emitted state [ip] = items := by simp [emitted, emits]
                have fares := spec.fares items budget popped
                dsimp only
                generalize spec.offer items budget popped = offered at fares ⊢
                have size {offered : Call ι ο} (ins : offered.ins = popped.ins) :
                    (offered.inbox spec.inn).length = count := by
                  have inbox : offered.inbox spec.inn = rest := by
                    rw [← left, Call.inbox, ins]
                    rfl
                  rw [inbox]
                  rw [found] at enough
                  exact Nat.succ.inj enough
                cases fares with
                | @accepted offered budgetLeft ins attempts sent fits =>
                    rw [outs] at sent fits
                    exact passes_accepted positive emits (took.congr ins) attempts sent fits
                      (ih (size ins) next budgetLeft)
                | @panicked offered budgetLeft front back ins parts underflow sent =>
                    rw [outs] at sent
                    have balance : Balance call.outs [] (spec.emitted state [ip]) offered.outs [] back := by
                      rw [single, parts]
                      exact (Balance.forward sent).trans (.lose fun _ => rfl)
                    refine passes_panicked (took.congr ins) balance fun oneForOne => ?_
                    obtain ⟨_, _, one⟩ := oneForOne state ip
                    cases emits.symm.trans one
                    cases budget with
                    | zero => exact absurd rfl positive
                    | succ budget => simp [attemptsOf, spend] at underflow
                | @refused offered budgetLeft front back ins parts lost sent fits =>
                    rw [outs] at sent fits
                    have refusal : spec.Refusal state budget call offered ip back := by
                      refine ⟨took.congr ins, ?_, lost, ?_⟩
                      · rw [single, parts]
                        exact (Balance.forward sent).trans (.lose fun _ => rfl)
                      · obtain ⟨later, pushes, _⟩ := spec.attempts_cons rest positive emits
                        rw [found, pushes]
                        exact fits _
                    dsimp only
                    split
                    · exact refusal.stops (.inl rfl)
                    · exact refusal.goesOn emits (ih (size ins) next budgetLeft)
                    · exact refusal.stops (.inr rfl)

theorem passes (spec : Dropping ι ο σ) (state : σ) (budget : Nat) (call : Call ι ο) :
    spec.Passes state budget call (spec.pass state budget call) :=
  spec.rounds_passes rfl state budget

/-- A loop that does not go on after a refusal sends the first of what it emits. -/
theorem rounds_sends (stops : spec.whenFull ≠ .goOn) (count : Nat) (state : σ) (budget : Nat) (call : Call ι ο) :
    ∃ new front, Call.Took spec.inn call (spec.rounds count state budget call).call new ∧
      front <+: spec.emitted state new ∧
      ∀ port, ((spec.rounds count state budget call).call.outs port).sent =
        (call.outs port).sent ++ addressed port front := by
  have nothing : ∃ new front, Call.Took spec.inn call call new ∧ front <+: spec.emitted state new ∧
      ∀ port, (call.outs port).sent = (call.outs port).sent ++ addressed port front :=
    ⟨[], [], .of_eq rfl, List.nil_prefix, fun _ => (List.append_nil _).symm⟩
  induction count generalizing state budget call with
  | zero => exact nothing
  | succ count ih =>
      unfold rounds
      split
      · exact nothing
      · rcases call.pop_cases spec.inn with ⟨_, none⟩ | ⟨ip, rest, popped, _, taken, took, _, outs, _⟩
        · rw [none]
          exact nothing
        · rw [taken]
          dsimp only
          cases emits : spec.emit state ip with
          | none => exact ⟨[ip], [], took, List.nil_prefix, fun port => by simp [outs]⟩
          | some result =>
              obtain ⟨next, items⟩ := result
              have single : spec.emitted state [ip] = items := by simp [emitted, emits]
              have fares := spec.fares items budget popped
              dsimp only
              generalize spec.offer items budget popped = offered at fares ⊢
              cases fares with
              | @accepted offered left ins _ sent _ =>
                  dsimp only
                  obtain ⟨new, front, more, first, sentLater⟩ := ih next left offered
                    ⟨[], [], .of_eq rfl, List.nil_prefix, fun _ => (List.append_nil _).symm⟩
                  refine ⟨ip :: new, items ++ front, (took.congr ins).trans more, ?_, fun port => ?_⟩
                  · rw [spec.emitted_cons new emits]
                    exact (List.prefix_append_right_inj items).mpr first
                  · rw [sentLater, sent, outs, addressed_append, List.append_assoc]
              | panicked front back ins parts _ sent =>
                  refine ⟨[ip], front, took.congr ins, ?_, fun port => by rw [sent, outs]⟩
                  rw [single, parts]
                  exact List.prefix_append front back
              | refused front back ins parts _ sent _ =>
                  dsimp only
                  split
                  · refine ⟨[ip], front, took.congr ins, ?_, fun port => by rw [sent, outs]⟩
                    rw [single, parts]
                    exact List.prefix_append front back
                  · next goesOn => exact absurd goesOn stops
                  · refine ⟨[ip], front, took.congr ins, ?_, fun port => by rw [sent, outs]⟩
                    rw [single, parts]
                    exact List.prefix_append front back

end Dropping

variable {S κ : Type}

/-- What `process` does before its loop: it returns, or it goes on with the
configuration `conf`. -/
inductive Opening (S κ ι ο : Type) where
  | returns (state : S) (call : Call ι ο) (returned : Returned)
  | proceeds (state : S) (conf : κ) (call : Call ι ο)

/-- The items that depend on how the loop is entered. -/
def Opening.items {S κ ι ο : Type} (opening : Opening S κ ι ο) (entered : S → κ → List (ο × FbpMessage)) :
    List (ο × FbpMessage) :=
  match opening with
  | .returns .. => []
  | .proceeds state conf _ => entered state conf

/-- The signals are handled first, and that is all. -/
def Opening.listen {S κ ι ο : Type} (reads : FbpMessage → Option String) (state : S) (conf : κ) (call : Call ι ο) :
    Opening S κ ι ο :=
  match call.poll reads with
  | (call, true) => .returns state call (.result .finished)
  | (call, false) => .proceeds state conf call

/-- The signals are handled first; then a configuration is read if there is none yet.
With `pauses` a call that has read it returns. -/
def Opening.configure {κ ι ο : Type} [DecidableEq ι] (reads : FbpMessage → Option String) (port : ι)
    (parse : String → Option κ) (pauses : Bool) (state : Option κ) (call : Call ι ο) : Opening (Option κ) κ ι ο :=
  match call.poll reads with
  | (call, true) => .returns state call (.result .finished)
  | (call, false) =>
      match state with
      | some conf => .proceeds (some conf) conf call
      | none =>
          match call.pop port with
          | none => .returns none call (.result .noWork)
          | some (packet, call) =>
              match packet.asText with
              | none => .returns none call .panicked
              | some text =>
                  match parse text with
                  | none => .returns none call (.result .finished)
                  | some conf =>
                      if pauses then .returns (some conf) call (.result (.didWork 1))
                      else .proceeds (some conf) conf call.worked

/-- The next configuration is invalid. -/
def Opening.declines {κ ι ο : Type} (port : ι) (parse : String → Option κ) (state : Option κ) (call : Call ι ο) :
    Bool :=
  state.isNone && ((call.inbox port).head?.bind FbpMessage.asText).any fun text => (parse text).isNone

/-- A component around such a loop: what it does first, what the loop starts with,
and what it keeps of the state of the loop. -/
structure Dropper (S κ ι ο σ : Type) where
  inn : ι
  reads : FbpMessage → Option String
  opening : S → Call ι ο → Opening S κ ι ο
  declines : S → Call ι ο → Bool
  emit : κ → σ → FbpMessage → Option (σ × List (ο × FbpMessage))
  whenFull : WhenFull
  overflowChecks : Bool
  enter : S → σ
  leave : S → σ → S

namespace Dropper

variable (dropper : Dropper S κ ι ο σ)

def loop (conf : κ) : Dropping ι ο σ where
  inn := dropper.inn
  emit := dropper.emit conf
  whenFull := dropper.whenFull
  overflowChecks := dropper.overflowChecks

section
variable [DecidableEq ι] [DecidableEq ο]

/-- `if inn.is_abandoned() { Finished }` and the result that depends on the work done. -/
def process (state : S) (call : Call ι ο) (remainingBudget : Nat) : Outcome S ι ο :=
  match dropper.opening state call.begin with
  | .returns state call returned => ⟨state, call, remainingBudget, returned⟩
  | .proceeds state conf call =>
      let passed := (dropper.loop conf).pass (dropper.enter state) remainingBudget call
      ⟨dropper.leave state passed.state, passed.call, passed.remainingBudget,
        passed.ended.getD
          (if passed.call.isAbandoned dropper.inn then .result .finished else passed.call.didWork)⟩

def component (new : S) : Component where
  In := ι
  Out := ο
  State := S
  new
  process := dropper.process
  reads := dropper.reads
  streams port := port = dropper.inn
  held _ := []
  owes state before after := (dropper.opening state before.begin).items fun state conf =>
    (dropper.loop conf).emitted (dropper.enter state) (before.fresh after dropper.inn)
  exposed state call budget := (dropper.opening state call.begin).items fun state conf =>
    (dropper.loop conf).attempts (dropper.enter state) budget (call.inbox dropper.inn)
  declines := dropper.declines

end

/-- What the part before the loop leaves alone, and why it finishes. -/
inductive Opens (state : S) (call : Call ι ο) : Opening S κ ι ο → Prop where
  | returns {later : S} {next : Call ι ο} {returned : Returned}
      (inlet : next.ins dropper.inn = call.ins dropper.inn) (outs : next.outs = call.outs)
      (reason : returned = .result .finished → next.Stopped dropper.reads ∨ dropper.declines state call = true) :
      Opens state call (.returns later next returned)
  | proceeds {later : S} {conf : κ} {next : Call ι ο}
      (inlet : next.ins dropper.inn = call.ins dropper.inn) (outs : next.outs = call.outs) :
      Opens state call (.proceeds later conf next)

variable {dropper}

theorem opens_listen {state later : S} {call : Call ι ο} {conf : κ} :
    dropper.Opens state call (.listen dropper.reads later conf call.begin) := by
  obtain ⟨signalsIn, signalsOut, new, polled, stops⟩ := call.begin.poll_cases dropper.reads
  unfold Opening.listen
  generalize call.begin.poll dropper.reads = result at polled stops ⊢
  obtain ⟨listened, stop⟩ := result
  have same : listened = { call.begin with signalsIn, signalsOut, heard := call.begin.heard ++ new } := polled
  cases stop with
  | true => exact .returns (by rw [same]; rfl) (by rw [same]; rfl) fun _ => .inl (stops rfl)
  | false => exact .proceeds (by rw [same]; rfl) (by rw [same]; rfl)

variable [DecidableEq ι]

theorem opens_configure {dropper : Dropper (Option κ) κ ι ο σ} {port : ι} {parse : String → Option κ} {pauses : Bool}
    (different : dropper.inn ≠ port)
    (declines : ∀ state call, dropper.declines state call = Opening.declines port parse state call)
    {state : Option κ} {call : Call ι ο} :
    dropper.Opens state call (.configure dropper.reads port parse pauses state call.begin) := by
  obtain ⟨signalsIn, signalsOut, new, polled, stops⟩ := call.begin.poll_cases dropper.reads
  unfold Opening.configure
  generalize call.begin.poll dropper.reads = result at polled stops ⊢
  obtain ⟨listened, stop⟩ := result
  have same : listened = { call.begin with signalsIn, signalsOut, heard := call.begin.heard ++ new } := polled
  have ins : listened.ins = call.ins := by rw [same]; rfl
  have outs : listened.outs = call.outs := by rw [same]; rfl
  cases stop with
  | true => exact .returns (by rw [ins]) outs fun _ => .inl (stops rfl)
  | false =>
      dsimp only
      cases state with
      | some conf => exact .proceeds (by rw [ins]) outs
      | none =>
          dsimp only
          rcases listened.pop_cases port with ⟨_, popped⟩ | ⟨packet, rest, next, found, popped, took, _, kept, _⟩
          · rw [popped]
            exact .returns (by rw [ins]) outs fun finished => by cases finished
          · rw [popped]
            have inlet : next.ins dropper.inn = call.ins dropper.inn := by
              rw [took.others _ different, ins]
            have kept : next.outs = call.outs := kept.trans outs
            have head : (call.inbox port).head? = some packet := by
              have inbox : call.inbox port = packet :: rest := by rw [← found, Call.inbox, Call.inbox, ins]
              rw [inbox, List.head?_cons]
            dsimp only
            cases read : packet.asText with
            | none => exact .returns inlet kept fun finished => by cases finished
            | some text =>
                dsimp only
                cases parsed : parse text with
                | none =>
                    refine .returns inlet kept fun _ => .inr ?_
                    rw [declines]
                    simp [Opening.declines, head, read, parsed]
                | some conf =>
                    cases pauses with
                    | true => exact .returns inlet kept fun finished => by cases finished
                    | false => exact .proceeds inlet kept

variable [DecidableEq ο]

/-- A call loses something exactly if it offers an item to a full output. -/
theorem ledger {new : S} (opens : ∀ state call, dropper.Opens state call (dropper.opening state call.begin)) :
    Ledger (dropper.component new) := by
  rintro ⟨(state : S), (call : Call ι ο), budget⟩
  have called : (Invocation.mk state call budget : Invocation (dropper.component new)).outcome =
    dropper.process state call budget := rfl
  rw [called]
  have opens := opens state call
  generalize processed : dropper.process state call budget = outcome
  unfold process at processed
  change ∃ lost, Balance call.outs []
    ((dropper.opening state call.begin).items fun state conf => (dropper.loop conf).emitted (dropper.enter state)
      (call.fresh outcome.call dropper.inn)) outcome.call.outs [] lost ∧
    (outcome.returned ≠ .panicked → (lost = [] ↔
      call.outs.fits ((dropper.opening state call.begin).items fun state conf =>
        (dropper.loop conf).attempts (dropper.enter state) budget (call.inbox dropper.inn)) = true))
  generalize dropper.opening state call.begin = opening at opens processed ⊢
  cases opens with
  | returns inlet outs reason =>
      subst processed
      exact ⟨[], .still fun _ => by rw [outs], fun _ => ⟨fun _ => rfl, fun _ => rfl⟩⟩
  | @proceeds later conf next inlet outs =>
      obtain ⟨⟨new, lost, took, balance, exact⟩, _, _⟩ :=
        (dropper.loop conf).passes (dropper.enter later) budget next
      subst processed
      dsimp only [Opening.items]
      generalize (dropper.loop conf).pass (dropper.enter later) budget next = passed at took balance exact ⊢
      have fresh : call.fresh passed.call dropper.inn = new := by
        rw [← took.fresh]
        unfold Call.fresh Call.taken
        rw [← inlet]
        rfl
      have inbox : next.inbox dropper.inn = call.inbox dropper.inn := by
        unfold Call.inbox
        rw [inlet]
      rw [fresh, ← outs, ← inbox]
      refine ⟨lost, balance, fun calm => exact fun panicked => calm ?_⟩
      rw [panicked]
      rfl

/-- Only a stop, an invalid configuration, the end of the input or a full output ends
the component. -/
theorem reasonable {new : S} (opens : ∀ state call, dropper.Opens state call (dropper.opening state call.begin)) :
    Reasonable (dropper.component new) := by
  rintro ⟨(state : S), (call : Call ι ο), budget⟩ finished roomy
  have called : (Invocation.mk state call budget : Invocation (dropper.component new)).outcome =
    dropper.process state call budget := rfl
  unfold Invocation.HasReason
  rw [called] at finished ⊢
  have opens := opens state call
  generalize processed : dropper.process state call budget = outcome at finished ⊢
  unfold process at processed
  change outcome.returned = .result .finished at finished
  change call.outs.fits ((dropper.opening state call.begin).items fun state conf =>
    (dropper.loop conf).attempts (dropper.enter state) budget (call.inbox dropper.inn)) = true at roomy
  change outcome.call.Stopped dropper.reads ∨ dropper.declines state call = true ∨
    ∀ port, port = dropper.inn → call.isAbandoned port = true
  generalize dropper.opening state call.begin = opening at opens processed roomy
  cases opens with
  | returns inlet outs reason =>
      subst processed
      rcases reason finished with stopped | declined
      · exact .inl stopped
      · exact .inr (.inl declined)
  | @proceeds later conf next inlet outs =>
      obtain ⟨⟨new, lost, took, balance, exact⟩, ends, _⟩ :=
        (dropper.loop conf).passes (dropper.enter later) budget next
      subst processed
      dsimp only [Opening.items] at finished roomy ⊢
      generalize (dropper.loop conf).pass (dropper.enter later) budget next = passed at took ends finished ⊢
      have inbox : next.inbox dropper.inn = call.inbox dropper.inn := by
        unfold Call.inbox
        rw [inlet]
      rcases ends with ended | ⟨ended, _⟩ | ⟨_, unfit⟩
      · rw [ended] at finished
        dsimp only [Option.getD_none] at finished
        split at finished
        · next abandoned =>
            refine .inr (.inr fun port same => ?_)
            subst same
            have before : next.isAbandoned dropper.inn = true := (took.abandoned _).symm.trans abandoned
            unfold Call.isAbandoned at before ⊢
            rw [← inlet]
            exact before
        · exact absurd finished (Call.didWork_ne_finished _)
      · rw [ended] at finished
        cases finished
      · rw [outs] at unfit
        change call.outs.fits ((dropper.loop conf).attempts (dropper.enter later) budget
          (next.inbox dropper.inn)) = false at unfit
        rw [inbox, roomy] at unfit
        cases unfit

/-- The component as one that passes on all it gets. -/
def stream (dropper : Dropper S κ ι ο σ) (new : S) : StreamComponent where
  toComponent := dropper.component new
  affords _ call budget := (call.inbox dropper.inn).length ≤ budget
  backlog state call := (dropper.opening state call.begin).items fun state conf =>
    (dropper.loop conf).emitted (dropper.enter state) (call.inbox dropper.inn)

/-- Its finish test is good for what the budget and the outputs let through. -/
theorem closes {new : S} (opens : ∀ state call, dropper.Opens state call (dropper.opening state call.begin))
    (oneForOne : ∀ conf, (dropper.loop conf).OneForOne) (accepts : ∀ state call, dropper.declines state call = false) :
    Closes (dropper.stream new) := by
  rintro ⟨(state : S), (call : Call ι ο), budget⟩ ⟨finished, unasked⟩
  have called : (Invocation.mk state call budget : Invocation (dropper.stream new).toComponent).outcome =
    dropper.process state call budget := rfl
  rw [called] at finished unasked ⊢
  have opens := opens state call
  generalize processed : dropper.process state call budget = outcome at finished unasked ⊢
  unfold process at processed
  change outcome.returned = .result .finished at finished
  change ¬ outcome.call.Stopped dropper.reads at unasked
  have left : outcome.call.inbox dropper.inn = [] ∧ call.outs.fits ((dropper.opening state call.begin).items
      fun state conf => (dropper.loop conf).attempts (dropper.enter state) budget (call.inbox dropper.inn)) = true ↔
      (call.inbox dropper.inn).length ≤ budget ∧ call.outs.fits ((dropper.opening state call.begin).items
        fun state conf => (dropper.loop conf).emitted (dropper.enter state) (call.inbox dropper.inn)) = true := by
    generalize dropper.opening state call.begin = opening at opens processed ⊢
    cases opens with
    | returns inlet outs reason =>
        subst processed
        rcases reason finished with stopped | declined
        · exact absurd stopped unasked
        · cases declined.symm.trans (accepts state call)
    | @proceeds later conf next inlet outs =>
        obtain ⟨_, _, left⟩ := (dropper.loop conf).passes (dropper.enter later) budget next
        subst processed
        dsimp only [Opening.items]
        generalize (dropper.loop conf).pass (dropper.enter later) budget next = passed at left ⊢
        have inbox : next.inbox dropper.inn = call.inbox dropper.inn := by
          unfold Call.inbox
          rw [inlet]
        have attempts := (oneForOne conf).attempts (dropper.enter later) budget (call.inbox dropper.inn)
        have left : call.outs.fits ((dropper.loop conf).emitted (dropper.enter later)
            ((call.inbox dropper.inn).take budget)) = true →
            passed.call.inbox dropper.inn = (call.inbox dropper.inn).drop budget := by
          intro fit
          rw [← attempts, ← outs, ← inbox] at fit
          have drained := (left (oneForOne conf) fit).1
          rw [← inbox]
          exact drained
        rw [attempts]
        constructor
        · rintro ⟨empty, fit⟩
          have short := List.drop_eq_nil_iff.mp ((left fit).symm.trans empty)
          exact ⟨short, by rwa [List.take_of_length_le short] at fit⟩
        · rintro ⟨short, fit⟩
          rw [List.take_of_length_le short] at left ⊢
          exact ⟨(left fit).trans (List.drop_eq_nil_iff.mpr short), fit⟩
  refine Iff.trans ?_ left
  constructor
  · rintro ⟨empty, _, roomy⟩
    exact ⟨empty _ rfl, roomy⟩
  · rintro ⟨empty, roomy⟩
    refine ⟨?_, rfl, roomy⟩
    rintro _ rfl
    exact empty

end Dropper

end Flowd
