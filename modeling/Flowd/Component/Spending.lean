import Flowd.Component.Delay
import Flowd.Component.Droppers
import Flowd.Lib.Sequence

namespace Flowd

/-! What the components whose decrements sit in an inner loop make of their budget. -/

/-- No decrement underflows, and no more packets are taken from IN, or pushed to OUT, than the budget says. -/
structure WithinBudget (budget : Nat) (underflows : Prop) (taken pushed : Nat) : Prop where
  decrements : ¬ underflows
  takes : taken ≤ budget
  pushes : pushed ≤ budget

/-- Packets with so many results each: while fewer results than the budget come before a packet, the
budget covers its results too; and the first packets have enough of them to keep the number of packets
within the budget. -/
def Affordable (budget : Nat) (results : List Nat) : Prop :=
  (∀ count < results.length, (results.take count).sum < budget → (results.take (count + 1)).sum ≤ budget) ∧
    (budget < results.length → budget ≤ (results.take budget).sum)

instance (budget : Nat) (results : List Nat) : Decidable (Affordable budget results) :=
  inferInstanceAs (Decidable ((∀ count < results.length, _ → _) ∧ (_ → _)))

/-! The loop that pays for the results of a packet after it has taken the packet. -/

/-- The budget covers the results of each packet that is taken. -/
def pays : Nat → List Nat → Prop
  | _, [] => True
  | budget, results :: rest => budget = 0 ∨ results ≤ budget ∧ pays (budget - results) rest

/-- How many packets are taken. -/
def takes : Nat → List Nat → Nat
  | _, [] => 0
  | budget, results :: rest => if budget = 0 then 0 else takes (budget - results) rest + 1

theorem pays_iff (budget : Nat) (results : List Nat) : pays budget results ↔
    ∀ count < results.length, (results.take count).sum < budget → (results.take (count + 1)).sum ≤ budget := by
  induction results generalizing budget with
  | nil => simp [pays]
  | cons first rest ih =>
      unfold pays
      rw [ih]
      constructor
      · rintro (zero | ⟨covered, later⟩) count less before
        · omega
        · cases count with
          | zero => simpa using covered
          | succ count =>
              simp only [List.take_succ_cons, List.sum_cons] at before ⊢
              have step := later count (by simpa using less) (by omega)
              omega
      · intro every
        by_cases zero : budget = 0
        · exact .inl zero
        · have covered : first ≤ budget := by
            have step := every 0 (by simp) (by simpa using Nat.pos_of_ne_zero zero)
            simpa using step
          refine .inr ⟨covered, fun count less before => ?_⟩
          have step := every (count + 1) (by simpa using less) (by
            simp only [List.take_succ_cons, List.sum_cons]
            omega)
          simp only [List.take_succ_cons, List.sum_cons] at step
          omega

theorem takes_le_iff (limit budget : Nat) (results : List Nat) :
    takes budget results ≤ limit ↔ (limit < results.length → budget ≤ (results.take limit).sum) := by
  induction results generalizing limit budget with
  | nil => simp [takes]
  | cons first rest ih =>
      unfold takes
      split
      · next zero => simp [zero]
      · next positive =>
          cases limit with
          | zero => simp [positive]
          | succ limit =>
              rw [Nat.add_le_add_iff_right, ih]
              simp only [List.length_cons, Nat.add_lt_add_iff_right, List.take_succ_cons, List.sum_cons,
                Nat.sub_le_iff_le_add']

theorem affordable_iff (budget : Nat) (results : List Nat) :
    Affordable budget results ↔ pays budget results ∧ takes budget results ≤ budget := by
  rw [pays_iff, takes_le_iff]
  rfl

namespace Dropping

variable {ι σ : Type} {spec : Dropping ι OutPort σ}

/-- The results of one packet are paid as far as OUT accepts them. -/
theorem offer_paid (checks : spec.overflowChecks = true) (items : List (OutPort × FbpMessage)) (budget : Nat)
    (call : Call ι OutPort) :
    (budget < call.outs.accepts items → (spec.offer items budget call).verdict = .panicked) ∧
      (call.outs.accepts items ≤ budget → (spec.offer items budget call).verdict ≠ .panicked ∧
        (spec.offer items budget call).remainingBudget = budget - call.outs.accepts items ∧
        (spec.offer items budget call).call.outs = (call.outs.offer items).2 ∧
        (spec.offer items budget call).call.ins = call.ins ∧
        ((call.outs.offer items).2 .out).sent.length = (call.outs .out).sent.length + call.outs.accepts items) := by
  induction items generalizing budget call with
  | nil => exact ⟨fun none => absurd none (Nat.not_lt_zero _), fun _ => ⟨by simp [offer], rfl, rfl, rfl, rfl⟩⟩
  | cons item rest ih =>
      have pushed : call.push item = ({ call with outs := (call.outs.push item).1 }, (call.outs.push item).2) := rfl
      unfold offer
      rw [pushed]
      cases accepted : (call.outs.push item).2 with
      | false =>
          rw [Outlets.accepts_refused accepted]
          refine ⟨fun none => absurd none (Nat.not_lt_zero _), fun _ => ⟨by simp, rfl, ?_, rfl, ?_⟩⟩
          · simp [Outlets.offer, accepted]
          · simp [Outlets.offer, accepted, Outlets.sent_refused accepted]
      | true =>
          rw [Outlets.accepts_accepted accepted]
          have one : (((call.outs.push item).1) .out).sent.length = (call.outs .out).sent.length + 1 := by
            obtain ⟨port, packet⟩ := item
            cases port
            rw [Outlets.sent_accepted accepted, addressed_singleton_self, List.length_append, List.length_singleton]
          dsimp only
          cases budget with
          | zero =>
              refine ⟨fun _ => by simp [spend, checks], fun short => absurd short (by omega)⟩
          | succ budget =>
              obtain ⟨beyond, within⟩ := ih budget ({ call with outs := (call.outs.push item).1 } : Call ι OutPort).worked
              refine ⟨fun short => beyond ?_, fun enough => ?_⟩
              · change budget < (call.outs.push item).1.accepts rest
                omega
              · obtain ⟨calm, left, outs, ins, sent⟩ := within (Nat.le_of_succ_le_succ enough)
                refine ⟨calm, ?_, ?_, ins, ?_⟩
                · rw [show (spec.spend (budget + 1)) = some budget from rfl]
                  change (spec.offer rest budget _).remainingBudget = _
                  rw [left]
                  change budget - (call.outs.push item).1.accepts rest = _
                  omega
                · rw [show (spec.spend (budget + 1)) = some budget from rfl]
                  simp only [Outlets.offer, accepted, if_true]
                  exact outs
                · simp only [Outlets.offer, accepted, if_true]
                  change (((call.outs.push item).1.offer rest).2 .out).sent.length =
                    ((call.outs.push item).1 .out).sent.length + (call.outs.push item).1.accepts rest at sent
                  omega

variable [DecidableEq ι]

/-- What is left of the budget and what has been pushed make up what there was. -/
structure Pays (spec : Dropping ι OutPort σ) (budget taken : Nat) (call : Call ι OutPort) (passed : Passed ι OutPort σ) :
    Prop where
  calm : passed.ended ≠ some .panicked
  took : ∃ new, Call.Took spec.inn call passed.call new ∧ new.length = taken
  paid : passed.remainingBudget + (passed.call.outs .out).sent.length = budget + (call.outs .out).sent.length

theorem rounds_pays (checks : spec.overflowChecks = true) (goesOn : spec.whenFull = .goOn)
    (items : FbpMessage → List (OutPort × FbpMessage)) (emits : ∀ state ip, ∃ next, spec.emit state ip = some (next, items ip))
    (packets : List FbpMessage) (state : σ) (budget : Nat) (call : Call ι OutPort)
    (inbox : call.inbox spec.inn = packets) :
    (¬ pays budget (call.outs.served (packets.map items)) →
        (spec.rounds packets.length state budget call).ended = some .panicked) ∧
      (pays budget (call.outs.served (packets.map items)) →
        Pays spec budget (takes budget (call.outs.served (packets.map items))) call
          (spec.rounds packets.length state budget call)) := by
  induction packets generalizing state budget call with
  | nil => exact ⟨fun unpaid => absurd trivial unpaid, fun _ => ⟨by simp [rounds], ⟨[], .of_eq rfl, rfl⟩, rfl⟩⟩
  | cons ip rest ih =>
      rw [List.map_cons, List.length_cons]
      unfold rounds Outlets.served takes
      by_cases zero : budget = 0
      · rw [if_pos zero, if_pos zero]
        exact ⟨fun unpaid => absurd (.inl zero) unpaid, fun _ => ⟨by simp, ⟨[], .of_eq rfl, rfl⟩, rfl⟩⟩
      · rw [if_neg zero, if_neg zero]
        rcases call.pop_cases spec.inn with ⟨empty, _⟩ | ⟨packet, others, next, found, popped, took, left, outs, _, _⟩
        · rw [inbox] at empty
          cases empty
        · rw [inbox] at found
          cases found
          obtain ⟨after, emitted⟩ := emits state ip
          rw [popped]
          dsimp only
          rw [emitted]
          obtain ⟨short, enough⟩ := spec.offer_paid checks (items ip) budget next
          rw [outs] at short enough
          dsimp only
          by_cases covered : call.outs.accepts (items ip) ≤ budget
          · obtain ⟨calm, remaining, later, ins, sent⟩ := enough covered
            have onwards := ih after (spec.offer (items ip) budget next).remainingBudget
              (spec.offer (items ip) budget next).call (by unfold Call.inbox; rw [ins]; exact left)
            generalize spec.offer (items ip) budget next = offered at calm remaining later ins sent onwards ⊢
            have going : (¬ pays budget (call.outs.accepts (items ip) ::
                  Outlets.served (call.outs.offer (items ip)).2 (rest.map items)) →
                (spec.rounds rest.length after offered.remainingBudget offered.call).ended = some .panicked) ∧
              (pays budget (call.outs.accepts (items ip) ::
                  Outlets.served (call.outs.offer (items ip)).2 (rest.map items)) →
                Pays spec budget (takes (budget - call.outs.accepts (items ip))
                  (Outlets.served (call.outs.offer (items ip)).2 (rest.map items)) + 1) call
                  (spec.rounds rest.length after offered.remainingBudget offered.call)) := by
              rw [later, remaining] at onwards
              rw [remaining]
              refine ⟨fun unpaid => onwards.1 fun paid => unpaid (.inr ⟨covered, paid⟩), fun paid => ?_⟩
              obtain ⟨calmLater, ⟨new, tookLater, count⟩, balance⟩ := onwards.2 (paid.resolve_left zero).2
              refine ⟨calmLater, ⟨ip :: new, (took.congr ins).trans tookLater, congrArg (· + 1) count⟩, ?_⟩
              rw [balance, later, sent]
              omega
            cases verdict : offered.verdict with
            | accepted => exact going
            | panicked => exact absurd verdict calm
            | refused =>
                dsimp only
                rw [goesOn]
                exact going
          · rw [short (Nat.lt_of_not_le covered)]
            refine ⟨fun _ => rfl, fun paid => ?_⟩
            exact absurd (paid.resolve_left zero).1 covered

end Dropping

/-- One of the next signals is a stop. -/
def Call.StopsWithin {ι ο : Type} (reads : FbpMessage → Option String) (count : Nat) (call : Call ι ο) : Prop :=
  ∃ signal ∈ call.signalsIn.take count, reads signal = some "stop"

theorem Call.poll_signals {ι ο : Type} (reads : FbpMessage → Option String) (call : Call ι ο) :
    (call.poll reads).1.signalsIn = call.signalsIn.tail ∧
      ((call.poll reads).2 = true ↔ ∃ signal ∈ call.signalsIn.head?, reads signal = some "stop") := by
  have text (read : Option String) : read.getD "" = "stop" ↔ read = some "stop" := by
    cases read with
    | none => simp
    | some text => simp
  unfold poll
  cases waiting : call.signalsIn with
  | nil => simp [waiting]
  | cons signal rest =>
      dsimp only
      split
      · next stop => simp [(text _).mp stop]
      · next going =>
          rw [text] at going
          split
          · simp [going]
          · simp [going]

theorem Call.stopsWithin_one {ι ο : Type} (reads : FbpMessage → Option String) (call : Call ι ο) :
    (call.poll reads).2 = false ↔ ¬ call.StopsWithin reads 1 := by
  rw [← Bool.not_eq_true, (call.poll_signals reads).2]
  unfold StopsWithin
  cases call.signalsIn <;> simp

theorem Call.stopsWithin_succ {ι ο : Type} (reads : FbpMessage → Option String) (count : Nat) (call : Call ι ο) :
    call.StopsWithin reads (count + 1) ↔
      (call.poll reads).2 = true ∨ (call.poll reads).1.StopsWithin reads count := by
  obtain ⟨rest, stops⟩ := call.poll_signals reads
  rw [stops]
  unfold StopsWithin
  rw [rest]
  cases call.signalsIn <;> simp

/-- What a call of such a component takes from IN and pushes to OUT. -/
def Call.pushed {ι : Type} (before after : Call ι OutPort) : Nat :=
  (after.outs .out).sent.length - (before.outs .out).sent.length

namespace Dropper

variable {κ : Type} {dropper : Dropper (Option κ) κ ConfInPort OutPort Unit}

/-- A component that answers a packet with any number of items, and pays for each item that OUT accepts. -/
structure Answers (dropper : Dropper (Option κ) κ ConfInPort OutPort Unit) (parse : String → Option κ)
    (items : κ → FbpMessage → List (OutPort × FbpMessage)) : Prop where
  inn : dropper.inn = .inn
  opening : ∀ query call, dropper.opening query call = .configure dropper.reads .conf parse true query call
  checks : dropper.overflowChecks = true
  goesOn : dropper.whenFull = .goOn
  emits : ∀ conf state ip, dropper.emit conf state ip = some ((), items conf ip)

/-- With a query, only a decrement at zero panics. -/
theorem Answers.withinBudget_iff {parse : String → Option κ} {items : κ → FbpMessage → List (OutPort × FbpMessage)}
    (answers : Answers dropper parse items) (query : Option κ) (call : Call ConfInPort OutPort) (budget : Nat) :
    WithinBudget budget (query.isSome = true ∧ (dropper.process query call budget).returned = .panicked)
        (call.fresh (dropper.process query call budget).call .inn).length
        (call.pushed (dropper.process query call budget).call) ↔
      ∀ conf, query = some conf → ¬ call.StopsWithin dropper.reads 1 →
        Affordable budget (call.outs.served ((call.inbox .inn).map (items conf))) := by
  have idle {later : Outcome (Option κ) ConfInPort OutPort} (inn : later.call.ins .inn = call.ins .inn)
      (outs : later.call.outs = call.outs) (calm : ¬ (query.isSome = true ∧ later.returned = .panicked)) :
      WithinBudget budget (query.isSome = true ∧ later.returned = .panicked) (call.fresh later.call .inn).length
        (call.pushed later.call) := by
    refine ⟨calm, ?_, ?_⟩
    · simp [Call.fresh, Call.taken, inn]
    · simp [Call.pushed, outs]
  obtain ⟨signalsIn, signalsOut, heard, polled, _⟩ := call.begin.poll_cases dropper.reads
  change _ ↔ ∀ conf, query = some conf → ¬ call.begin.StopsWithin dropper.reads 1 → _
  rw [← call.begin.stopsWithin_one]
  unfold process
  rw [answers.opening]
  unfold Opening.configure
  cases result : call.begin.poll dropper.reads with
  | mk listened stop =>
  rw [result] at polled
  have same : listened = { call.begin with signalsIn, signalsOut, heard := call.begin.heard ++ heard } := polled
  have ins : listened.ins = call.ins := by rw [same]; rfl
  have outs : listened.outs = call.outs := by rw [same]; rfl
  cases stop with
  | true =>
      refine iff_of_true (idle (congrFun ins _) outs ?_) fun _ _ asked => by cases asked
      rintro ⟨_, panicked⟩
      cases panicked
  | false =>
      cases query with
      | none =>
          refine iff_of_true ?_ fun _ none => by cases none
          dsimp only
          rcases listened.pop_cases .conf with ⟨_, popped⟩ | ⟨packet, rest, next, _, popped, took, _, kept, _⟩
          · rw [popped]
            exact idle (congrFun ins _) outs fun impossible => by cases impossible.1
          · rw [popped]
            have inn : next.ins .inn = call.ins .inn :=
              (took.others _ ConfInPort.inn_ne_conf).trans (congrFun ins _)
            have still : next.outs = call.outs := kept.trans outs
            dsimp only
            cases packet.asText with
            | none => exact idle inn still fun impossible => by cases impossible.1
            | some text =>
                dsimp only
                cases parse text with
                | none => exact idle inn still fun impossible => by cases impossible.1
                | some conf =>
                    refine idle inn still fun impossible => ?_
                    cases impossible.2
      | some conf =>
          have loopInn : (dropper.loop conf).inn = .inn := answers.inn
          have inbox : listened.inbox (dropper.loop conf).inn = call.inbox .inn := by
            rw [loopInn]
            unfold Call.inbox
            rw [ins]
          obtain ⟨unpaid, paid⟩ := (dropper.loop conf).rounds_pays answers.checks answers.goesOn (items conf)
            (fun state ip => ⟨(), answers.emits conf state ip⟩) (call.inbox .inn) (dropper.enter (some conf)) budget
            listened inbox
          dsimp only
          unfold Dropping.pass
          rw [inbox]
          rw [outs] at unpaid paid
          have affordable := affordable_iff budget (call.outs.served ((call.inbox .inn).map (items conf)))
          have onlyConf : (∀ other, some conf = some other → (false : Bool) = false →
              Affordable budget (call.outs.served ((call.inbox .inn).map (items other)))) ↔
                Affordable budget (call.outs.served ((call.inbox .inn).map (items conf))) :=
            ⟨fun every => every conf rfl rfl, fun fits other conf _ => Option.some.inj conf ▸ fits⟩
          rw [onlyConf, affordable]
          generalize (dropper.loop conf).rounds (call.inbox .inn).length (dropper.enter (some conf)) budget
            listened = passed at unpaid paid ⊢
          by_cases covered : pays budget (call.outs.served ((call.inbox .inn).map (items conf)))
          · obtain ⟨calm, ⟨new, took, count⟩, balance⟩ := paid covered
            rw [loopInn] at took
            have fresh : call.fresh passed.call .inn = new := by
              rw [← took.fresh]
              unfold Call.fresh Call.taken
              rw [ins]
            have pushes : call.pushed passed.call ≤ budget := by
              unfold Call.pushed
              rw [outs] at balance
              omega
            rw [fresh, count]
            constructor
            · exact fun within => ⟨covered, within.takes⟩
            · rintro ⟨_, few⟩
              refine ⟨?_, few, pushes⟩
              rintro ⟨_, panicked⟩
              cases ended : passed.ended with
              | none =>
                  rw [ended] at panicked
                  dsimp only [Option.getD_none] at panicked
                  split at panicked
                  · cases panicked
                  · exact Call.didWork_ne_panicked _ panicked
              | some returned =>
                  rw [ended] at panicked
                  exact calm (ended.trans (congrArg some panicked))
          · have panicked := unpaid covered
            refine iff_of_false (fun within => within.decrements ⟨rfl, ?_⟩) fun both => covered both.1
            rw [panicked]
            rfl

end Dropper

/-! JSONQuery and HTMLQuery. -/

/-- The results of a query on a packet, each a packet for OUT. -/
def JSONQuery.results (engine : FilterEngine) (filter : engine.Filter) (ip : FbpMessage) : List (OutPort × FbpMessage) :=
  match engine.fromSlice (ip.asBytes.getD []) with
  | none => []
  | some input => ((engine.run filter input).filterMap id).map fun value => (.out, .bytes (intoBytes value))

theorem JSONQuery.answers (engine : FilterEngine) :
    (dropper engine true).Answers engine.compile (results engine) := by
  refine ⟨rfl, fun _ _ => rfl, rfl, rfl, fun conf state ip => ?_⟩
  unfold results
  simp only [dropper]
  cases engine.fromSlice (ip.asBytes.getD []) <;> rfl

def HTMLQuery.results (engine : XpathEngine) (xpathQuery : engine.Xpath) (ip : FbpMessage) :
    List (OutPort × FbpMessage) :=
  match engine.parseHtml (ip.asText.getD "") with
  | none => []
  | some document => ((engine.apply xpathQuery document).getD []).map fun item => (.out, .bytes (intoBytes item))

theorem HTMLQuery.answers (engine : XpathEngine) :
    (dropper engine true).Answers engine.parse (results engine) := by
  refine ⟨rfl, fun _ _ => rfl, rfl, rfl, fun conf state ip => ?_⟩
  unfold results
  simp only [dropper]
  cases engine.parseHtml (ip.asText.getD "") with
  | none => rfl
  | some document =>
      dsimp only
      cases engine.apply conf document <;> rfl

/-! Delay. -/

namespace Delay

/-- The packets at the front of the queue that are due. -/
def due (firedAt : Instant) (queue : List DelayedPacket) : List (OutPort × FbpMessage) :=
  (queue.takeWhile fun packet => packet.readyTime ≤ firedAt).map fun packet => (.out, packet.data)

/-- Each entry of the log has cost one unit of the budget. -/
def Paid (before after : Work) : Prop :=
  after.log.length + after.context.remainingBudget = before.log.length + before.context.remainingBudget

theorem releaseDue_paid (firedAt : Instant) (queue : List DelayedPacket) (work : Work) :
    (work.context.remainingBudget < work.call.outs.accepts (due firedAt queue) →
        (releaseDue true firedAt queue work).2 = true) ∧
      (work.call.outs.accepts (due firedAt queue) ≤ work.context.remainingBudget →
        (releaseDue true firedAt queue work).2 = false ∧
        (releaseDue true firedAt queue work).1.context.remainingBudget =
          work.context.remainingBudget - work.call.outs.accepts (due firedAt queue) ∧
        (releaseDue true firedAt queue work).1.context.timerFiredAt = work.context.timerFiredAt ∧
        (releaseDue true firedAt queue work).1.call.ins = work.call.ins ∧
        Paid work (releaseDue true firedAt queue work).1) := by
  induction queue generalizing work with
  | nil => exact ⟨fun none => absurd none (Nat.not_lt_zero _), fun _ => ⟨rfl, rfl, rfl, rfl, rfl⟩⟩
  | cons front rest ih =>
      unfold releaseDue
      by_cases ready : front.readyTime ≤ firedAt
      · rw [if_pos ready]
        have first : due firedAt (front :: rest) = (.out, front.data) :: due firedAt rest := by
          simp [due, ready]
        have pushed : work.call.push (.out, front.data) =
          ({ work.call with outs := (work.call.outs.push (.out, front.data)).1 },
            (work.call.outs.push (.out, front.data)).2) := rfl
        rw [first, pushed]
        cases accepted : (work.call.outs.push (.out, front.data)).2 with
        | false =>
            rw [Outlets.accepts_refused accepted]
            exact ⟨fun none => absurd none (Nat.not_lt_zero _), fun _ => ⟨rfl, rfl, rfl, rfl, rfl⟩⟩
        | true =>
            rw [Outlets.accepts_accepted accepted]
            dsimp only
            cases left : work.context.remainingBudget with
            | zero =>
                have panics : work.context.spend true = none := by simp [NodeContext.spend, left]
                rw [panics]
                exact ⟨fun _ => rfl, fun short => absurd short (by omega)⟩
            | succ budget =>
                have spent : work.context.spend true = some { work.context with remainingBudget := budget } := by
                  simp [NodeContext.spend, left]
                rw [spent]
                dsimp only
                let released : Work := { work with
                  pendingPackets := rest
                  call := ({ work.call with outs := (work.call.outs.push (.out, front.data)).1 } :
                    Call ConfInPort OutPort).worked
                  log := work.log ++ [.released front work.clock.now]
                  context := { work.context with remainingBudget := budget } }
                obtain ⟨beyond, within⟩ := ih released
                refine ⟨fun short => beyond (Nat.lt_of_succ_lt_succ short), fun enough => ?_⟩
                obtain ⟨calm, remaining, mark, ins, paid⟩ := within (Nat.le_of_succ_le_succ enough)
                refine ⟨calm, ?_, mark, ins, ?_⟩
                · refine remaining.trans ?_
                  change budget - (work.call.outs.push (.out, front.data)).1.accepts (due firedAt rest) = _
                  omega
                · unfold Paid at paid ⊢
                  refine paid.trans ?_
                  rw [left]
                  simp only [released, List.length_append, List.length_singleton]
                  omega
      · rw [if_neg ready]
        have nothing : due firedAt (front :: rest) = [] := by simp [due, ready]
        rw [nothing]
        exact ⟨fun none => absurd none (Nat.not_lt_zero _), fun _ => ⟨rfl, rfl, rfl, rfl, rfl⟩⟩

/-- Without a fired timer the loop only takes packets. -/
theorem rounds_unmarked (delay count : Nat) (work : Work) (unmarked : work.context.timerFiredAt = none) :
    (rounds true delay count work).2 ≠ some .panicked ∧ Paid work (rounds true delay count work).1 := by
  induction count generalizing work with
  | zero => exact ⟨by simp [rounds], rfl⟩
  | succ count ih =>
      unfold rounds
      split
      · exact ⟨by simp, rfl⟩
      · next positive =>
          cases work.call.poll FbpMessage.textOrUtf8 with
          | mk listened stop =>
          cases stop with
          | true => exact ⟨by simp, rfl⟩
          | false =>
              have waits : release true { work with call := listened } = ({ work with call := listened }, false) := by
                simp [release, unmarked]
              dsimp only
              rw [waits]
              dsimp only
              cases listened.pop .inn with
              | none => exact ⟨by simp, rfl⟩
              | some popped =>
                  obtain ⟨ip, next⟩ := popped
                  obtain ⟨budget, left⟩ := Nat.exists_eq_succ_of_ne_zero positive
                  have spent : work.context.spend true = some { work.context with remainingBudget := budget } := by
                    simp [NodeContext.spend, left]
                  dsimp only
                  rw [spent]
                  let accepted : Work := { work with
                    pendingPackets := work.pendingPackets ++ [⟨ip, work.clock.read.now + delay⟩]
                    call := next.worked
                    clock := work.clock.read
                    log := work.log ++ [.accepted ip work.clock.read.now]
                    context := { work.context with remainingBudget := budget } }
                  obtain ⟨calm, paid⟩ := ih accepted unmarked
                  refine ⟨calm, ?_⟩
                  unfold Paid at paid ⊢
                  refine paid.trans ?_
                  rw [left]
                  simp only [accepted, List.length_append, List.length_singleton]
                  omega

/-- The budget covers the packets that are due and that OUT accepts, and one more if IN is not empty. -/
def Covers (mark : Option Instant) (queue : List DelayedPacket) (call : Call ConfInPort OutPort) (budget : Nat) : Prop :=
  ∀ firedAt, mark = some firedAt → call.outs.accepts (due firedAt queue) ≤ budget ∧
    (call.outs.accepts (due firedAt queue) = budget → call.inbox .inn = [])

/-- Only the first round of the loop can overdraw. -/
theorem rounds_covers (delay count : Nat) (work : Work) (positive : work.context.remainingBudget ≠ 0)
    (going : (work.call.poll FbpMessage.textOrUtf8).2 = false) :
    (¬ Covers work.context.timerFiredAt work.pendingPackets work.call work.context.remainingBudget →
        (rounds true delay (count + 1) work).2 = some .panicked) ∧
      (Covers work.context.timerFiredAt work.pendingPackets work.call work.context.remainingBudget →
        (rounds true delay (count + 1) work).2 ≠ some .panicked ∧ Paid work (rounds true delay (count + 1) work).1) := by
  cases marked : work.context.timerFiredAt with
  | none =>
      refine ⟨fun uncovered => absurd (fun firedAt none => by cases none) uncovered, fun _ => ?_⟩
      exact rounds_unmarked delay (count + 1) work marked
  | some firedAt =>
      obtain ⟨signalsIn, signalsOut, heard, polled, _⟩ := work.call.poll_cases FbpMessage.textOrUtf8
      have covers_iff : Covers (some firedAt) work.pendingPackets work.call work.context.remainingBudget ↔
          work.call.outs.accepts (due firedAt work.pendingPackets) ≤ work.context.remainingBudget ∧
            (work.call.outs.accepts (due firedAt work.pendingPackets) = work.context.remainingBudget →
              work.call.inbox .inn = []) :=
        ⟨fun covers => covers firedAt rfl, fun both other same => Option.some.inj same ▸ both⟩
      rw [covers_iff]
      unfold rounds
      rw [if_neg positive]
      cases result : work.call.poll FbpMessage.textOrUtf8 with
      | mk listened stop =>
      rw [result] at polled going
      have same : listened = { work.call with signalsIn, signalsOut, heard := work.call.heard ++ heard } := polled
      have still : stop = false := going
      subst still
      let taken : Work := { work with
        call := listened, context := { work.context with timerFiredAt := none } }
      have takes : release true { work with call := listened } = releaseDue true firedAt work.pendingPackets taken := by
        simp only [release, marked]
        rfl
      have outs : taken.call.outs = work.call.outs := by
        change listened.outs = _
        rw [same]
      have inbox : taken.call.inbox .inn = work.call.inbox .inn := by
        change listened.inbox .inn = _
        rw [same]
        rfl
      obtain ⟨short, enough⟩ := releaseDue_paid firedAt work.pendingPackets taken
      rw [outs] at short enough
      change (work.context.remainingBudget < _ → _) at short
      change (_ ≤ work.context.remainingBudget → _) at enough
      dsimp only
      rw [takes]
      by_cases covered : work.call.outs.accepts (due firedAt work.pendingPackets) ≤ work.context.remainingBudget
      · obtain ⟨calm, remaining, mark, ins, paid⟩ := enough covered
        generalize releaseDue true firedAt work.pendingPackets taken = outcome at calm remaining mark ins paid ⊢
        obtain ⟨freed, panicked⟩ := outcome
        have quiet : panicked = false := calm
        subst quiet
        have left : freed.call.inbox .inn = work.call.inbox .inn := by
          rw [← inbox]
          unfold Call.inbox
          rw [ins]
        have unmarked : freed.context.timerFiredAt = none := mark
        have spentSoFar : freed.context.remainingBudget = work.context.remainingBudget -
          work.call.outs.accepts (due firedAt work.pendingPackets) := remaining
        have paidSoFar : Paid work freed := paid
        dsimp only
        rcases freed.call.pop_cases .inn with ⟨empty, popped⟩ | ⟨ip, rest, next, found, popped, _, _, _, _, _⟩
        · rw [popped]
          refine ⟨fun uncovered => absurd ⟨covered, fun _ => left ▸ empty⟩ uncovered, fun _ => ⟨by simp, paidSoFar⟩⟩
        · rw [popped]
          have waiting : work.call.inbox .inn ≠ [] := by
            rw [← left, found]
            exact List.cons_ne_nil _ _
          dsimp only
          cases budget : freed.context.remainingBudget with
          | zero =>
              have panics : freed.context.spend true = none := by simp [NodeContext.spend, budget]
              rw [panics]
              refine ⟨fun _ => rfl, fun both => absurd (both.2 ?_) waiting⟩
              omega
          | succ remains =>
              have spent : freed.context.spend true = some { freed.context with remainingBudget := remains } := by
                simp [NodeContext.spend, budget]
              rw [spent]
              let accepted : Work := { freed with
                pendingPackets := freed.pendingPackets ++ [⟨ip, freed.clock.read.now + delay⟩]
                call := next.worked
                clock := freed.clock.read
                log := freed.log ++ [.accepted ip freed.clock.read.now]
                context := { freed.context with remainingBudget := remains } }
              obtain ⟨calmLater, paidLater⟩ := rounds_unmarked delay count accepted unmarked
              have some : ¬ work.call.outs.accepts (due firedAt work.pendingPackets) = work.context.remainingBudget := by
                omega
              refine ⟨fun uncovered => absurd ⟨covered, fun all => absurd all some⟩ uncovered, fun _ => ⟨calmLater, ?_⟩⟩
              unfold Paid at paidLater paidSoFar ⊢
              refine paidLater.trans (Eq.trans ?_ paidSoFar)
              rw [budget]
              simp only [accepted, List.length_append, List.length_singleton]
              omega
      · have panicked := short (Nat.lt_of_not_le covered)
        generalize releaseDue true firedAt work.pendingPackets taken = outcome at panicked ⊢
        obtain ⟨freed, flag⟩ := outcome
        have raised : flag = true := panicked
        subst raised
        exact ⟨fun _ => rfl, fun both => absurd both.1 covered⟩

theorem Covers.congr {mark : Option Instant} {queue : List DelayedPacket} {call next : Call ConfInPort OutPort}
    {budget : Nat} (inn : next.ins .inn = call.ins .inn) (outs : next.outs = call.outs) :
    Covers mark queue next budget ↔ Covers mark queue call budget := by
  unfold Covers Call.inbox
  rw [inn, outs]

theorem conclude_call (delay : Nat) (work : Work) :
    (conclude delay work).call = work.call ∧ (conclude delay work).returned ≠ .panicked := by
  unfold conclude
  dsimp only
  split
  · exact ⟨rfl, by simp⟩
  · exact ⟨rfl, Call.didWork_ne_panicked _⟩

/-- The entries of the log bound what is taken and pushed. -/
theorem Progress.within {delay budget : Nat} {fired : Option Instant} {before after : Work} {done : List Event}
    {call : Call ConfInPort OutPort} (progress : Progress delay fired before after done) (paid : Paid before after)
    (fresh : before.log = []) (limit : before.context.remainingBudget = budget)
    (inn : before.call.ins .inn = call.ins .inn) (outs : before.call.outs = call.outs) :
    (call.fresh after.call .inn).length ≤ budget ∧ call.pushed after.call ≤ budget := by
  have entries : done.length ≤ budget := by
    unfold Paid at paid
    rw [progress.log, fresh, limit] at paid
    simp only [List.nil_append, List.length_nil] at paid
    omega
  have taken : (call.fresh after.call .inn).length ≤ done.length := by
    have took := progress.took.fresh
    have same : call.fresh after.call .inn = before.call.fresh after.call .inn := by
      unfold Call.fresh Call.taken
      rw [inn]
    rw [same, took, List.length_map]
    exact List.length_filterMap_le _ _
  have pushed : call.pushed after.call ≤ done.length := by
    have sent := congrArg List.length progress.sent
    rw [outs, List.length_append, List.length_map] at sent
    have fewer : (releases done).length ≤ done.length := List.length_filterMap_le _ _
    unfold Call.pushed
    omega
  exact ⟨taken.trans entries, pushed.trans entries⟩

/-- With a readable configuration, only a decrement at zero panics. -/
theorem withinBudget_iff (engine : Engine) (state : State) (call : Call ConfInPort OutPort) (context : NodeContext)
    (clock : Clock) :
    WithinBudget context.remainingBudget
        ((readDelay engine state call.begin).isSome = true ∧
          (process engine true state call context clock).returned = .panicked)
        (call.fresh (process engine true state call context clock).call .inn).length
        (call.pushed (process engine true state call context clock).call) ↔
      (0 < context.remainingBudget → (readDelay engine state call.begin).isSome = true →
        ¬ call.StopsWithin FbpMessage.textOrUtf8 2 →
          Covers context.timerFiredAt state.pendingPackets call context.remainingBudget) := by
  have idle {later : Call ConfInPort OutPort} {underflows : Prop} (inn : later.ins .inn = call.ins .inn)
      (outs : later.outs = call.outs) (calm : ¬ underflows) :
      WithinBudget context.remainingBudget underflows (call.fresh later .inn).length (call.pushed later) := by
    refine ⟨calm, ?_, ?_⟩
    · simp [Call.fresh, Call.taken, inn]
    · simp [Call.pushed, outs]
  unfold process
  cases read : readDelay engine state call.begin with
  | none => exact iff_of_true (idle rfl rfl fun readable => by cases readable.1) fun _ readable => by cases readable
  | some found =>
      obtain ⟨delay, prepared⟩ := found
      obtain ⟨_, preparedInn, preparedOuts, preparedSignals⟩ := readDelay_keeps read
      have stops : call.StopsWithin FbpMessage.textOrUtf8 2 ↔ (prepared.poll FbpMessage.textOrUtf8).2 = true ∨
          (prepared.poll FbpMessage.textOrUtf8).1.StopsWithin FbpMessage.textOrUtf8 1 := by
        rw [← prepared.stopsWithin_succ]
        unfold Call.StopsWithin
        rw [preparedSignals]
        rfl
      obtain ⟨signalsIn, signalsOut, heard, polled, _⟩ := prepared.poll_cases FbpMessage.textOrUtf8
      rw [stops]
      dsimp only
      cases result : prepared.poll FbpMessage.textOrUtf8 with
      | mk listened stop =>
      rw [result] at polled
      have same : listened = { prepared with signalsIn, signalsOut, heard := prepared.heard ++ heard } := polled
      have inn : listened.ins .inn = call.ins .inn := by
        rw [same]
        exact preparedInn
      have outs : listened.outs = call.outs := by
        rw [same]
        exact preparedOuts
      cases stop with
      | true =>
          refine iff_of_true (idle inn outs ?_) fun _ _ going => absurd (.inl rfl) going
          rintro ⟨_, panicked⟩
          cases panicked
      | false =>
          have again := listened.stopsWithin_one FbpMessage.textOrUtf8
          let work : Work := ⟨state.pendingPackets, listened, context, clock, []⟩
          have covers := @Covers.congr context.timerFiredAt state.pendingPackets call listened context.remainingBudget inn outs
          obtain ⟨done, progress⟩ := (rounds_loops true delay ((listened.inbox .inn).length + 1) work
            (Nat.lt_succ_self _)).progress
          -- the first round is reached if there is budget and no second stop
          have outcome : (rounds true delay ((listened.inbox .inn).length + 1) work).2 = some .panicked ∧
                ¬ (0 < context.remainingBudget → ¬ listened.StopsWithin FbpMessage.textOrUtf8 1 →
                  Covers context.timerFiredAt state.pendingPackets listened context.remainingBudget) ∨
              (rounds true delay ((listened.inbox .inn).length + 1) work).2 ≠ some .panicked ∧
                Paid work (rounds true delay ((listened.inbox .inn).length + 1) work).1 ∧
                (0 < context.remainingBudget → ¬ listened.StopsWithin FbpMessage.textOrUtf8 1 →
                  Covers context.timerFiredAt state.pendingPackets listened context.remainingBudget) := by
            by_cases spent : context.remainingBudget = 0
            · have ended : rounds true delay ((listened.inbox .inn).length + 1) work = (work, none) := by
                unfold rounds
                exact if_pos spent
              rw [ended]
              exact .inr ⟨by simp, rfl, fun positive => absurd spent (Nat.pos_iff_ne_zero.mp positive)⟩
            · cases second : (listened.poll FbpMessage.textOrUtf8).2 with
              | true =>
                  have ended : rounds true delay ((listened.inbox .inn).length + 1) work =
                      ({ work with call := (listened.poll FbpMessage.textOrUtf8).1 }, some (.result .finished)) := by
                    have both : listened.poll FbpMessage.textOrUtf8 =
                      ((listened.poll FbpMessage.textOrUtf8).1, true) := Prod.ext rfl second
                    unfold rounds
                    rw [if_neg spent, show work.call = listened from rfl, both]
                  rw [ended]
                  refine .inr ⟨by simp, rfl, fun _ going => ?_⟩
                  rw [again.mpr going] at second
                  cases second
              | false =>
                  obtain ⟨panics, pays⟩ := rounds_covers delay (listened.inbox .inn).length work spent second
                  by_cases covered : Covers context.timerFiredAt state.pendingPackets listened context.remainingBudget
                  · exact .inr ⟨(pays covered).1, (pays covered).2, fun _ _ => covered⟩
                  · refine .inl ⟨panics covered, fun every => covered ?_⟩
                    exact every (Nat.pos_of_ne_zero spent) (again.mp second)
          have condition : (0 < context.remainingBudget → (some (delay, prepared)).isSome = true →
                ¬ (false = true ∨ listened.StopsWithin FbpMessage.textOrUtf8 1) →
                  Covers context.timerFiredAt state.pendingPackets call context.remainingBudget) ↔
              (0 < context.remainingBudget → ¬ listened.StopsWithin FbpMessage.textOrUtf8 1 →
                Covers context.timerFiredAt state.pendingPackets listened context.remainingBudget) := by
            rw [covers]
            simp
          rw [condition]
          dsimp only
          generalize rounds true delay ((listened.inbox .inn).length + 1) work = result at outcome progress ⊢
          obtain ⟨after, ended⟩ := result
          rcases outcome with ⟨panicked, uncovered⟩ | ⟨calm, paid, covered⟩
          · have raised : ended = some .panicked := panicked
            subst raised
            exact iff_of_false (fun within => within.decrements ⟨rfl, rfl⟩) uncovered
          · obtain ⟨taken, pushed⟩ := progress.within paid rfl rfl inn outs
            refine iff_of_true ?_ covered
            cases ended with
            | none =>
                obtain ⟨same, unpanicked⟩ := conclude_call delay after
                refine ⟨fun both => unpanicked both.2, ?_, ?_⟩
                · rw [same]
                  exact taken
                · rw [same]
                  exact pushed
            | some returned =>
                exact ⟨fun both => calm (congrArg some both.2), taken, pushed⟩

end Delay

/-- JSONQuery, HTMLQuery and Delay keep within their budget exactly when the results that OUT accepts
do not cross it and come early enough, and the packets that are due leave a unit for the next one. -/
theorem budget_kept_iff (call : Call ConfInPort OutPort) :
    (∀ (engine : FilterEngine) (query : Option engine.Filter) (budget : Nat),
      WithinBudget budget
          (query.isSome = true ∧ (JSONQuery.process engine true query call budget).returned = .panicked)
          (call.fresh (JSONQuery.process engine true query call budget).call .inn).length
          (call.pushed (JSONQuery.process engine true query call budget).call) ↔
        ∀ filter, query = some filter → ¬ call.StopsWithin FbpMessage.asText 1 →
          Affordable budget (call.outs.served ((call.inbox .inn).map (JSONQuery.results engine filter)))) ∧
    (∀ (engine : XpathEngine) (query : Option engine.Xpath) (budget : Nat),
      WithinBudget budget
          (query.isSome = true ∧ (HTMLQuery.process engine true query call budget).returned = .panicked)
          (call.fresh (HTMLQuery.process engine true query call budget).call .inn).length
          (call.pushed (HTMLQuery.process engine true query call budget).call) ↔
        ∀ xpathQuery, query = some xpathQuery → ¬ call.StopsWithin FbpMessage.textOrUtf8 1 →
          Affordable budget (call.outs.served ((call.inbox .inn).map (HTMLQuery.results engine xpathQuery)))) ∧
    ∀ (engine : Delay.Engine) (state : Delay.State) (context : NodeContext) (clock : Clock),
      WithinBudget context.remainingBudget
          ((Delay.readDelay engine state call.begin).isSome = true ∧
            (Delay.process engine true state call context clock).returned = .panicked)
          (call.fresh (Delay.process engine true state call context clock).call .inn).length
          (call.pushed (Delay.process engine true state call context clock).call) ↔
        (0 < context.remainingBudget → (Delay.readDelay engine state call.begin).isSome = true →
          ¬ call.StopsWithin FbpMessage.textOrUtf8 2 →
            Delay.Covers context.timerFiredAt state.pendingPackets call context.remainingBudget) :=
  ⟨fun engine query budget => (JSONQuery.answers engine).withinBudget_iff query call budget,
    fun engine query budget => (HTMLQuery.answers engine).withinBudget_iff query call budget,
    fun engine state context clock => Delay.withinBudget_iff engine state call context clock⟩

/-- Every filter gives two results. -/
def twoResults : FilterEngine := ⟨Unit, Unit, fun _ => some (), fun _ => some (), fun _ _ => [some "1", some "2"]⟩

/-- A call that finds these packets on IN, and OUT with room for three. -/
def callWith (packets : List FbpMessage) (short : packets.length ≤ 3) : Call ConfInPort OutPort where
  ins port := match port with
    | .conf => .ofRing (.empty 1)
    | .inn => .ofRing ⟨packets, 3, true, true, short⟩
  outs _ := .ofRing (.empty 3)
  signalsIn := []
  signalsOut := []
  heard := []
  workUnits := 0

/-- Two packets that are due at the same deadline. -/
def twoDue : Delay.State := ⟨some 5, [⟨.text "a", 7⟩, ⟨.text "b", 7⟩]⟩

/-- The deadline has passed, and one unit of the budget is left. -/
def oneUnit : NodeContext := { NodeContext.new "delay" .normal 0 0 with remainingBudget := 1, timerFiredAt := some 7 }

/-- With one unit left, JSONQuery pushes two results of a packet, and Delay two packets that are due at the same
deadline: the second decrement panics, or wraps around. -/
theorem overdraws :
    let engine : Delay.Engine := ⟨fun _ _ => none⟩
    (let call := callWith [.bytes []] (by decide)
      let checked := JSONQuery.process twoResults true (some ()) call 1
      let wrapping := JSONQuery.process twoResults false (some ()) call 1
      ¬ WithinBudget 1 ((some ()).isSome = true ∧ checked.returned = .panicked) (call.fresh checked.call .inn).length
          (call.pushed checked.call) ∧
        wrapping.remainingBudget = 2 ^ 32 - 1 ∧ call.pushed wrapping.call = 2) ∧
    (let call := callWith [] (by decide)
      let checked := Delay.process engine true twoDue call oneUnit ⟨7, []⟩
      let wrapping := Delay.process engine false twoDue call oneUnit ⟨7, []⟩
      ¬ WithinBudget 1 ((Delay.readDelay engine twoDue call.begin).isSome = true ∧ checked.returned = .panicked)
          (call.fresh checked.call .inn).length (call.pushed checked.call) ∧
        wrapping.context.remainingBudget = 2 ^ 32 - 1 ∧ call.pushed wrapping.call = 2) := by
  refine ⟨⟨fun within => within.decrements ?_, ?_, ?_⟩, fun within => within.decrements ?_, ?_, ?_⟩
  all_goals decide +kernel

end Flowd
