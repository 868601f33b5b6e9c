import Flowd.Component.Forwarding

namespace Flowd

/-! A call of a forwarder taken apart into its accesses to the edges and to the signal channel.
Between two of them the threads at the other ends do what they like.
-/

open Transition

/-- Where a forwarder stands; it is resting between two calls. -/
inductive Stage where
  | resting
  | flushing
  | polling
  | receiving
  | taking
  | offering (packet : FbpMessage)
  | finishing
  | returning (returned : Returned)

structure Frame where
  stage : Stage
  pending : List FbpMessage
  remainingBudget : Nat
  workUnits : Nat

namespace Frame

/-- Between two calls only the pending packets count. -/
def rest (pending : List FbpMessage) : Frame := ⟨.resting, pending, 0, 0⟩

def goTo (frame : Frame) (stage : Stage) : Frame := { frame with stage }

/-- `work_units += 1; context.remaining_budget -= 1` -/
def worked (frame : Frame) : Frame :=
  { frame with remainingBudget := frame.remainingBudget - 1, workUnits := frame.workUnits + 1 }

def keep (frame : Frame) (packet : FbpMessage) : Frame := { frame with pending := frame.pending ++ [packet] }

end Frame

/-- What a forwarder does next, and how it goes on with the answer. -/
inductive Access where
  | enter (next : Nat → Frame)
  | push (packet : FbpMessage) (next : Bool → Frame)
  | poll (next : Bool → Frame)
  | pop (next : Option FbpMessage → Frame)
  | probe (next : Bool → Frame)
  | turn (next : Frame)
  | leave (returned : Returned)

/-- `if work_units > 0 { DidWork(work_units) } else { NoWork }` -/
def Returned.ofWork (workUnits : Nat) : Returned :=
  if 0 < workUnits then .result (.didWork workUnits) else .result .noWork

/-- The forwarders from IN to OUT: whether one flushes before it polls, and how it judges its call
by the work units, the pending packets and `is_abandoned`. -/
structure Passing where
  spec : Forwarder
  flushesFirst : Bool
  finish : Nat → List FbpMessage → Bool → Returned
  routes : ∀ packet, spec.route packet = (.out, packet)
  finishes : ∀ workUnits pending abandoned, finish workUnits pending abandoned = .result .finished ∨
    finish workUnits pending abandoned = .ofWork workUnits

namespace Passing

variable (passing : Passing)

def judge (received : Received InPort OutPort FbpMessage) : Returned :=
  passing.finish received.call.workUnits received.pending (received.call.isAbandoned passing.spec.inn)

def received (pending : List FbpMessage) (call : Call InPort OutPort) (remainingBudget : Nat) :
    Received InPort OutPort FbpMessage :=
  if passing.flushesFirst then passing.spec.flushFirst remainingBudget pending call
  else passing.spec.pollFirst remainingBudget pending call

def process (pending : List FbpMessage) (call : Call InPort OutPort) (remainingBudget : Nat) :
    Outcome (List FbpMessage) InPort OutPort :=
  (passing.received pending call.begin remainingBudget).conclude passing.judge

def first : Stage := if passing.flushesFirst then .flushing else .polling

def afterFlush : Stage := if passing.flushesFirst then .polling else .receiving

def afterPoll : Stage := if passing.flushesFirst then .receiving else .flushing

def next (frame : Frame) : Access :=
  match frame.stage with
  | .resting => .enter fun remainingBudget => ⟨passing.first, frame.pending, remainingBudget, 0⟩
  | .flushing =>
      match frame.remainingBudget, frame.pending with
      | 0, _ => .turn (frame.goTo passing.afterFlush)
      | _, [] => .turn (frame.goTo passing.afterFlush)
      | _, packet :: rest => .push packet fun accepted =>
          if accepted then { frame.worked with pending := rest } else frame.goTo passing.afterFlush
  | .polling => .poll fun stop =>
      frame.goTo (if stop then .returning (.result .finished) else passing.afterPoll)
  | .receiving =>
      match frame.remainingBudget with
      | 0 => .turn (frame.goTo .finishing)
      | _ => .poll fun stop => frame.goTo (if stop then .returning (.result .finished) else .taking)
  | .taking => .pop fun
      | none => frame.goTo .finishing
      | some ip =>
          match passing.spec.transform ip with
          | none => frame.goTo (.returning .panicked)
          | some packet => frame.goTo (.offering packet)
  | .offering packet => .push packet fun accepted =>
      if accepted then frame.worked.goTo .receiving
      else if passing.spec.leavesWhenFull then (frame.keep packet).goTo .finishing
      else (frame.worked.keep packet).goTo .receiving
  | .finishing => .probe fun abandoned =>
      frame.goTo (.returning (passing.finish frame.workUnits frame.pending abandoned))
  | .returning returned => .leave returned

/-- The access made on the ports of the component, none if the call is at its end. -/
def perform (remainingBudget : Nat) (call : Call InPort OutPort) : Access → Option (Call InPort OutPort × Frame)
  | .enter next => some (call, next remainingBudget)
  | .push packet next => some ((call.push (.out, packet)).1, next (call.push (.out, packet)).2)
  | .poll next => some ((call.poll passing.spec.reads).1, next (call.poll passing.spec.reads).2)
  | .pop next =>
      match call.pop passing.spec.inn with
      | none => some (call, next none)
      | some (packet, call) => some (call, next (some packet))
  | .probe next => some (call, next (call.isAbandoned passing.spec.inn))
  | .turn next => some (call, next)
  | .leave _ => none

/-- One access, with the work units counted in the call. -/
def step (remainingBudget : Nat) (state : Call InPort OutPort × Frame) : Option (Call InPort OutPort × Frame) :=
  (passing.perform remainingBudget state.1 (passing.next state.2)).map fun done =>
    ({ done.1 with workUnits := done.2.workUnits }, done.2)

/-- Access by access from one state to the other. -/
def Reaches (remainingBudget : Nat) : Call InPort OutPort × Frame → Call InPort OutPort × Frame → Prop :=
  Relation.ReflTransGen fun state next => passing.step remainingBudget state = some next

variable {passing} {budget : Nat} {call : Call InPort OutPort} {state next last : Call InPort OutPort × Frame}

theorem Reaches.step (step : passing.step budget state = some next) (reaches : passing.Reaches budget next last) :
    passing.Reaches budget state last :=
  Relation.ReflTransGen.head step reaches

/-- The loop over the pending packets, push by push. -/
theorem reaches_flush (budget remainingBudget : Nat) (pending : List FbpMessage) (call : Call InPort OutPort) :
    passing.Reaches budget (call, ⟨.flushing, pending, remainingBudget, call.workUnits⟩)
      ((passing.spec.flush remainingBudget pending call).call,
        ⟨passing.afterFlush, (passing.spec.flush remainingBudget pending call).pending,
          (passing.spec.flush remainingBudget pending call).remainingBudget,
          (passing.spec.flush remainingBudget pending call).call.workUnits⟩) := by
  induction remainingBudget generalizing pending call with
  | zero => exact .single rfl
  | succ remainingBudget ih =>
      cases pending with
      | nil => exact .single rfl
      | cons packet rest =>
          have counted : (call.push (.out, packet)).1.workUnits = call.workUnits := rfl
          cases pushed : call.push (.out, packet) with
          | mk after accepted =>
              replace counted : after.workUnits = call.workUnits := by rw [← counted, pushed]
              cases accepted with
              | true =>
                  have push : passing.step budget (call, ⟨.flushing, packet :: rest, remainingBudget + 1, call.workUnits⟩) =
                      some (after.worked, ⟨.flushing, rest, remainingBudget, after.worked.workUnits⟩) := by
                    simp [Passing.step, Passing.next, perform, pushed, Frame.worked, Call.worked, counted]
                  simp only [Buffering.flush, passing.routes, pushed]
                  exact (ih rest after.worked).step push
              | false =>
                  have push : passing.step budget (call, ⟨.flushing, packet :: rest, remainingBudget + 1, call.workUnits⟩) =
                      some (after, ⟨passing.afterFlush, packet :: rest, remainingBudget + 1, after.workUnits⟩) := by
                    simp [Passing.step, Passing.next, perform, pushed, Frame.goTo, ← counted]
                  simp only [Buffering.flush, passing.routes, pushed]
                  exact .single push

theorem poll_workUnits (reads : FbpMessage → Option String) : (call.poll reads).1.workUnits = call.workUnits := by
  obtain ⟨signalsIn, signalsOut, new, polled, _⟩ := call.poll_cases reads
  rw [polled]

/-- The loop over IN, from one poll to the next. -/
theorem reaches_receive (budget remainingBudget : Nat) (pending : List FbpMessage) (call : Call InPort OutPort) :
    let received := passing.spec.receive remainingBudget pending call
    passing.Reaches budget (call, ⟨.receiving, pending, remainingBudget, call.workUnits⟩)
      (received.call, ⟨match received.ended with | some returned => .returning returned | none => .finishing,
        received.pending, received.remainingBudget, received.call.workUnits⟩) := by
  induction remainingBudget generalizing pending call with
  | zero => exact .single rfl
  | succ remainingBudget ih =>
      have counted : (call.poll passing.spec.reads).1.workUnits = call.workUnits := poll_workUnits _
      cases polled : call.poll passing.spec.reads with
      | mk listened stop =>
          replace counted : listened.workUnits = call.workUnits := by rw [← counted, polled]
          cases stop with
          | true =>
              simp only [Buffering.receive, polled]
              refine .single ?_
              simp [Passing.step, Passing.next, perform, polled, Frame.goTo, ← counted]
          | false =>
              have poll : passing.step budget (call, ⟨.receiving, pending, remainingBudget + 1, call.workUnits⟩) =
                  some (listened, ⟨.taking, pending, remainingBudget + 1, listened.workUnits⟩) := by
                simp [Passing.step, Passing.next, perform, polled, Frame.goTo, ← counted]
              refine Reaches.step poll ?_
              rcases listened.pop_cases passing.spec.inn with
                ⟨_, popped⟩ | ⟨ip, _, taken, _, popped, _, _, _, _, worked⟩
              · simp only [Buffering.receive, polled, popped]
                refine .single ?_
                simp [Passing.step, Passing.next, perform, popped, Frame.goTo]
              · cases transformed : passing.spec.transform ip with
                | none =>
                    simp only [Buffering.receive, polled, popped, transformed]
                    refine .single ?_
                    simp [Passing.step, Passing.next, perform, popped, transformed, Frame.goTo, ← worked]
                | some packet =>
                    have take : passing.step budget (listened, ⟨.taking, pending, remainingBudget + 1, listened.workUnits⟩) =
                        some (taken, ⟨.offering packet, pending, remainingBudget + 1, taken.workUnits⟩) := by
                      simp [Passing.step, Passing.next, perform, popped, transformed, Frame.goTo, ← worked]
                    refine Reaches.step take ?_
                    have counted : (taken.push (.out, packet)).1.workUnits = taken.workUnits := rfl
                    cases pushed : taken.push (.out, packet) with
                    | mk offered accepted =>
                        replace counted : offered.workUnits = taken.workUnits := by rw [← counted, pushed]
                        simp only [Buffering.receive, polled, popped, transformed, passing.routes, pushed]
                        cases accepted with
                        | true =>
                            have push : passing.step budget
                                (taken, ⟨.offering packet, pending, remainingBudget + 1, taken.workUnits⟩) =
                                some (offered.worked,
                                  ⟨.receiving, pending, remainingBudget, offered.worked.workUnits⟩) := by
                              simp [Passing.step, Passing.next, perform, pushed, Frame.goTo, Frame.worked,
                                Call.worked, counted]
                            exact (ih pending offered.worked).step push
                        | false =>
                            cases leaves : passing.spec.leavesWhenFull with
                            | true =>
                                refine .single ?_
                                simp [Passing.step, Passing.next, perform, pushed, Frame.goTo, Frame.keep, leaves,
                                  ← counted]
                            | false =>
                                have push : passing.step budget
                                    (taken, ⟨.offering packet, pending, remainingBudget + 1, taken.workUnits⟩) =
                                    some (offered.worked, ⟨.receiving, pending ++ [packet], remainingBudget,
                                      offered.worked.workUnits⟩) := by
                                  simp [Passing.step, Passing.next, perform, pushed, Frame.goTo, Frame.worked,
                                    Frame.keep, Call.worked, leaves, counted]
                                exact (ih (pending ++ [packet]) offered.worked).step push

theorem step_poll (budget remainingBudget : Nat) (pending : List FbpMessage) (call : Call InPort OutPort) :
    passing.step budget (call, ⟨.polling, pending, remainingBudget, call.workUnits⟩) =
      some ((call.poll passing.spec.reads).1,
        ⟨if (call.poll passing.spec.reads).2 then .returning (.result .finished) else passing.afterPoll, pending,
          remainingBudget, (call.poll passing.spec.reads).1.workUnits⟩) := by
  have counted : (call.poll passing.spec.reads).1.workUnits = call.workUnits := poll_workUnits _
  simp [Passing.step, Passing.next, perform, Frame.goTo, ← counted]

/-- The end of a call whose loops have come to theirs. -/
theorem reaches_judged (budget : Nat) (received : Received InPort OutPort FbpMessage) :
    passing.Reaches budget
      (received.call, ⟨match received.ended with | some returned => .returning returned | none => .finishing,
        received.pending, received.remainingBudget, received.call.workUnits⟩)
      (received.call, ⟨.returning (received.ended.getD (passing.judge received)), received.pending,
        received.remainingBudget, received.call.workUnits⟩) := by
  obtain ⟨pending, call, remainingBudget, ended⟩ := received
  cases ended with
  | some returned => exact .refl
  | none => exact .single rfl

/-- Both orders of flushing and polling lead through the loops to the end. -/
theorem reaches_received (budget : Nat) (pending : List FbpMessage) (call : Call InPort OutPort) :
    let received := passing.received pending call budget
    passing.Reaches budget (call, ⟨passing.first, pending, budget, call.workUnits⟩)
      (received.call, ⟨.returning (received.ended.getD (passing.judge received)), received.pending,
        received.remainingBudget, received.call.workUnits⟩) := by
  cases order : passing.flushesFirst with
  | true =>
      have flushes := passing.reaches_flush budget budget pending call
      simp only [first, afterFlush, order, if_true] at flushes ⊢
      refine Relation.ReflTransGen.trans flushes ?_
      generalize flushed : passing.spec.flush budget pending call = between
      have poll := passing.step_poll budget between.remainingBudget between.pending between.call
      refine Reaches.step poll ?_
      simp only [received, order, if_true, Buffering.flushFirst, flushed]
      cases polled : between.call.poll passing.spec.reads with
      | mk listened stop =>
          cases stop with
          | true => exact .refl
          | false =>
              simp only [afterPoll, order, if_true, Bool.false_eq_true, if_false]
              exact Relation.ReflTransGen.trans (reaches_receive budget _ _ _) (reaches_judged budget _)
  | false =>
      have poll := passing.step_poll budget budget pending call
      simp only [first, order, Bool.false_eq_true, if_false] at poll ⊢
      refine Reaches.step poll ?_
      simp only [received, order, Bool.false_eq_true, if_false, Buffering.pollFirst]
      cases polled : call.poll passing.spec.reads with
      | mk listened stop =>
          cases stop with
          | true => exact .refl
          | false =>
              have flushes := passing.reaches_flush budget budget pending listened
              simp only [afterFlush, afterPoll, order, Bool.false_eq_true, if_false] at flushes ⊢
              refine Relation.ReflTransGen.trans flushes ?_
              exact Relation.ReflTransGen.trans (reaches_receive budget _ _ _) (reaches_judged budget _)

theorem step_deterministic : Relator.RightUnique fun state next => passing.step budget state = some next :=
  fun _ _ _ left right => Option.some.inj (left.symm.trans right)

/-- Every way through the accesses of a call leads to the end of `process()`. -/
theorem reaches_end (passing : Passing) (pending : List FbpMessage) (call : Call InPort OutPort) (budget : Nat) :
    let outcome := passing.process pending call budget
    let last : Call InPort OutPort × Frame := (outcome.call,
      ⟨.returning outcome.returned, outcome.component, outcome.remainingBudget, outcome.call.workUnits⟩)
    passing.Reaches budget (call.begin, .rest pending) last ∧
      ∀ state, passing.Reaches budget (call.begin, .rest pending) state → passing.Reaches budget state last := by
  intro outcome last
  have enter : passing.step budget (call.begin, .rest pending) =
      some (call.begin, ⟨passing.first, pending, budget, call.begin.workUnits⟩) := rfl
  have whole : passing.Reaches budget (call.begin, .rest pending) last :=
    (passing.reaches_received budget pending call.begin).step enter
  refine ⟨whole, fun state reaches => ?_⟩
  rcases Relation.ReflTransGen.total_of_right_unique step_deterministic reaches whole with onwards | back
  · exact onwards
  · rcases Relation.ReflTransGen.cases_head back with same | ⟨next, step, _⟩
    · rw [← same]
      exact .refl
    · cases step

end Passing

/-- The packets of a forwarder that are neither in its IN edge nor in its OUT edge. -/
def Frame.waiting (frame : Frame) : List FbpMessage :=
  match frame.stage with
  | .offering packet => frame.pending ++ [packet]
  | _ => frame.pending

/-- What a forwarder makes of a list of packets. -/
def Passing.items (passing : Passing) (packets : List FbpMessage) : List FbpMessage :=
  packets.filterMap passing.spec.transform

/-- An access takes nothing from the waiting packets but the one it pushes, and adds none but what
becomes of the one it pops. -/
def Access.Keeps (passing : Passing) (frame : Frame) : Access → Prop
  | .enter next => ∀ remainingBudget, (next remainingBudget).waiting = frame.waiting
  | .push packet next => (frame.waiting : Multiset FbpMessage) = packet ::ₘ ((next true).waiting : Multiset FbpMessage) ∧
      (next false).waiting = frame.waiting
  | .poll next => ∀ stop, (next stop).waiting = frame.waiting
  | .pop next => (next none).waiting = frame.waiting ∧
      ∀ ip, (next (some ip)).waiting = frame.waiting ++ passing.items [ip]
  | .probe next => ∀ abandoned, (next abandoned).waiting = frame.waiting
  | .turn next => next.waiting = frame.waiting
  | .leave _ => frame.waiting = frame.pending

theorem Passing.waiting_stage (passing : Passing) {stage : Stage} {pending : List FbpMessage}
    {remainingBudget workUnits : Nat} (member : stage ∈ [passing.first, passing.afterFlush, passing.afterPoll]) :
    Frame.waiting ⟨stage, pending, remainingBudget, workUnits⟩ = pending := by
  have bare : stage = .flushing ∨ stage = .polling ∨ stage = .receiving := by
    simp only [first, afterFlush, afterPoll, List.mem_cons, List.not_mem_nil, or_false] at member
    cases order : passing.flushesFirst with
    | true =>
        simp only [order, if_true] at member
        tauto
    | false =>
        simp only [order, Bool.false_eq_true, if_false] at member
        tauto
  rcases bare with rfl | rfl | rfl <;> rfl

theorem Passing.keeps (passing : Passing) (frame : Frame) : (passing.next frame).Keeps passing frame := by
  obtain ⟨stage, pending, remainingBudget, workUnits⟩ := frame
  cases stage with
  | resting => exact fun _ => passing.waiting_stage (by simp)
  | flushing =>
      have flushed (pending : List FbpMessage) (remainingBudget : Nat) :
          Frame.waiting ⟨passing.afterFlush, pending, remainingBudget, workUnits⟩ = pending :=
        passing.waiting_stage (by simp)
      cases remainingBudget with
      | zero => exact flushed pending 0
      | succ remainingBudget =>
          cases pending with
          | nil => exact flushed [] _
          | cons packet rest => exact ⟨rfl, flushed (packet :: rest) _⟩
  | polling =>
      intro stop
      cases stop with
      | true => rfl
      | false => exact passing.waiting_stage (by simp)
  | receiving =>
      cases remainingBudget with
      | zero => rfl
      | succ remainingBudget => exact fun stop => by cases stop <;> rfl
  | taking =>
      refine ⟨rfl, fun ip => ?_⟩
      cases transformed : passing.spec.transform ip with
      | none => simp [transformed, Frame.waiting, Frame.goTo, Passing.items]
      | some packet => simp [transformed, Frame.waiting, Frame.goTo, Passing.items]
  | offering packet =>
      refine ⟨?_, ?_⟩
      · show ((pending ++ [packet] : List FbpMessage) : Multiset FbpMessage) = packet ::ₘ (pending : Multiset FbpMessage)
        rw [Multiset.cons_coe, Multiset.coe_eq_coe]
        exact List.perm_append_singleton packet pending
      · show Frame.waiting (if passing.spec.leavesWhenFull then _ else _) = _
        cases passing.spec.leavesWhenFull <;> rfl
  | finishing => exact fun _ => rfl
  | returning returned => rfl

theorem Returned.ofWork_finishes (workUnits : Nat) (finished : Bool) :
    (if finished then Returned.result .finished else .ofWork workUnits) = .result .finished ∨
      (if finished then Returned.result .finished else .ofWork workUnits) = .ofWork workUnits := by
  cases finished with
  | true => exact .inl rfl
  | false => exact .inr rfl

def Repeat.passing : Passing where
  spec := spec
  flushesFirst := true
  finish workUnits pending abandoned :=
    if abandoned && pending.isEmpty then .result .finished else .ofWork workUnits
  routes _ := rfl
  finishes _ _ _ := Returned.ofWork_finishes _ _

def Trim.passing : Passing where
  spec := spec
  flushesFirst := true
  finish workUnits pending abandoned :=
    if abandoned && pending.isEmpty then .result .finished else .ofWork workUnits
  routes _ := rfl
  finishes _ _ _ := Returned.ofWork_finishes _ _

def Output.passing : Passing where
  spec := spec
  flushesFirst := false
  finish workUnits _ abandoned :=
    if 0 < workUnits then .result (.didWork workUnits)
    else if abandoned then .result .finished
    else .result .noWork
  routes _ := rfl
  finishes workUnits _ abandoned := by
    unfold Returned.ofWork
    cases abandoned with
    | true => by_cases worked : 0 < workUnits <;> simp [worked]
    | false => simp

def BrotliCompress.passing (compress : List UInt8 → Option (List UInt8)) : Passing where
  spec := spec compress
  flushesFirst := false
  finish workUnits _ abandoned := if abandoned then .result .finished else .ofWork workUnits
  routes _ := rfl
  finishes _ _ _ := Returned.ofWork_finishes _ _

def BrotliDecompress.passing (decompress : List UInt8 → Option (List UInt8)) : Passing where
  spec := spec decompress
  flushesFirst := false
  finish workUnits _ abandoned := if abandoned then .result .finished else .ofWork workUnits
  routes _ := rfl
  finishes _ _ _ := Returned.ofWork_finishes _ _

/-- The components of this kind, those for Brotli with what their library does. -/
inductive PassingComponent where
  | repeats
  | trims
  | outputs
  | compresses (compress : List UInt8 → Option (List UInt8))
  | decompresses (decompress : List UInt8 → Option (List UInt8))

namespace PassingComponent

def passing : PassingComponent → Passing
  | .repeats => Repeat.passing
  | .trims => Trim.passing
  | .outputs => Output.passing
  | .compresses compress => BrotliCompress.passing compress
  | .decompresses decompress => BrotliDecompress.passing decompress

def process : PassingComponent → List FbpMessage → Call InPort OutPort → Nat →
    Outcome (List FbpMessage) InPort OutPort
  | .repeats => Repeat.process
  | .trims => Trim.process
  | .outputs => Output.process
  | .compresses compress => BrotliCompress.process compress
  | .decompresses decompress => BrotliDecompress.process decompress

theorem process_eq (component : PassingComponent) : component.process = component.passing.process := by
  cases component <;> rfl

/-- Taken one after the other, the accesses of a call do what `process()` does as a whole, and there
is no other way for the call to go. -/
theorem taken_apart (component : PassingComponent) (pending : List FbpMessage) (call : Call InPort OutPort)
    (budget : Nat) :
    let outcome := component.process pending call budget
    let last : Call InPort OutPort × Frame := (outcome.call,
      ⟨.returning outcome.returned, outcome.component, outcome.remainingBudget, outcome.call.workUnits⟩)
    component.passing.Reaches budget (call.begin, .rest pending) last ∧
      ∀ state, component.passing.Reaches budget (call.begin, .rest pending) state →
        component.passing.Reaches budget state last := by
  rw [process_eq]
  exact component.passing.reaches_end pending call budget

end PassingComponent

end Flowd
