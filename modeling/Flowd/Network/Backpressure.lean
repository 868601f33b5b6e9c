import Flowd.Component.Blocking
import Flowd.Network.Calls
import Flowd.Network.Delivery
import Flowd.Scheduler.Budget

namespace Flowd

/-! Forwarders that wait for room in their OUT edge.

A packet that is taken out of a full edge makes room, and nobody tells the producer.  It looks
again if it is called again for some other reason.
-/

open Transition

variable {layout : Layout} {enforced : Bool} {flow next : Flow layout} {doing : Doing layout}
variable {events trace : List Event} {nodeId other : NodeId} {passing : Passing}

/-- OUT has no room. -/
def Flow.Full (nodeId : NodeId) (flow : Flow layout) : Prop :=
  (flow.network.rings (layout.out nodeId)).buffer.length = (flow.network.rings (layout.out nodeId)).capacity

/-- IN has no packets. -/
def Flow.Empty (nodeId : NodeId) (flow : Flow layout) : Prop := (flow.network.rings (layout.inn nodeId)).buffer = []

def Flow.Quiet (nodeId : NodeId) (flow : Flow layout) : Prop :=
  (flow.frames nodeId).Quiet (flow.Full nodeId) (flow.Empty nodeId)

def Flow.Goes (nodeId : NodeId) (passing : Passing) (flow : Flow layout) : Prop :=
  (flow.frames nodeId).Goes passing (flow.Full nodeId) (flow.Empty nodeId)

/-- The forwarder is going to offer its pending packets again. -/
def Flow.Recalled (nodeId : NodeId) (passing : Passing) (flow : Flow layout) : Prop :=
  flow.network.Recalls nodeId ∨ flow.network.system.pc.executing = some nodeId ∧
    (0 < (flow.frames nodeId).workUnits ∨ (flow.frames nodeId).stage.BeforeFlush passing)

/-- The forwarder is going to be called again, or it has found that there is nothing to be done. -/
def Flow.Attended (nodeId : NodeId) (passing : Passing) (flow : Flow layout) : Prop :=
  flow.network.Recalls nodeId ∨
    (flow.network.system.pc.executing = some nodeId ∧ flow.Goes nodeId passing) ∨
    (flow.network.system.pc.executing ≠ some nodeId ∧ flow.Quiet nodeId)

/-- The frame of a forwarder fits its calls. -/
structure Flow.Framed (nodeId : NodeId) (flow : Flow layout) : Prop where
  resting : flow.network.system.pc.executing ≠ some nodeId → (flow.frames nodeId).stage = .resting
  fits : (flow.frames nodeId).Fits

/-- What the others do to a forwarder. -/
structure Flow.Beside (enforced : Bool) (nodeId : NodeId) (flow next : Flow layout) : Prop
    extends flow.network.Beside enforced nodeId (layout.inn nodeId) (layout.out nodeId) next.network where
  frame : next.frames nodeId = flow.frames nodeId

theorem Network.Beside.refl {wiring : Wiring} (network : Network wiring) (inn out : wiring.Edge) :
    network.Beside enforced nodeId inn out network :=
  ⟨.inl rfl, .inl, .inl rfl, .inl ⟨rfl, rfl⟩⟩

theorem Flow.Performed.frames_of_ne {access : Access}
    (performed : flow.Performed enforced other passing access events next) (different : nodeId ≠ other) :
    next.frames nodeId = flow.frames nodeId := by
  cases performed <;> exact Flow.goOn_frames_of_ne _ _ different

theorem Flow.Done.beside (done : flow.Done enforced doing events next) (known : layout.passing nodeId = some passing)
    (sound : Sound flow.network.system)
    (others : ∀ elapsed, doing = .proceed elapsed → flow.network.system.pc.executing ≠ some nodeId) :
    flow.Beside enforced nodeId next := by
  have target := layout.target known
  have source := layout.source known
  cases done with
  | @deeds deed _ network foreign done =>
      refine ⟨done.beside sound target source fun executing => ?_, rfl⟩
      by_contra called
      have unknown := foreign (by simpa using called) nodeId executing
      rw [known] at unknown
      cases unknown
  | tells _ _ => exact ⟨.refl _ _ _, rfl⟩
  | @proceeds elapsed away theirs _ _ executing theirsKnown performed =>
      have different : nodeId ≠ away := by
        rintro rfl
        exact others elapsed rfl executing
      refine ⟨?_, performed.frames_of_ne different⟩
      rcases performed.network executing theirsKnown with ⟨same, _⟩ | ⟨deed, done⟩
      · rw [same]
        exact .refl _ _ _
      · refine done.beside sound target source fun mine => ?_
        rw [executing, Option.some.injEq] at mine
        exact absurd mine.symm different

theorem Network.Recalls.beside {wiring : Wiring} {network after : Network wiring} {inn out : wiring.Edge}
    (recalls : network.Recalls nodeId) (sound : Sound network.system)
    (beside : network.Beside enforced nodeId inn out after) : after.Recalls nodeId ∨
      network.system.pc.executing ≠ some nodeId ∧ after.system.pc.executing = some nodeId := by
  rcases beside.moved with same | ⟨action, events, moved, _⟩
  · left
    cases recalls with
    | roused roused => exact .roused (same ▸ roused)
    | owed member => exact (beside.owed member).elim .owed .roused
    | entering pc => exact .entering (same ▸ pc)
    | marked marked => exact .marked (same ▸ marked)
    | worked pc didWork => exact .worked (same ▸ pc) didWork
  · exact recalls.moved sound moved beside.owed

/-- A packet is taken out of the full OUT edge of a forwarder that holds packets only if the
forwarder is going to offer them again. -/
def Flow.Spares (nodeId : NodeId) (passing : Passing) (flow next : Flow layout) : Prop :=
  (flow.network.taken (layout.out nodeId)).length < (next.network.taken (layout.out nodeId)).length →
    flow.Full nodeId → (flow.frames nodeId).pending ≠ [] → flow.Recalled nodeId passing

/-- Room in OUT comes only from a packet that is taken. -/
theorem Flow.Beside.full (beside : flow.Beside enforced nodeId next) (spares : flow.Spares nodeId passing next)
    (full : flow.Full nodeId) (pending : (flow.frames nodeId).pending ≠ []) :
    next.Full nodeId ∨ flow.Recalled nodeId passing := by
  rcases beside.out with ⟨buffer, capacity⟩ | taken
  · left
    unfold Flow.Full at full ⊢
    rw [buffer, capacity]
    exact full
  · exact .inr (spares taken full pending)

theorem Flow.Beside.empty (beside : flow.Beside enforced nodeId next) (empty : flow.Empty nodeId) :
    next.Empty nodeId ∨ next.network.Recalls nodeId := by
  rcases beside.inn with buffer | roused | owed
  · exact .inl (buffer.trans empty)
  · exact .inr (.roused roused)
  · exact .inr (.owed owed)

theorem Flow.Beside.blocked (beside : flow.Beside enforced nodeId next) (spares : flow.Spares nodeId passing next)
    (blocked : (flow.frames nodeId).Blocked (flow.Full nodeId)) :
    (flow.frames nodeId).Blocked (next.Full nodeId) ∨ flow.Recalled nodeId passing := by
  by_cases pending : (flow.frames nodeId).pending = []
  · exact .inl fun some => absurd pending some
  · exact (beside.full spares (blocked pending) pending).imp_left fun full _ => full

theorem Flow.Beside.quiet (beside : flow.Beside enforced nodeId next) (spares : flow.Spares nodeId passing next)
    (quiet : (flow.frames nodeId).Quiet (flow.Full nodeId) (flow.Empty nodeId)) :
    (flow.frames nodeId).Quiet (next.Full nodeId) (next.Empty nodeId) ∨ flow.Recalled nodeId passing ∨
      next.network.Recalls nodeId := by
  rcases beside.blocked spares quiet.1 with blocked | recalled
  · by_cases pending : (flow.frames nodeId).pending = []
    · rcases beside.empty (quiet.2 pending) with empty | recalls
      · exact .inl ⟨blocked, fun _ => empty⟩
      · exact .inr (.inr recalls)
    · exact .inl ⟨blocked, fun none => absurd none pending⟩
  · exact .inr (.inl recalled)

theorem Flow.Beside.finds (beside : flow.Beside enforced nodeId next) (spares : flow.Spares nodeId passing next)
    (finds : (flow.frames nodeId).Finds passing (flow.Full nodeId) (flow.Empty nodeId)) :
    (flow.frames nodeId).Finds passing (next.Full nodeId) (next.Empty nodeId) ∨ flow.Recalled nodeId passing ∨
      next.network.Recalls nodeId := by
  unfold Frame.Finds at finds ⊢
  cases stage : (flow.frames nodeId).stage with
  | resting | flushing => exact .inl trivial
  | polling =>
      rw [stage] at finds
      cases order : passing.flushesFirst with
      | true => exact (beside.blocked spares (finds order)).imp (fun blocked _ => blocked) .inl
      | false => exact .inl fun flushes => by cases flushes
  | receiving | taking | offering _ =>
      rw [stage] at finds
      exact (beside.blocked spares finds).imp_right .inl
  | finishing =>
      rw [stage] at finds
      exact beside.quiet spares finds
  | returning returned =>
      rw [stage] at finds
      cases returned with
      | panicked => exact .inl trivial
      | result result =>
          cases result with
          | noWork => exact beside.quiet spares finds
          | didWork _ | finished => exact .inl trivial

/-- What others do does not leave a forwarder unattended, as long as they spare its OUT edge. -/
theorem Flow.Attended.beside (attended : flow.Attended nodeId passing) (framed : flow.Framed nodeId)
    (sound : Sound flow.network.system) (beside : flow.Beside enforced nodeId next)
    (spares : flow.Spares nodeId passing next) : next.Attended nodeId passing := by
  have frame := beside.frame
  have called (recalls : flow.network.Recalls nodeId) : next.Attended nodeId passing := by
    rcases recalls.beside sound beside.toBeside with recalls | ⟨idle, executing⟩
    · exact .inl recalls
    · refine .inr (.inl ⟨executing, .inr (.of_beforeFlush ?_)⟩)
      rw [frame, framed.resting idle]
      trivial
  have goesOn (executing : flow.network.system.pc.executing = some nodeId) :
      next.network.system.pc.executing = some nodeId := by
    rcases beside.moved with same | ⟨action, events, moved, goes⟩
    · rw [same]
      exact executing
    · exact moved.executing executing (goes executing)
  rcases attended with recalls | ⟨executing, going⟩ | ⟨idle, quiet⟩
  · exact called recalls
  · have attends (goes : (flow.frames nodeId).Goes passing (next.Full nodeId) (next.Empty nodeId)) :
        next.Attended nodeId passing := by
      refine .inr (.inl ⟨goesOn executing, ?_⟩)
      rw [Flow.Goes, frame]
      exact goes
    rcases going with worked | finds
    · exact attends (.inl worked)
    · rcases beside.finds spares finds with finds | (recalls | ⟨_, worked | before⟩) | recalls
      · exact attends (.inr finds)
      · exact called recalls
      · exact attends (.inl worked)
      · exact attends (.inr (.of_beforeFlush before))
      · exact .inl recalls
  · by_cases executing : next.network.system.pc.executing = some nodeId
    · rcases beside.moved with same | ⟨action, events, moved, _⟩
      · rw [same] at executing
        exact absurd executing idle
      · rcases moved.executes executing with before | ⟨component, context, pc⟩
        · exact absurd before idle
        · exact called (.entering pc)
    · rcases beside.quiet spares quiet with quiet | (recalls | ⟨away, _⟩) | recalls
      · refine .inr (.inr ⟨executing, ?_⟩)
        rw [Flow.Quiet, frame]
        exact quiet
      · exact called recalls
      · exact absurd away idle
      · exact .inl recalls

theorem Flow.Performed.framed {access : Access}
    (performed : flow.Performed enforced nodeId passing access events next)
    (executing : flow.network.system.pc.executing = some nodeId) (funded : flow.network.system.pc.Funded)
    (fits : access.All Frame.Fits) : next.Framed nodeId := by
  have stays {frame : Frame} (fits : frame.Fits) : (flow.goOn nodeId frame).Framed nodeId := by
    refine ⟨fun idle => absurd executing idle, ?_⟩
    rw [Flow.goOn_frames]
    exact fits
  cases performed with
  | enters =>
      refine stays (fits _ ?_)
      obtain ⟨_, _, _, pc⟩ := Pc.executing_eq.mp executing
      rw [pc] at funded ⊢
      exact funded
  | @pushes packet onwards ring events network _ done =>
      refine ⟨fun idle => absurd (done.push_executing executing) idle, ?_⟩
      rw [Flow.goOn_frames]
      exact fits true
  | refused _ => exact stays (fits false)
  | polls =>
      refine ⟨fun idle => absurd executing idle, ?_⟩
      rw [Flow.goOn_frames]
      exact fits _
  | pops _ =>
      refine ⟨fun idle => absurd executing idle, ?_⟩
      rw [Flow.goOn_frames]
      exact fits _
  | empty _ => exact stays (fits none)
  | probes => exact stays (fits _)
  | turns => exact stays fits
  | leaves _ _ =>
      refine ⟨fun _ => ?_, ?_⟩
      · rw [Flow.goOn_frames]
        rfl
      · rw [Flow.goOn_frames]
        exact ⟨fun away => absurd rfl away, fun returns => by cases returns⟩

theorem Network.Recalls.congr {wiring : Wiring} {network after : Network wiring} (recalls : network.Recalls nodeId)
    (system : after.system = network.system) (owed : after.owed = network.owed) : after.Recalls nodeId := by
  cases recalls with
  | roused roused => exact .roused (system ▸ roused)
  | owed member => exact .owed (owed ▸ member)
  | entering pc => exact .entering (system ▸ pc)
  | marked marked => exact .marked (system ▸ marked)
  | worked pc didWork => exact .worked (system ▸ pc) didWork

/-- The accesses of a call do not stop the scheduler from calling the node again. -/
theorem Flow.Performed.recalls {access : Access}
    (performed : flow.Performed enforced nodeId passing access events next)
    (executing : flow.network.system.pc.executing = some nodeId) (sound : Sound flow.network.system)
    (recalls : flow.network.Recalls nodeId) : next.network.Recalls nodeId := by
  cases performed with
  | @pushes packet onwards ring events network _ done =>
      obtain ⟨owed, same | ⟨consumer, moved⟩⟩ := done.push_system
      · exact recalls.congr same owed
      · exact (recalls.moved sound moved fun member => .inl (owed ▸ member)).resolve_right
          fun entered => entered.1 executing
  | @leaves returned reply events system _ moved =>
      have after : (flow.network.follow system events).Recalls nodeId ∨
          flow.network.system.pc.executing ≠ some nodeId ∧ system.pc.executing = some nodeId :=
        recalls.moved sound moved .inl
      exact after.resolve_right fun entered => entered.1 executing
  | _ => exact recalls.congr rfl rfl

theorem Flow.follow_full (flow : Flow layout) (system : System Unit) (events : List Event) (frame : Frame) :
    ({ flow with network := flow.network.follow system events }.goOn nodeId frame).Full nodeId ↔ flow.Full nodeId := by
  unfold Flow.Full Flow.goOn Network.follow
  simp only [Wiring.dropEnds_buffer, Wiring.dropEnds_capacity]

theorem Flow.follow_empty (flow : Flow layout) (system : System Unit) (events : List Event) (frame : Frame) :
    ({ flow with network := flow.network.follow system events }.goOn nodeId frame).Empty nodeId ↔ flow.Empty nodeId := by
  unfold Flow.Empty Flow.goOn Network.follow
  simp only [Wiring.dropEnds_buffer]

/-- A packet that the forwarder takes from its own OUT edge is spared like any other. -/
theorem Flow.Goes.blocked {packet : FbpMessage} {ring : Ring FbpMessage} {frame : Frame}
    (goes : flow.Goes nodeId passing) (stage : (flow.frames nodeId).stage = .taking)
    (spares : flow.Spares nodeId passing
      ({ flow with network := flow.network.drained (layout.inn nodeId) packet ring }.goOn nodeId frame)) :
    flow.network.Recalls nodeId ∨ 0 < (flow.frames nodeId).workUnits ∨ (flow.frames nodeId).Blocked
      (({ flow with network := flow.network.drained (layout.inn nodeId) packet ring }.goOn nodeId frame).Full nodeId) := by
  rcases goes with worked | finds
  · exact .inr (.inl worked)
  · rw [Frame.Finds, stage] at finds
    by_cases pending : (flow.frames nodeId).pending = []
    · exact .inr (.inr fun some => absurd pending some)
    · have full := finds pending
      by_cases same : layout.out nodeId = layout.inn nodeId
      · have taken : (flow.network.taken (layout.out nodeId)).length <
            ((flow.network.drained (layout.inn nodeId) packet ring).taken (layout.out nodeId)).length := by
          simp [same, Network.drained]
        rcases spares taken full pending with recalls | ⟨_, worked | before⟩
        · exact .inl recalls
        · exact .inr (.inl worked)
        · rw [stage] at before
          exact before.elim
      · refine .inr (.inr fun _ => ?_)
        unfold Flow.Full at full ⊢
        simpa [Flow.goOn, Network.drained, Function.update_of_ne same] using full

/-- Nor do its own accesses leave it unattended. -/
theorem Flow.Performed.attended
    (performed : flow.Performed enforced nodeId passing (passing.next (flow.frames nodeId)) events next)
    (executing : flow.network.system.pc.executing = some nodeId) (framed : flow.Framed nodeId)
    (sound : Sound flow.network.system) (attended : flow.Attended nodeId passing)
    (spares : flow.Spares nodeId passing next) : next.Attended nodeId passing := by
  rcases attended with recalls | ⟨_, going⟩ | ⟨idle, _⟩
  · exact .inl (performed.recalls executing sound recalls)
  · have goes := passing.goes framed.fits going
    have stays {frame : Frame} (goes : frame.Goes passing (flow.Full nodeId) (flow.Empty nodeId)) :
        (flow.goOn nodeId frame).Attended nodeId passing := by
      refine .inr (.inl ⟨executing, ?_⟩)
      rw [Flow.Goes, Flow.goOn_frames]
      exact goes
    generalize passing.next (flow.frames nodeId) = access at performed goes
    cases performed with
    | enters => exact stays (goes _)
    | pushes _ done =>
        refine .inr (.inl ⟨done.push_executing executing, .inl ?_⟩)
        rw [Flow.goOn_frames]
        exact goes.1
    | refused full => exact stays (goes.2 (Ring.push_eq_none.mp full))
    | polls =>
        refine .inr (.inl ⟨executing, ?_⟩)
        rw [Flow.Goes, Flow.goOn_frames]
        exact goes _
    | pops _ =>
        obtain ⟨stage, _, onwards⟩ := goes
        rcases Flow.Goes.blocked going stage spares with recalls | blocked
        · exact .inl (recalls.congr rfl rfl)
        · refine .inr (.inl ⟨executing, ?_⟩)
          rw [Flow.Goes, Flow.goOn_frames]
          exact onwards _ _ _ blocked
    | empty nothing => exact stays (goes.2.1 (Ring.pop_eq_none.mp nothing))
    | probes => exact stays (goes _)
    | turns => exact stays goes
    | @leaves returned reply events system replied moved =>
        have stage : (flow.frames nodeId).stage = .returning returned := goes
        obtain ⟨_, _, _, _, settled⟩ := moved.settled executing
        by_cases idle : reply.returned = .result .noWork
        · have none := framed.fits.honest (by rw [stage, ← replied, idle])
          have quiet : flow.Quiet nodeId := by
            rcases going with worked | finds
            · omega
            · rw [Frame.Finds, stage, ← replied, idle] at finds
              exact finds
          cases settled with
          | overran => exact .inl (.marked rfl)
          | ended why _ _ =>
              rw [idle] at why
              simp at why
          | idle _ _ _ =>
              refine .inr (.inr ⟨by simp [Flow.goOn, Network.follow, Pc.executing], ?_⟩)
              rw [Flow.Quiet, Flow.goOn_frames, Flow.follow_full, Flow.follow_empty]
              exact quiet
          | exhausted why _ _ | again why _ _ _ =>
              rw [idle] at why
              cases why
        · rcases settled.worked (.inr idle) with marked | ⟨_, _, _, pc, didWork⟩
          · exact .inl (.marked marked)
          · exact .inl (.worked pc didWork)
  · exact absurd executing idle

theorem Flow.Framed.beside (framed : flow.Framed nodeId) (beside : flow.Beside enforced nodeId next) :
    next.Framed nodeId := by
  refine ⟨fun idle => ?_, ?_⟩
  · rw [beside.frame]
    refine framed.resting fun executing => idle ?_
    rcases beside.moved with same | ⟨action, events, moved, goes⟩
    · rw [same]
      exact executing
    · exact moved.executing executing (goes executing)
  · rw [beside.frame]
    exact framed.fits

theorem Flow.Framed.done (framed : flow.Framed nodeId) (known : layout.passing nodeId = some passing)
    (sound : Sound flow.network.system) (funded : flow.network.system.pc.Funded)
    (done : flow.Done enforced doing events next) : next.Framed nodeId := by
  by_cases own : ∃ elapsed, doing = .proceed elapsed ∧ flow.network.system.pc.executing = some nodeId
  · obtain ⟨elapsed, rfl, executing⟩ := own
    cases done with
    | @proceeds _ away theirs _ _ here theirsKnown performed =>
        rw [executing, Option.some.injEq] at here
        subst here
        exact performed.framed executing funded (theirs.fits framed.fits)
  · have beside : flow.Beside enforced nodeId next :=
      done.beside known sound fun elapsed same executing => own ⟨elapsed, same, executing⟩
    exact framed.beside beside

/-- What all doings keep for a forwarder. -/
structure Flow.Tended (nodeId : NodeId) (passing : Passing) (flow : Flow layout) : Prop where
  framed : flow.Framed nodeId
  attended : flow.Attended nodeId passing

theorem Flow.Tended.done (tended : flow.Tended nodeId passing) (known : layout.passing nodeId = some passing)
    (sound : Sound flow.network.system) (funded : flow.network.system.pc.Funded)
    (done : flow.Done enforced doing events next) (spares : flow.Spares nodeId passing next) :
    next.Tended nodeId passing := by
  refine ⟨tended.framed.done known sound funded done, ?_⟩
  by_cases own : ∃ elapsed, doing = .proceed elapsed ∧ flow.network.system.pc.executing = some nodeId
  · obtain ⟨elapsed, rfl, executing⟩ := own
    cases done with
    | @proceeds _ away theirs _ _ here theirsKnown performed =>
        rw [executing, Option.some.injEq] at here
        subst here
        rw [known, Option.some.injEq] at theirsKnown
        subst theirsKnown
        exact performed.attended executing tended.framed sound tended.attended spares
  · have beside : flow.Beside enforced nodeId next :=
      done.beside known sound fun elapsed same executing => own ⟨elapsed, same, executing⟩
    exact tended.attended.beside tended.framed sound beside spares

/-- Nobody makes room for a forwarder that waits for it and is not going to look. -/
def SparesFull (enforced : Bool) (flow : Flow layout) (doing : Doing layout) : Prop :=
  ∀ done ∈ flow.step enforced doing, ∀ nodeId passing, layout.passing nodeId = some passing →
    flow.Spares nodeId passing done.1

theorem tended_run {first : Flow layout} (sound : Sound first.network.system)
    (funded : first.network.system.pc.Funded)
    (tended : ∀ nodeId passing, layout.passing nodeId = some passing → first.Tended nodeId passing)
    (run : (flowMachine layout enforced).Run (SparesFull enforced) first trace flow) :
    (Sound flow.network.system ∧ flow.network.system.pc.Funded) ∧
      ∀ nodeId passing, layout.passing nodeId = some passing → flow.Tended nodeId passing := by
  refine Machine.Run.invariant (fun flow : Flow layout => (Sound flow.network.system ∧ flow.network.system.pc.Funded) ∧
    ∀ nodeId passing, layout.passing nodeId = some passing → flow.Tended nodeId passing) run
    ⟨⟨sound, funded⟩, tended⟩ ?_
  rintro flow doing next events spares ⟨⟨sound, funded⟩, tended⟩ step
  have done := Flow.done_of_step step
  refine ⟨?_, fun nodeId passing known =>
    (tended nodeId passing known).done known sound funded done (spares _ step nodeId passing known)⟩
  rcases done.system with ⟨action, moved⟩ | ⟨same, _⟩
  · exact ⟨sound.moved moved, funded.moved moved⟩
  · rw [same]
    exact ⟨sound, funded⟩

/-- In a network at rest nobody is going to call a live node. -/
theorem Network.Quiescent.not_recalls {wiring : Wiring} {network : Network wiring} (quiescent : network.Quiescent)
    (sound : Sound network.system) (live : nodeId ∈ network.system.scheduler.state.nodes) :
    ¬ network.Recalls nodeId := by
  have idle := quiescent.idle
  intro recalls
  cases recalls with
  | roused roused => exact quiescent.not_roused sound live roused
  | owed owed =>
      rw [quiescent.owed] at owed
      cases owed
  | entering pc =>
      rw [pc] at idle
      cases idle
  | marked marked =>
      rw [marked.inFlight] at idle
      cases idle
  | worked pc _ =>
      rw [pc] at idle
      cases idle

/-- The forwarder holds packets and has room for them, but nobody is going to call it. -/
def Flow.Stuck (nodeId : NodeId) (flow : Flow layout) : Prop :=
  ¬ flow.network.Recalls nodeId ∧ (flow.frames nodeId).pending ≠ [] ∧ ¬ flow.Full nodeId

/-- A record of what was taken grows by taking a packet, and nothing else happens. -/
theorem Network.Done.taken {wiring : Wiring} {network after : Network wiring} {deed : Deed wiring} {edge : wiring.Edge}
    (done : network.Done enforced deed events after) (grew : (network.taken edge).length < (after.taken edge).length) :
    ∃ packet ring, (network.rings edge).pop = some (packet, ring) ∧ after = network.drained edge packet ring := by
  cases done with
  | @pops other packet ring _ _ _ popped =>
      by_cases same : edge = other
      · subst same
        exact ⟨packet, ring, popped, rfl⟩
      · simp [Network.drained, Function.update_of_ne same] at grew
  | @drains other packet ring _ popped =>
      by_cases same : edge = other
      · subst same
        exact ⟨packet, ring, popped, rfl⟩
      · simp [Network.drained, Function.update_of_ne same] at grew
  | _ => exact absurd grew (Nat.lt_irrefl _)

/-- Room that is made for a forwarder at rest, which is not going to look, leaves it stuck. -/
theorem Flow.stuck_of_room (done : flow.Done enforced doing events next) (idle : flow.network.system.pc.executing ≠ some nodeId)
    (unspared : ¬ flow.Spares nodeId passing next) : next.Stuck nodeId := by
  simp only [Flow.Spares, Classical.not_imp] at unspared
  obtain ⟨grew, full, pending, unrecalled⟩ := unspared
  obtain ⟨packet, ring, popped, network⟩ : ∃ packet ring,
      (flow.network.rings (layout.out nodeId)).pop = some (packet, ring) ∧
        next.network = flow.network.drained (layout.out nodeId) packet ring := by
    cases done with
    | deeds _ done => exact done.taken grew
    | tells _ _ => exact absurd grew (Nat.lt_irrefl _)
    | proceeds executing otherKnown performed =>
        rcases performed.network executing otherKnown with ⟨same, _⟩ | ⟨deed, done⟩
        · rw [same] at grew
          exact absurd grew (Nat.lt_irrefl _)
        · exact done.taken grew
  have frame : next.frames nodeId = flow.frames nodeId := by
    cases done with
    | deeds | tells => rfl
    | @proceeds _ away _ _ _ executing _ performed =>
        refine performed.frames_of_ne ?_
        rintro rfl
        exact idle executing
  refine ⟨fun recalls => unrecalled (.inl ?_), by rw [frame]; exact pending, ?_⟩
  · rw [network] at recalls
    exact recalls.congr rfl rfl
  · obtain ⟨buffer, capacity, _⟩ := Ring.pop_some popped
    unfold Flow.Full at full ⊢
    rw [buffer, List.length_cons] at full
    simp only [network, Network.drained, Function.update_self, capacity]
    omega

/-- A forwarder is tended from the start of the network on. -/
theorem tended_of_start {scheduler : Scheduler Unit} {clock : Instant} {rings : layout.wiring.Edge → Ring FbpMessage}
    (built : Built scheduler) (equipped : Equipped scheduler.state)
    (started : ∀ nodeId passing, layout.passing nodeId = some passing →
      (rings (layout.inn nodeId)).buffer = [] ∨ nodeId ∈ scheduler.state.readyQueue)
    (run : (flowMachine layout enforced).Run (SparesFull enforced) (.start scheduler clock rings) trace flow) :
    Sound flow.network.system ∧
      ∀ nodeId passing, layout.passing nodeId = some passing → flow.Tended nodeId passing := by
  have sound : Sound (Flow.start scheduler clock rings : Flow layout).network.system := built.sound equipped
  have tended (nodeId : NodeId) (passing : Passing) (known : layout.passing nodeId = some passing) :
      (Flow.start scheduler clock rings : Flow layout).Tended nodeId passing := by
    refine ⟨⟨fun _ => rfl, fun away => absurd rfl away, fun returns => by cases returns⟩, ?_⟩
    rcases started nodeId passing known with empty | queued
    · exact .inr (.inr ⟨by simp [Flow.start, Network.start, System.start, Pc.executing],
        fun some => absurd rfl some, fun _ => empty⟩)
    · exact .inl (.roused (.inr (.inl queued)))
  obtain ⟨⟨soundNow, _⟩, tendedNow⟩ := tended_run sound trivial tended run
  exact ⟨soundNow, tendedNow⟩

/-- In a network at rest a live forwarder that is tended has found out about its edges. -/
theorem Flow.Tended.quiet (tended : flow.Tended nodeId passing) (quiescent : flow.network.Quiescent)
    (sound : Sound flow.network.system) (live : nodeId ∈ flow.network.system.scheduler.state.nodes) :
    flow.network.system.pc.executing ≠ some nodeId ∧ flow.Quiet nodeId := by
  have unrecalled := quiescent.not_recalls sound live
  rcases tended.attended with recalls | ⟨executing, _⟩ | rests
  · exact absurd recalls unrecalled
  · obtain ⟨_, _, _, pc⟩ := Pc.executing_eq.mp executing
    have idle := quiescent.idle
    rw [pc] at idle
    cases idle
  · exact rests

/-- In every run in which nobody makes room for a forwarder that is not going to look, a network at
rest has no live forwarder with packets to send and room for them; and room that is made for a
forwarder at rest which is not going to look leaves it stuck. -/
theorem backpressure_released (layout : Layout) (enforced : Bool) (scheduler : Scheduler Unit) (clock : Instant)
    (rings : layout.wiring.Edge → Ring FbpMessage) (trace : List Event) (flow : Flow layout) (built : Built scheduler)
    (equipped : Equipped scheduler.state)
    (started : ∀ nodeId passing, layout.passing nodeId = some passing →
      (rings (layout.inn nodeId)).buffer = [] ∨ nodeId ∈ scheduler.state.readyQueue)
    (run : (flowMachine layout enforced).Run (SparesFull enforced) (.start scheduler clock rings) trace flow) :
    (flow.network.Quiescent → ∀ nodeId passing, layout.passing nodeId = some passing →
      nodeId ∈ flow.network.system.scheduler.state.nodes →
        (flow.frames nodeId).pending ≠ [] ∨ ¬ flow.Empty nodeId → flow.Full nodeId) ∧
    ∀ doing next events nodeId passing, layout.passing nodeId = some passing →
      flow.step enforced doing = some (next, events) → flow.network.system.pc.executing ≠ some nodeId →
        ¬ flow.Spares nodeId passing next → next.Stuck nodeId := by
  obtain ⟨sound, tended⟩ := tended_of_start built equipped started run
  constructor
  · intro quiescent nodeId passing known live holds
    obtain ⟨_, blocked, none⟩ := (tended nodeId passing known).quiet quiescent sound live
    by_cases pending : (flow.frames nodeId).pending = []
    · exact absurd (none pending) (holds.resolve_left fun some => some pending)
    · exact blocked pending
  · intro doing next events nodeId passing _ step idle unspared
    exact Flow.stuck_of_room (Flow.done_of_step step) idle unspared

/-- Repeat between an inport and an outport. -/
def repeatAlone : Layout where
  wiring :=
    { Edge := Fin 2
      source := fun edge => if edge = 1 then some "repeat" else none
      target := fun edge => if edge = 0 then some "repeat" else none }
  passing nodeId := if nodeId = "repeat" then some Repeat.passing else none
  inn _ := (0 : Fin 2)
  out _ := (1 : Fin 2)
  target := by
    intro nodeId passing known
    by_cases named : nodeId = "repeat"
    · simp [named]
    · simp [named] at known
  source := by
    intro nodeId passing known
    by_cases named : nodeId = "repeat"
    · simp [named]
    · simp [named] at known

def oneForwarder : Scheduler Unit := (Scheduler.new.addNode "repeat" .normal 0).addComponent () "repeat"

theorem oneForwarder_built : Built oneForwarder := .addComponent () "repeat" (.addNode "repeat" .normal 0 .new)

def repeatStart : Flow repeatAlone := .start oneForwarder 0 fun _ => .empty 1

/-- A packet is fed to Repeat, which is dispatched and makes some accesses. -/
def feedRepeat (text : String) (accesses : Nat) : List (Doing repeatAlone) :=
  [.deed (.feed (0 : Fin 2) (.text text)), .deed (.announce "repeat")] ++
    List.replicate 6 (.deed (.schedule .run)) ++ List.replicate accesses (.proceed 0)

/-- The first packet goes through, in a call and one that finds nothing more; the second one finds
OUT full. -/
def fillOut : List (Doing repeatAlone) :=
  feedRepeat "a" 17 ++ List.replicate 7 (.deed (.schedule .run)) ++ List.replicate 7 (.proceed 0) ++
    [.deed (.schedule .run)] ++ feedRepeat "b" 8 ++ [.deed (.schedule .run)]

/-- Nothing is taken out of the OUT edge. -/
def KeepsOut (flow : Flow repeatAlone) (doing : Doing repeatAlone) : Prop :=
  ∀ done ∈ flow.step false doing,
    (done.1.network.taken (1 : Fin 2)).length ≤ (flow.network.taken (1 : Fin 2)).length

instance (flow : Flow repeatAlone) : DecidablePred (KeepsOut flow) :=
  fun doing => inferInstanceAs (Decidable (∀ done ∈ flow.step false doing, _ ≤ _))

theorem backpressure_released_repeat :
    ((flowMachine repeatAlone false).played repeatStart fillOut).Full "repeat" := by
  have permits : (flowMachine repeatAlone false).Permits KeepsOut repeatStart fillOut := by decide +kernel
  have run := ((flowMachine repeatAlone false).run_played permits (by decide +kernel)).weaken
    (show ∀ flow doing, KeepsOut flow doing → SparesFull false flow doing from
      fun flow doing keeps done member _ _ _ grew => absurd (keeps done member) (Nat.not_le_of_lt grew))
  have rests : ((flowMachine repeatAlone false).played repeatStart fillOut).network.Quiescent :=
    ⟨by decide +kernel, by decide +kernel, by decide +kernel, by decide +kernel⟩
  have released := (backpressure_released repeatAlone false oneForwarder 0 (fun _ => .empty 1) _ _ oneForwarder_built
    Equipped.new.add (fun _ _ _ => .inl rfl) run).1 rests
  refine released "repeat" Repeat.passing rfl (by decide +kernel) (.inl ?_)
  exact List.ne_nil_of_length_pos (by decide +kernel)

/-- The thread behind OUT takes the first packet, and Repeat stays with the second one. -/
theorem backpressure_unnoticed :
    ¬ ∀ (layout : Layout) (scheduler : Scheduler Unit) (rings : layout.wiring.Edge → Ring FbpMessage)
        (trace : List Event) (flow : Flow layout), Built scheduler → Equipped scheduler.state →
      (∀ edge, (rings edge).buffer = []) →
      (flowMachine layout false).Run anyMove (.start scheduler 0 rings) trace flow → flow.network.Quiescent →
      ∀ nodeId passing, layout.passing nodeId = some passing → nodeId ∈ flow.network.system.scheduler.state.nodes →
        (flow.frames nodeId).pending ≠ [] ∨ ¬ flow.Empty nodeId → flow.Full nodeId := by
  intro claim
  have run := (flowMachine repeatAlone false).run_played
    (Machine.permits_any repeatStart (fillOut ++ [.deed (.drain (1 : Fin 2))])) (by decide +kernel)
  have full := claim repeatAlone oneForwarder (fun _ => .empty 1) _ _ oneForwarder_built Equipped.new.add (fun _ => rfl)
    run ⟨by decide +kernel, by decide +kernel, by decide +kernel, by decide +kernel⟩ "repeat" Repeat.passing rfl
    (by decide +kernel) (.inl (List.ne_nil_of_length_pos (by decide +kernel)))
  unfold Flow.Full at full
  exact absurd full (by decide +kernel)

end Flowd
