import Flowd.Network.Flow
import Flowd.Scheduler.Tracked

namespace Flowd

/-! What comes out of a chain of forwarders, however the nodes and the threads take turns. -/

open Transition

theorem Ring.pop_some {α : Type} {ring next : Ring α} {packet : α} (popped : ring.pop = some (packet, next)) :
    ring.buffer = packet :: next.buffer ∧ next.capacity = ring.capacity ∧
      next.producerAlive = ring.producerAlive ∧ next.consumerAlive = ring.consumerAlive := by
  rw [Ring.pop_eq] at popped
  cases found : ring.buffer with
  | nil => simp [found] at popped
  | cons first rest =>
      simp only [found, Option.some.injEq, Prod.mk.injEq] at popped
      obtain ⟨rfl, rfl⟩ := popped
      exact ⟨by simp [found], rfl, rfl, rfl⟩

section
variable {wiring : Wiring} {enforced : Bool} {network next : Network wiring} {deed : Deed wiring}
variable {events : List Event} {edge : wiring.Edge}

@[simp] theorem Wiring.dropEnds_buffer (events : List Event) (edge : wiring.Edge) (ring : Ring FbpMessage) :
    (wiring.dropEnds events edge ring).buffer = ring.buffer := by
  unfold Wiring.dropEnds
  dsimp only
  split <;> split <;> rfl

/-- What went into an edge after `initial` has come out of it in the same order, or is in it. -/
def Network.Fifo (initial : List FbpMessage) (edge : wiring.Edge) (network : Network wiring) : Prop :=
  initial ++ network.entered edge = network.taken edge ++ (network.rings edge).buffer

variable {initial : List FbpMessage}

theorem Network.Fifo.fed {other : wiring.Edge} {packet : FbpMessage} {ring : Ring FbpMessage}
    (fifo : network.Fifo initial edge) (pushed : (network.rings other).push packet = some ring) :
    (network.fed other packet ring).Fifo initial edge := by
  unfold Network.Fifo Network.fed
  by_cases same : edge = other
  · subst same
    obtain ⟨_, buffer, _⟩ := Ring.push_some pushed
    simp only [Function.update_self, buffer]
    rw [← List.append_assoc, fifo, List.append_assoc]
  · simp only [Function.update_of_ne same]
    exact fifo

theorem Network.Fifo.drained {other : wiring.Edge} {packet : FbpMessage} {ring : Ring FbpMessage}
    (fifo : network.Fifo initial edge) (popped : (network.rings other).pop = some (packet, ring)) :
    (network.drained other packet ring).Fifo initial edge := by
  unfold Network.Fifo Network.drained
  by_cases same : edge = other
  · subst same
    obtain ⟨buffer, _⟩ := Ring.pop_some popped
    simp only [Function.update_self]
    rw [fifo, buffer, List.append_assoc, List.singleton_append]
  · simp only [Function.update_of_ne same]
    exact fifo

theorem Network.Fifo.follow (fifo : network.Fifo initial edge) (system : System Unit) :
    (network.follow system events).Fifo initial edge := by
  unfold Network.Fifo Network.follow
  rw [Wiring.dropEnds_buffer]
  exact fifo

theorem Network.Fifo.done (fifo : network.Fifo initial edge) (done : network.Done enforced deed events next) :
    next.Fifo initial edge := by
  cases done with
  | moves _ => exact fifo.follow _
  | @signals other packet ring _ _ system _ _ _ _ pushed _ =>
      have loaded : (network.loaded other packet ring).Fifo initial edge := fifo.fed pushed
      exact loaded.follow system
  | pushes _ _ _ pushed => exact fifo.fed pushed
  | pops _ _ popped => exact fifo.drained popped
  | feeds _ pushed => exact fifo.fed pushed
  | @announces nodeId _ system _ _ =>
      have heard : { network with owed := network.owed.erase nodeId }.Fifo initial edge := fifo
      exact heard.follow system
  | drains _ popped => exact fifo.drained popped

end

variable {layout : Layout} {enforced : Bool} {flow next : Flow layout} {doing : Doing layout}
variable {events trace : List Event} {nodeId other : NodeId} {passing : Passing}

/-- The OUT edges of two forwarders are two edges. -/
theorem Layout.out_inj {left right : Passing} (first : layout.passing nodeId = some left)
    (second : layout.passing other = some right) (different : nodeId ≠ other) : layout.out nodeId ≠ layout.out other := by
  intro same
  have source := layout.source first
  rw [same, layout.source second, Option.some.injEq] at source
  exact different source.symm

theorem Layout.inn_inj {left right : Passing} (first : layout.passing nodeId = some left)
    (second : layout.passing other = some right) (different : nodeId ≠ other) : layout.inn nodeId ≠ layout.inn other := by
  intro same
  have target := layout.target first
  rw [same, layout.target second, Option.some.injEq] at target
  exact different target.symm

/-- What the others do leaves the records of a forwarder alone. -/
theorem Flow.Foreign.untouched {deed : Deed layout.wiring} {network : Network layout.wiring} (foreign : flow.Foreign deed)
    (done : flow.network.Done enforced deed events network) (known : layout.passing nodeId = some passing) :
    network.entered (layout.out nodeId) = flow.network.entered (layout.out nodeId) ∧
      network.taken (layout.inn nodeId) = flow.network.taken (layout.inn nodeId) := by
  have source := layout.source known
  have target := layout.target known
  have ours {away : NodeId} (executing : flow.network.system.pc.executing = some away) (called : deed.ofCall = true) :
      nodeId ≠ away := by
    rintro rfl
    have unknown := foreign called nodeId executing
    rw [known] at unknown
    cases unknown
  cases done with
  | moves _ => exact ⟨rfl, rfl⟩
  | @signals edge _ _ producer _ _ _ executing from_ _ _ _ =>
      have different : layout.out nodeId ≠ edge := by
        rintro rfl
        rw [source] at from_
        exact ours executing rfl (Option.some.inj from_)
      exact ⟨Function.update_of_ne different _ _, rfl⟩
  | @pushes edge _ _ producer executing from_ _ _ =>
      have different : layout.out nodeId ≠ edge := by
        rintro rfl
        rw [source] at from_
        exact ours executing rfl (Option.some.inj from_)
      exact ⟨Function.update_of_ne different _ _, rfl⟩
  | @pops edge _ _ consumer executing to_ _ =>
      have different : layout.inn nodeId ≠ edge := by
        rintro rfl
        rw [target] at to_
        exact ours executing rfl (Option.some.inj to_)
      exact ⟨rfl, Function.update_of_ne different _ _⟩
  | @feeds edge _ _ from_ _ =>
      have different : layout.out nodeId ≠ edge := by
        rintro rfl
        rw [source] at from_
        cases from_
      exact ⟨Function.update_of_ne different _ _, rfl⟩
  | announces _ _ => exact ⟨rfl, rfl⟩
  | @drains edge _ _ to_ _ =>
      have different : layout.inn nodeId ≠ edge := by
        rintro rfl
        rw [target] at to_
        cases to_
      exact ⟨rfl, Function.update_of_ne different _ _⟩

/-- Every packet that a forwarder took is in its OUT edge or waits in it. -/
def Flow.Passes (nodeId : NodeId) (passing : Passing) (flow : Flow layout) : Prop :=
  (flow.network.entered (layout.out nodeId) : Multiset FbpMessage) + (flow.frames nodeId).waiting =
    passing.items (flow.network.taken (layout.inn nodeId))

/-- A change that the records of the forwarder do not show. -/
theorem Flow.Passes.congr (passes : flow.Passes nodeId passing)
    (entered : next.network.entered (layout.out nodeId) = flow.network.entered (layout.out nodeId))
    (taken : next.network.taken (layout.inn nodeId) = flow.network.taken (layout.inn nodeId))
    (waiting : (next.frames nodeId).waiting = (flow.frames nodeId).waiting) : next.Passes nodeId passing := by
  unfold Flow.Passes
  rw [entered, taken, waiting]
  exact passes

theorem Flow.goOn_frames (flow : Flow layout) (nodeId : NodeId) (frame : Frame) :
    (flow.goOn nodeId frame).frames nodeId = frame :=
  Function.update_self _ _ _

theorem Flow.goOn_frames_of_ne (flow : Flow layout) (frame : Frame) (different : nodeId ≠ other) :
    (flow.goOn other frame).frames nodeId = flow.frames nodeId :=
  Function.update_of_ne different _ _

/-- A push shows in the record of its edge alone. -/
theorem Network.Done.pushed {network after : Network layout.wiring} {edge : layout.wiring.Edge} {packet : FbpMessage}
    (done : network.Done enforced (.push edge packet) events after) :
    after.entered = Function.update network.entered edge (network.entered edge ++ [packet]) ∧
      after.taken = network.taken := by
  cases done with
  | signals => exact ⟨rfl, rfl⟩
  | pushes => exact ⟨rfl, rfl⟩

theorem Network.drained_taken (network : Network layout.wiring) (edge : layout.wiring.Edge) (packet : FbpMessage)
    (ring : Ring FbpMessage) : (network.drained edge packet ring).taken edge = network.taken edge ++ [packet] :=
  Function.update_self _ _ _

/-- `next` has the records of the forwarder that `flow` has. -/
structure Flow.SameRecords (nodeId : NodeId) (flow next : Flow layout) : Prop where
  entered : next.network.entered (layout.out nodeId) = flow.network.entered (layout.out nodeId)
  taken : next.network.taken (layout.inn nodeId) = flow.network.taken (layout.inn nodeId)
  frame : next.frames nodeId = flow.frames nodeId

/-- The accesses of one forwarder leave the records of the others alone. -/
theorem Flow.Performed.beside {access : Access} {theirs : Passing}
    (performed : flow.Performed enforced other theirs access events next) (known : layout.passing nodeId = some passing)
    (otherKnown : layout.passing other = some theirs) (different : nodeId ≠ other) :
    Flow.SameRecords nodeId flow next := by
  cases performed with
  | pushes _ done =>
      obtain ⟨entered, taken⟩ := done.pushed
      refine ⟨?_, congrFun taken _, Flow.goOn_frames_of_ne _ _ different⟩
      exact (congrFun entered _).trans (Function.update_of_ne (layout.out_inj known otherKnown different) _ _)
  | pops _ =>
      refine ⟨rfl, ?_, Flow.goOn_frames_of_ne _ _ different⟩
      exact Function.update_of_ne (layout.inn_inj known otherKnown different) _ _
  | _ => exact ⟨rfl, rfl, Flow.goOn_frames_of_ne _ _ different⟩

/-- Its own accesses move packets from IN to the waiting ones and from there to OUT. -/
theorem Flow.Performed.passes {access : Access} (performed : flow.Performed enforced nodeId passing access events next)
    (keeps : access.Keeps passing (flow.frames nodeId)) (passes : flow.Passes nodeId passing) :
    next.Passes nodeId passing := by
  cases performed with
  | enters => exact passes.congr rfl rfl ((congrArg Frame.waiting (flow.goOn_frames _ _)).trans (keeps _))
  | @pushes packet onwards ring events network _ done =>
      obtain ⟨entered, taken⟩ := done.pushed
      obtain ⟨sent, _⟩ := keeps
      unfold Flow.Passes at passes ⊢
      rw [Flow.goOn_frames]
      change (network.entered (layout.out nodeId) : Multiset FbpMessage) + _ =
        (passing.items (network.taken (layout.inn nodeId)) : Multiset FbpMessage)
      rw [congrFun entered, congrFun taken, Function.update_self, ← passes, sent, ← Multiset.coe_add,
        Multiset.coe_singleton, add_assoc, Multiset.singleton_add]
  | refused _ => exact passes.congr rfl rfl ((congrArg Frame.waiting (flow.goOn_frames _ _)).trans keeps.2)
  | polls => exact passes.congr rfl rfl ((congrArg Frame.waiting (Flow.goOn_frames _ _ _)).trans (keeps _))
  | @pops packet onwards ring popped =>
      obtain ⟨_, became⟩ := keeps
      unfold Flow.Passes at passes ⊢
      rw [Flow.goOn_frames, became]
      change (flow.network.entered (layout.out nodeId) : Multiset FbpMessage) + _ =
        (passing.items ((flow.network.drained (layout.inn nodeId) packet ring).taken (layout.inn nodeId)) :
          Multiset FbpMessage)
      rw [Network.drained_taken, ← Multiset.coe_add, ← add_assoc, passes, Passing.items, Passing.items,
        Passing.items, List.filterMap_append, ← Multiset.coe_add]
  | empty _ => exact passes.congr rfl rfl ((congrArg Frame.waiting (flow.goOn_frames _ _)).trans keeps.1)
  | probes => exact passes.congr rfl rfl ((congrArg Frame.waiting (flow.goOn_frames _ _)).trans (keeps _))
  | turns => exact passes.congr rfl rfl ((congrArg Frame.waiting (flow.goOn_frames _ _)).trans keeps)
  | leaves _ _ => exact passes.congr rfl rfl ((congrArg Frame.waiting (Flow.goOn_frames _ _ _)).trans keeps.symm)

theorem Flow.Passes.done (passes : flow.Passes nodeId passing) (known : layout.passing nodeId = some passing)
    (done : flow.Done enforced doing events next) : next.Passes nodeId passing := by
  cases done with
  | deeds foreign done =>
      obtain ⟨entered, taken⟩ := foreign.untouched done known
      exact passes.congr entered taken rfl
  | tells _ _ => exact passes.congr rfl rfl rfl
  | @proceeds _ other theirs _ _ _ otherKnown performed =>
      by_cases same : nodeId = other
      · subst same
        rw [known, Option.some.injEq] at otherKnown
        subst otherKnown
        exact performed.passes (passing.keeps _) passes
      · have records := performed.beside known otherKnown same
        exact passes.congr records.entered records.taken (congrArg Frame.waiting records.frame)

/-- A forwarder that is not in the maps any more has seen its last packet. -/
theorem Flow.Done.sameRecords (done : flow.Done enforced doing events next) (known : layout.passing nodeId = some passing)
    (unknown : ¬ Known nodeId flow.network.system) : Flow.SameRecords nodeId flow next := by
  cases done with
  | deeds foreign done =>
      obtain ⟨entered, taken⟩ := foreign.untouched done known
      exact ⟨entered, taken, rfl⟩
  | tells _ _ => exact ⟨rfl, rfl, rfl⟩
  | @proceeds _ other theirs _ _ executing otherKnown performed =>
      refine performed.beside known otherKnown ?_
      rintro rfl
      exact unknown (.inr (Pc.inFlight_of_executing executing))

theorem sameRecords_run {first : Flow layout} (run : (flowMachine layout enforced).Run anyMove first trace flow)
    (known : layout.passing nodeId = some passing) (unknown : ¬ Known nodeId first.network.system) :
    Flow.SameRecords nodeId first flow := by
  have kept : ¬ Known nodeId flow.network.system ∧ Flow.SameRecords nodeId first flow := by
    refine Machine.Run.invariant (fun flow : Flow layout => ¬ Known nodeId flow.network.system ∧
      Flow.SameRecords nodeId first flow) run ⟨unknown, rfl, rfl, rfl⟩ ?_
    rintro before doing after events _ ⟨unknown, records⟩ step
    have done := Flow.done_of_step step
    obtain ⟨entered, taken, frame⟩ := done.sameRecords known unknown
    refine ⟨?_, entered.trans records.entered, taken.trans records.taken, frame.trans records.frame⟩
    rcases done.system with ⟨action, moved⟩ | ⟨same, _⟩
    · exact fun home => unknown (home.of_moved moved)
    · rw [same]
      exact unknown
  exact kept.2

/-- A node that has been retired is not in the maps any more. -/
theorem unknown_of_retired {scheduler : Scheduler Unit} {clock : Instant} {rings : layout.wiring.Edge → Ring FbpMessage}
    (run : (flowMachine layout enforced).Run anyMove (.start scheduler clock rings) trace flow)
    (retired : .retired nodeId ∈ trace) : ¬ Known nodeId flow.network.system := by
  have parted : AwayGone flow.network.system ∧ (.retired nodeId ∈ trace → ¬ Known nodeId flow.network.system) := by
    refine Machine.Run.history (fun trace flow => AwayGone flow.network.system ∧
      (.retired nodeId ∈ trace → ¬ Known nodeId flow.network.system)) run ⟨?_, by simp⟩ ?_
    · rintro nodeId ⟨⟩
    · rintro earlier before doing after events _ _ ⟨gone, unknown⟩ step
      rcases (Flow.done_of_step step).system with ⟨action, moved⟩ | ⟨same, rfl⟩
      · refine ⟨gone.moved moved, fun retired known => ?_⟩
        rcases List.mem_append.mp retired with past | now
        · exact unknown past (known.of_moved moved)
        · exact gone.retired moved now known
      · rw [same, List.append_nil]
        exact ⟨gone, unknown⟩
  exact parted.2 retired

theorem Flow.Performed.fifo {access : Access} {initial : List FbpMessage} {edge : layout.wiring.Edge}
    (performed : flow.Performed enforced nodeId passing access events next)
    (fifo : flow.network.Fifo initial edge) : next.network.Fifo initial edge := by
  cases performed with
  | pushes _ done => exact fifo.done done
  | pops popped => exact fifo.drained popped
  | leaves _ moved => exact fifo.follow _
  | _ => exact fifo

theorem Flow.Done.fifo {initial : List FbpMessage} {edge : layout.wiring.Edge}
    (done : flow.Done enforced doing events next) (fifo : flow.network.Fifo initial edge) :
    next.network.Fifo initial edge := by
  cases done with
  | deeds _ done => exact fifo.done done
  | tells _ _ => exact fifo
  | proceeds _ _ performed => exact performed.fifo fifo

/-- The forwarders of a chain follow each other from one edge to another. -/
inductive Layout.Chain (layout : Layout) : layout.wiring.Edge → List (NodeId × Passing) → layout.wiring.Edge → Prop where
  | nil (edge : layout.wiring.Edge) : layout.Chain edge [] edge
  | cons {nodeId : NodeId} {passing : Passing} {chain : List (NodeId × Passing)} {last : layout.wiring.Edge}
      (known : layout.passing nodeId = some passing) (rest : layout.Chain (layout.out nodeId) chain last) :
      layout.Chain (layout.inn nodeId) ((nodeId, passing) :: chain) last

/-- What a chain as a whole makes of packets. -/
def delivers : List (NodeId × Passing) → Multiset FbpMessage → Multiset FbpMessage
  | [], packets => packets
  | (_, passing) :: chain, packets => delivers chain (packets.filterMap passing.spec.transform)

/-- What the packets on their way through a chain are going to be at its end. -/
def Flow.underway (flow : Flow layout) : List (NodeId × Passing) → Multiset FbpMessage
  | [] => 0
  | (nodeId, passing) :: chain =>
      delivers ((nodeId, passing) :: chain) (flow.network.rings (layout.inn nodeId)).buffer +
        delivers chain (flow.frames nodeId).waiting + flow.underway chain

/-- What the forwarders that `counts` picks hold, and what lies in front of them, is going to be at
the end of the chain. -/
def Flow.heldBy (flow : Flow layout) (counts : NodeId → Bool) : List (NodeId × Passing) → Multiset FbpMessage
  | [] => 0
  | (nodeId, passing) :: chain =>
      (if counts nodeId then
        delivers ((nodeId, passing) :: chain) (flow.network.rings (layout.inn nodeId)).buffer +
          delivers chain (flow.frames nodeId).waiting
      else 0) + flow.heldBy counts chain

/-- What lies in front of the forwarders that have not been retired, and waits in them. -/
def Flow.waits (flow : Flow layout) (trace : List Event) : List (NodeId × Passing) → Multiset FbpMessage :=
  flow.heldBy fun nodeId => decide (.retired nodeId ∉ trace)

/-- What went down with a forwarder that was retired, or has no one any more to take it. -/
def Flow.lost (flow : Flow layout) (trace : List Event) : List (NodeId × Passing) → Multiset FbpMessage :=
  flow.heldBy fun nodeId => decide (.retired nodeId ∈ trace)

theorem Flow.underway_eq (flow : Flow layout) (trace : List Event) (chain : List (NodeId × Passing)) :
    flow.underway chain = flow.waits trace chain + flow.lost trace chain := by
  induction chain with
  | nil => rfl
  | cons member chain ih =>
      obtain ⟨nodeId, passing⟩ := member
      unfold Flow.waits Flow.lost at ih ⊢
      rw [Flow.underway, ih, Flow.heldBy, Flow.heldBy]
      by_cases retired : .retired nodeId ∈ trace
      · simp only [retired, not_true_eq_false, decide_false, decide_true, Bool.false_eq_true, ↓reduceIte]
        abel
      · simp only [retired, not_false_eq_true, decide_false, decide_true, Bool.false_eq_true, ↓reduceIte]
        abel

theorem delivers_add (chain : List (NodeId × Passing)) (left right : Multiset FbpMessage) :
    delivers chain (left + right) = delivers chain left + delivers chain right := by
  induction chain generalizing left right with
  | nil => rfl
  | cons member chain ih =>
      obtain ⟨nodeId, passing⟩ := member
      simp only [delivers]
      rw [Multiset.filterMap_add, ih]

/-- What has gone into an edge, the packets it was set up with included. -/
def Flow.supplied (rings : layout.wiring.Edge → Ring FbpMessage) (flow : Flow layout) (edge : layout.wiring.Edge) :
    Multiset FbpMessage :=
  ((rings edge).buffer ++ flow.network.entered edge : List FbpMessage)

theorem fifo_run {scheduler : Scheduler Unit} {clock : Instant} {rings : layout.wiring.Edge → Ring FbpMessage}
    (run : (flowMachine layout enforced).Run anyMove (.start scheduler clock rings) trace flow)
    (edge : layout.wiring.Edge) : flow.network.Fifo (rings edge).buffer edge := by
  refine Machine.Run.invariant (fun flow : Flow layout => flow.network.Fifo (rings edge).buffer edge) run ?_ ?_
  · exact List.append_nil _
  · exact fun _ fifo step => (Flow.done_of_step step).fifo fifo

theorem passes_run {scheduler : Scheduler Unit} {clock : Instant} {rings : layout.wiring.Edge → Ring FbpMessage}
    (run : (flowMachine layout enforced).Run anyMove (.start scheduler clock rings) trace flow)
    (known : layout.passing nodeId = some passing) : flow.Passes nodeId passing := by
  refine Machine.Run.invariant (fun flow : Flow layout => flow.Passes nodeId passing) run rfl ?_
  exact fun _ passes step => passes.done known (Flow.done_of_step step)

/-- What the edges and the forwarders of a chain keep adds up along the chain. -/
theorem Flow.delivers_chain {rings : layout.wiring.Edge → Ring FbpMessage}
    (fifo : ∀ edge, flow.network.Fifo (rings edge).buffer edge)
    (passes : ∀ nodeId passing, layout.passing nodeId = some passing → flow.Passes nodeId passing)
    (fresh : ∀ nodeId passing, layout.passing nodeId = some passing → (rings (layout.out nodeId)).buffer = [])
    {chain : List (NodeId × Passing)} {front last : layout.wiring.Edge} (joined : layout.Chain front chain last) :
    delivers chain (flow.supplied rings front) = flow.supplied rings last + flow.underway chain := by
  induction joined with
  | nil edge => simp [delivers, Flow.underway]
  | @cons nodeId passing chain last known rest ih =>
      have taken : flow.supplied rings (layout.inn nodeId) =
          (flow.network.taken (layout.inn nodeId) : Multiset FbpMessage) +
            (flow.network.rings (layout.inn nodeId)).buffer := by
        rw [Flow.supplied, fifo (layout.inn nodeId), Multiset.coe_add]
      have sent : flow.supplied rings (layout.out nodeId) = flow.network.entered (layout.out nodeId) := by
        rw [Flow.supplied, fresh nodeId passing known, List.nil_append]
      have passed : ((flow.network.taken (layout.inn nodeId) : Multiset FbpMessage)).filterMap passing.spec.transform =
          flow.supplied rings (layout.out nodeId) + (flow.frames nodeId).waiting := by
        rw [sent, passes nodeId passing known]
        rfl
      calc delivers ((nodeId, passing) :: chain) (flow.supplied rings (layout.inn nodeId))
          = delivers chain (flow.supplied rings (layout.out nodeId)) + delivers chain (flow.frames nodeId).waiting +
              delivers ((nodeId, passing) :: chain) (flow.network.rings (layout.inn nodeId)).buffer := by
            rw [taken, delivers_add]
            congr 1
            rw [delivers, passed, delivers_add]
        _ = flow.supplied rings last + flow.underway ((nodeId, passing) :: chain) := by
            rw [ih, Flow.underway]
            abel

/-- Along any chain of forwarders, in every run of the network, what has gone in at the front is what
has come out at the end, what waits in or in front of a forwarder that has not been retired, and what
was lost with one that has, each packet turned into what the chain makes of it; and a forwarder that has
been retired passes nothing on in any continuation of the run. -/
theorem chain_delivers (layout : Layout) (enforced : Bool) (scheduler : Scheduler Unit) (clock : Instant)
    (rings : layout.wiring.Edge → Ring FbpMessage) (trace : List Event) (flow : Flow layout)
    (fresh : ∀ nodeId passing, layout.passing nodeId = some passing → (rings (layout.out nodeId)).buffer = [])
    (run : (flowMachine layout enforced).Run anyMove (.start scheduler clock rings) trace flow)
    (chain : List (NodeId × Passing)) (front last : layout.wiring.Edge) (joined : layout.Chain front chain last) :
    delivers chain (flow.supplied rings front) =
        flow.supplied rings last + flow.waits trace chain + flow.lost trace chain ∧
      ∀ nodeId passing later next, layout.passing nodeId = some passing → .retired nodeId ∈ trace →
        (flowMachine layout enforced).Run anyMove flow later next → Flow.SameRecords nodeId flow next := by
  constructor
  · rw [add_assoc, ← Flow.underway_eq]
    exact Flow.delivers_chain (fifo_run run) (fun _ _ known => passes_run run known) fresh joined
  · intro nodeId passing later next known retired onwards
    exact sameRecords_run onwards known (unknown_of_retired run retired)

/-- Repeat in front of Output, with edges from and to the outside. -/
def repeatAndOut : Layout where
  wiring :=
    { Edge := Fin 3
      source := fun edge => if edge = 1 then some "repeat" else if edge = 2 then some "out" else none
      target := fun edge => if edge = 0 then some "repeat" else if edge = 1 then some "out" else none }
  passing nodeId :=
    if nodeId = "repeat" then some Repeat.passing else if nodeId = "out" then some Output.passing else none
  inn nodeId := if nodeId = "repeat" then (0 : Fin 3) else (1 : Fin 3)
  out nodeId := if nodeId = "repeat" then (1 : Fin 3) else (2 : Fin 3)
  target := by
    intro nodeId passing known
    by_cases first : nodeId = "repeat"
    · simp [first]
    · by_cases second : nodeId = "out"
      · simp [second]
      · simp [first, second] at known
  source := by
    intro nodeId passing known
    by_cases first : nodeId = "repeat"
    · simp [first]
    · by_cases second : nodeId = "out"
      · simp [second]
      · simp [first, second] at known

theorem repeatAndOut_chain :
    repeatAndOut.Chain (0 : Fin 3) [("repeat", Repeat.passing), ("out", Output.passing)] (2 : Fin 3) :=
  @Layout.Chain.cons repeatAndOut "repeat" Repeat.passing [("out", Output.passing)] (2 : Fin 3) rfl
    (@Layout.Chain.cons repeatAndOut "out" Output.passing [] (2 : Fin 3) rfl (.nil _))

def twoForwarders : Scheduler Unit :=
  (((Scheduler.new.addNode "repeat" .normal 0).addComponent () "repeat").addNode "out" .normal 0).addComponent () "out"

def emptyEdges : repeatAndOut.wiring.Edge → Ring FbpMessage := fun _ => .empty 1

def fedOnce : List (Doing repeatAndOut) := [.deed (.feed (0 : Fin 3) (.text "a"))]

/-- Two packets are fed to Repeat, which has passed the first one on when the second one comes. -/
def feedTwice : List (Doing repeatAndOut) :=
  [.deed (.feed (0 : Fin 3) (.text "a")), .deed (.announce "repeat")] ++
    List.replicate 6 (.deed (.schedule .run)) ++ List.replicate 6 (.proceed 0) ++
    [.deed (.feed (0 : Fin 3) (.text "b"))]

/-- Repeat takes the second packet, finds OUT full, and is stopped when a third one has come. -/
def stopRepeat : List (Doing repeatAndOut) :=
  feedTwice ++ List.replicate 5 (.proceed 0) ++
    [.deed (.feed (0 : Fin 3) (.text "c")), .tell "repeat" (.text "stop")] ++
    List.replicate 4 (.proceed 0) ++ [.deed (.schedule .run)]

def stopRepeatTrace : List Event := (flowMachine repeatAndOut false).reported (.start twoForwarders 0 emptyEdges) stopRepeat

def stopRepeatEnd : Flow repeatAndOut :=
  (flowMachine repeatAndOut false).played (.start twoForwarders 0 emptyEdges) stopRepeat

theorem chain_delivers_repeatAndOut :
    let chain := [("repeat", Repeat.passing), ("out", Output.passing)]
    delivers chain (stopRepeatEnd.supplied emptyEdges (0 : Fin 3)) =
        stopRepeatEnd.supplied emptyEdges (2 : Fin 3) + stopRepeatEnd.waits stopRepeatTrace chain +
          stopRepeatEnd.lost stopRepeatTrace chain ∧
      Multiset.card (stopRepeatEnd.waits stopRepeatTrace chain) = 1 ∧
      Multiset.card (stopRepeatEnd.lost stopRepeatTrace chain) = 2 := by
  have run := (flowMachine repeatAndOut false).run_played
    (Machine.permits_any (.start twoForwarders 0 emptyEdges) stopRepeat) (by decide +kernel)
  have accounted := chain_delivers repeatAndOut false twoForwarders 0 emptyEdges stopRepeatTrace stopRepeatEnd
    (fun _ _ _ => rfl) run _ _ _ repeatAndOut_chain
  exact ⟨accounted.1, by decide +kernel, by decide +kernel⟩

end Flowd
