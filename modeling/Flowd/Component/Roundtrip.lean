import Flowd.Component.Delivery

namespace Flowd

/-! A compressor, an edge and a decompressor: XzCompress with XzDecompress, BrotliCompress
with BrotliDecompress. -/

open Transition

/-- An encoder and a decoder behind `std::io::Write`: how many bytes of a buffer one
`write` accepts, and what `finish` makes of the accepted bytes. -/
structure Codec where
  encode : List UInt8 → List UInt8
  decode : List UInt8 → Option (List UInt8)
  encoderAccepts : List UInt8 → Nat
  decoderAccepts : List UInt8 → Nat
  encoder_le : ∀ buffer, encoderAccepts buffer ≤ buffer.length
  decoder_le : ∀ buffer, decoderAccepts buffer ≤ buffer.length
  encoder_pos : ∀ buffer, buffer ≠ [] → 0 < encoderAccepts buffer
  decoder_pos : ∀ buffer, buffer ≠ [] → 0 < decoderAccepts buffer
  reproduces : ∀ bytes, decode (encode bytes) = some bytes

namespace Codec

variable (codec : Codec)

/-- One `write` and `finish`. -/
def compress (buffer : List UInt8) : Option (List UInt8) :=
  some (codec.encode (buffer.take (codec.encoderAccepts buffer)))

def decompress (buffer : List UInt8) : Option (List UInt8) :=
  codec.decode (buffer.take (codec.decoderAccepts buffer))

/-- One `write` accepts the payload, and one `write` accepts what it becomes. -/
def TakesWhole (payload : List UInt8) : Prop :=
  codec.encoderAccepts payload = payload.length ∧
    codec.decoderAccepts (codec.encode payload) = (codec.encode payload).length

instance (payload : List UInt8) : Decidable (codec.TakesWhole payload) :=
  inferInstanceAs (Decidable (_ ∧ _))

end Codec

namespace XzCompress

/-- `compress` is what `write` and `finish` of an `XzEncoder` leave in the buffer, none if
one of the `expect`s fails. -/
def spec (compress : List UInt8 → Option (List UInt8)) : Forwarder where
  inn := .inn
  reads := FbpMessage.textOrUtf8
  transform ip := (compress (ip.asBytes.getD [])).map .bytes
  route packet := (.out, packet)
  leavesWhenFull := false

/-- `if inn.is_abandoned() && pending_packets.is_empty()` -/
def finish (received : Received InPort OutPort FbpMessage) : Returned :=
  if received.call.isAbandoned .inn && received.pending.isEmpty then .result .finished
  else received.call.didWork

def process (compress : List UInt8 → Option (List UInt8)) (pendingPackets : List FbpMessage)
    (call : Call InPort OutPort) (remainingBudget : Nat) : Outcome (List FbpMessage) InPort OutPort :=
  ((spec compress).pollFirst remainingBudget pendingPackets call.begin).conclude finish

end XzCompress

namespace XzDecompress

/-- `decompress` is the same for an `XzDecoder`. -/
def spec (decompress : List UInt8 → Option (List UInt8)) : Forwarder where
  inn := .inn
  reads := FbpMessage.textOrUtf8
  transform ip := (decompress (ip.asBytes.getD [])).map .bytes
  route packet := (.out, packet)
  leavesWhenFull := false

/-- `if inn.is_abandoned() && pending_packets.is_empty()` -/
def finish (received : Received InPort OutPort FbpMessage) : Returned :=
  if received.call.isAbandoned .inn && received.pending.isEmpty then .result .finished
  else received.call.didWork

def process (decompress : List UInt8 → Option (List UInt8)) (pendingPackets : List FbpMessage)
    (call : Call InPort OutPort) (remainingBudget : Nat) : Outcome (List FbpMessage) InPort OutPort :=
  ((spec decompress).pollFirst remainingBudget pendingPackets call.begin).conclude finish

end XzDecompress

/-! Components that keep what is refused and go on. -/

namespace Buffering

variable {ι ο π : Type} [DecidableEq ι] [DecidableEq ο] (spec : Buffering ι ο π)

omit [DecidableEq ι] in
/-- What has been sent stays sent. -/
theorem flush_sent (budget : Nat) (pending : List π) (call : Call ι ο) (port : ο) :
    (call.outs port).sent <+: ((spec.flush budget pending call).call.outs port).sent := by
  induction budget generalizing pending call with
  | zero => exact List.prefix_rfl
  | succ budget ih =>
      cases pending with
      | nil => exact List.prefix_rfl
      | cons first rest =>
          unfold flush
          rcases call.push_cases (spec.route first) with ⟨outs, pushed, sent, _⟩ | ⟨outs, refused, sent, _⟩
          · rw [pushed]
            have grown : (call.outs port).sent <+: (outs port).sent := ⟨_, (sent port).symm⟩
            exact grown.trans (ih rest ({ call with outs } : Call ι ο).worked)
          · rw [refused, ← sent port]

theorem receive_sent (budget : Nat) (pending : List π) (call : Call ι ο) (port : ο) :
    (call.outs port).sent <+: ((spec.receive budget pending call).call.outs port).sent := by
  induction budget generalizing pending call with
  | zero => exact List.prefix_rfl
  | succ budget ih =>
      obtain ⟨signalsIn, signalsOut, heard, polled, _⟩ := call.poll_cases spec.reads
      unfold receive
      generalize call.poll spec.reads = result at polled ⊢
      obtain ⟨listened, stop⟩ := result
      have same : listened = { call with signalsIn, signalsOut, heard := call.heard ++ heard } := polled
      have outs : listened.outs = call.outs := by rw [same]
      rw [← outs]
      cases stop with
      | true => exact List.prefix_rfl
      | false =>
          dsimp only
          rcases listened.pop_cases spec.inn with ⟨_, popped⟩ | ⟨ip, _, next, _, popped, _, _, kept, _, _⟩
          · rw [popped]
          · rw [popped, ← kept]
            dsimp only
            cases spec.transform ip with
            | none => exact List.prefix_rfl
            | some packet =>
                dsimp only
                rcases next.push_cases (spec.route packet) with ⟨outs, pushed, sent, _⟩ | ⟨outs, refused, sent, _⟩
                · rw [pushed]
                  have grown : (next.outs port).sent <+: (outs port).sent := ⟨_, (sent port).symm⟩
                  exact grown.trans (ih pending ({ next with outs } : Call ι ο).worked)
                · rw [refused, ← sent port]
                  dsimp only
                  split
                  · exact List.prefix_rfl
                  · exact ih (pending ++ [packet]) ({ next with outs } : Call ι ο).worked

theorem pollFirst_sent (budget : Nat) (pending : List π) (call : Call ι ο) (port : ο) :
    (call.outs port).sent <+: ((spec.pollFirst budget pending call).call.outs port).sent := by
  obtain ⟨signalsIn, signalsOut, heard, polled, _⟩ := call.poll_cases spec.reads
  unfold pollFirst
  generalize call.poll spec.reads = result at polled ⊢
  obtain ⟨listened, stop⟩ := result
  have same : listened = { call with signalsIn, signalsOut, heard := call.heard ++ heard } := polled
  have outs : listened.outs = call.outs := by rw [same]
  rw [← outs]
  cases stop with
  | true => exact List.prefix_rfl
  | false => exact (spec.flush_sent budget pending listened port).trans (spec.receive_sent _ _ _ port)

end Buffering

theorem Stream.close_fed {component : Component} {stream : Stream component} (port other : component.In) :
    (Function.update stream.ports.ins port { stream.ports.ins port with
      ring := (stream.ports.ins port).ring.dropProducer } other).fed = (stream.ports.ins other).fed := by
  by_cases here : other = port
  · subst here
    simp [Inlet.fed]
  · rw [Function.update_of_ne here]

theorem Stream.feed_fed {component : Component} {stream next : Stream component} {port : component.In}
    {packet : FbpMessage} {events : List Returned} (step : stream.step (.feed port packet) = some (next, events)) :
    (next.ports.ins port).fed = (stream.ports.ins port).fed ++ [packet] := by
  simp only [Stream.step] at step
  split at step
  · obtain ⟨ring, pushed, same⟩ := Option.map_eq_some_iff.mp step
    have buffer := (Ring.push_some pushed).2.1
    cases same
    simp [Inlet.fed, buffer]
  · cases step

/-- A forwarder that polls first and goes on after a refusal. -/
structure Retains (spec : Forwarder)
    (process : List FbpMessage → Call InPort OutPort → Nat → Outcome (List FbpMessage) InPort OutPort) : Prop where
  inn : spec.inn = .inn
  routes : ∀ packet, spec.route packet = (.out, packet)
  retains : spec.leavesWhenFull = false
  outcome : ∀ pending call budget, ∃ verdict,
    process pending call budget = (spec.pollFirst budget pending call.begin).conclude verdict

abbrev Forwarder.component (spec : Forwarder)
    (process : List FbpMessage → Call InPort OutPort → Nat → Outcome (List FbpMessage) InPort OutPort) : Component :=
  (spec.overflow.component [] process).toComponent

namespace Retains

variable {spec : Forwarder}
variable {process : List FbpMessage → Call InPort OutPort → Nat → Outcome (List FbpMessage) InPort OutPort}

theorem took (retains : Retains spec process) (pending : List FbpMessage) (call : Call InPort OutPort) (budget : Nat) :
    ∃ new, Call.Took .inn call (process pending call budget).call new := by
  obtain ⟨verdict, same⟩ := retains.outcome pending call budget
  obtain ⟨new, took, _⟩ := (spec.pollFirst_exchanged budget pending call.begin).took
  rw [retains.inn] at took
  rw [same]
  exact ⟨new, took.taken, took.inbox, took.others, took.abandoned, took.capacity⟩

theorem owes (retains : Retains spec process) (invocation : Invocation (spec.component process)) :
    OwesTaken spec.inn spec.items invocation := by
  obtain ⟨(pending : List FbpMessage), (call : Call InPort OutPort), budget⟩ := invocation
  obtain ⟨new, took⟩ := retains.took pending call budget
  rw [← retains.inn] at took
  refine ⟨new, took.taken, ?_⟩
  exact congrArg spec.items took.fresh

theorem keepsOrder (retains : Retains spec process) :
    KeepsOrder (spec.component process)
      fun invocation => spec.Patient invocation.remainingBudget invocation.state invocation.call := by
  rintro ⟨(pending : List FbpMessage), (call : Call InPort OutPort), budget⟩ patient
  obtain ⟨verdict, same⟩ := retains.outcome pending call budget
  have begun : spec.Patient budget pending call.begin := patient
  obtain ⟨new, took, order⟩ := spec.pollFirst_inTurn retains.retains begun
  change InOrder call.outs (spec.held pending) (spec.items (call.fresh (process pending call budget).call spec.inn))
    (process pending call budget).call.outs (spec.held (process pending call budget).component)
  have fresh : call.fresh (process pending call budget).call spec.inn = new := by
    rw [same]
    exact took.fresh
  rw [fresh, same]
  exact order

variable {permitted : Stream (spec.component process) → Traffic (spec.component process) → Prop}
variable {inCapacity : InPort → Nat} {outCapacity : OutPort → Nat}
variable {stream next : Stream (spec.component process)} {trace events : List Returned}

/-- What has been sent and what is queued are what the packets taken have become. -/
theorem sends (retains : Retains spec process)
    (run : (streamMachine (spec.component process)).Run permitted (.start inCapacity outCapacity) trace stream)
    (patient : ∀ invocation ∈ stream.history,
      spec.Patient invocation.remainingBudget invocation.state invocation.call) :
    ∃ pending, (stream.ports.outs OutPort.out).sent ++ pending =
      (stream.ports.taken InPort.inn).filterMap spec.transform := by
  let ports : Call InPort OutPort := stream.ports
  let pending : List FbpMessage := stream.state
  have owed := owed_taken rfl spec.items_append run fun invocation _ => retains.owes invocation
  have order : (ports.outs .out).sent ++ addressed .out (spec.held pending) =
      addressed .out (spec.items (ports.taken spec.inn)) := by
    have sequenced := Sequenced.run rfl retains.keepsOrder run patient OutPort.out
    rw [owed] at sequenced
    exact sequenced
  have items : addressed .out (spec.items (ports.taken .inn)) = (ports.taken .inn).filterMap spec.transform :=
    Buffering.addressed_held retains.routes _
  rw [Buffering.addressed_held retains.routes, retains.inn, items] at order
  exact ⟨pending, order⟩

/-- What has been sent stays sent. -/
theorem step_sent (retains : Retains spec process) {traffic : Traffic (spec.component process)}
    (step : stream.step traffic = some (next, events)) :
    (stream.ports.outs OutPort.out).sent <+: (next.ports.outs OutPort.out).sent := by
  rcases Stream.step_cases step with between | ⟨remainingBudget, schedule, _, rfl⟩
  · exact (between.sent OutPort.out) ▸ List.prefix_rfl
  · let invocation := stream.invocation remainingBudget schedule
    let call : Call InPort OutPort := invocation.call
    obtain ⟨verdict, same⟩ := retains.outcome invocation.state call remainingBudget
    have grown := spec.pollFirst_sent remainingBudget invocation.state call.begin .out
    have after : invocation.outcome.call = (spec.pollFirst remainingBudget invocation.state call.begin).call :=
      congrArg Outcome.call same
    change _ <+: ((invocation.outcome.call : Call InPort OutPort).outs .out).sent
    rw [after]
    exact grown

/-- Only feeding changes what has been fed. -/
theorem step_fed (retains : Retains spec process) {traffic : Traffic (spec.component process)}
    (step : stream.step traffic = some (next, events)) :
    (next.ports.ins InPort.inn).fed = (stream.ports.ins InPort.inn).fed ∨
      ∃ packet, traffic = .feed InPort.inn packet := by
  cases traffic with
  | feed port packet =>
      cases (port : InPort)
      exact .inr ⟨packet, rfl⟩
  | close port =>
      cases step
      exact .inl (Stream.close_fed port InPort.inn)
  | signal message =>
      cases step
      exact .inl rfl
  | drain port count =>
      cases step
      exact .inl rfl
  | invoke remainingBudget schedule =>
      simp only [Stream.step] at step
      split at step
      · cases step
      · cases step
        let invocation := stream.invocation remainingBudget schedule
        let call : Call InPort OutPort := invocation.call
        obtain ⟨new, took⟩ := retains.took invocation.state call remainingBudget
        have taken := took.taken
        have inbox := took.inbox
        refine .inl ?_
        change (process invocation.state call remainingBudget).call.taken .inn ++
          (process invocation.state call remainingBudget).call.inbox .inn = call.taken .inn ++ call.inbox .inn
        rw [taken, inbox, List.append_assoc]

end Retains

/-! Two forwarders in a row. -/

/-- Each end of the edge between the two has a ring, and packets cross over one at a time:
handed over just before they are popped, they are in a single ring. -/
structure Pipeline (upper lower : Component) where
  upper : Stream upper
  lower : Stream lower

inductive Crossing (upper lower : Component) where
  | above (traffic : Traffic upper)
  | below (traffic : Traffic lower)
  | hand

namespace Pipeline

variable {upperSpec lowerSpec : Forwarder}
variable {upperProcess lowerProcess : List FbpMessage → Call InPort OutPort → Nat → Outcome (List FbpMessage) InPort OutPort}

/-- The lower component is fed only what the edge hands over. -/
def step (pipeline : Pipeline (upperSpec.component upperProcess) (lowerSpec.component lowerProcess)) :
    Crossing (upperSpec.component upperProcess) (lowerSpec.component lowerProcess) →
      Option (Pipeline (upperSpec.component upperProcess) (lowerSpec.component lowerProcess) × List Returned)
  | .above traffic => (pipeline.upper.step traffic).map fun next => (⟨next.1, pipeline.lower⟩, next.2)
  | .below (.feed _ _) => none
  | .below traffic => (pipeline.lower.step traffic).map fun next => (⟨pipeline.upper, next.1⟩, next.2)
  | .hand =>
      match (pipeline.upper.ports.outs OutPort.out).taken[(pipeline.lower.ports.ins InPort.inn).fed.length]? with
      | none => none
      | some packet =>
          (pipeline.lower.step (.feed InPort.inn packet)).map fun next => (⟨pipeline.upper, next.1⟩, next.2)

end Pipeline

def pipelineMachine (upperSpec lowerSpec : Forwarder)
    (upperProcess lowerProcess : List FbpMessage → Call InPort OutPort → Nat → Outcome (List FbpMessage) InPort OutPort) :
    Machine (Pipeline (upperSpec.component upperProcess) (lowerSpec.component lowerProcess))
      (Crossing (upperSpec.component upperProcess) (lowerSpec.component lowerProcess)) Returned :=
  ⟨Pipeline.step⟩

namespace Pipeline

variable {upperSpec lowerSpec : Forwarder}
variable {upperProcess lowerProcess : List FbpMessage → Call InPort OutPort → Nat → Outcome (List FbpMessage) InPort OutPort}

abbrev start (upperIn lowerIn : InPort → Nat) (upperOut lowerOut : OutPort → Nat) :
    Pipeline (upperSpec.component upperProcess) (lowerSpec.component lowerProcess) :=
  ⟨.start upperIn upperOut, .start lowerIn lowerOut⟩

/-- Both components run on their own, and the lower one has been fed what the upper one
has sent first. -/
structure Joined (upperIn lowerIn : InPort → Nat) (upperOut lowerOut : OutPort → Nat)
    (pipeline : Pipeline (upperSpec.component upperProcess) (lowerSpec.component lowerProcess)) : Prop where
  above : ∃ trace, (streamMachine (upperSpec.component upperProcess)).Run anyMove (.start upperIn upperOut) trace
    pipeline.upper
  below : ∃ trace, (streamMachine (lowerSpec.component lowerProcess)).Run anyMove (.start lowerIn lowerOut) trace
    pipeline.lower
  handed : (pipeline.lower.ports.ins InPort.inn).fed <+: (pipeline.upper.ports.outs OutPort.out).sent

variable {upperIn lowerIn : InPort → Nat} {upperOut lowerOut : OutPort → Nat}
variable {pipeline next : Pipeline (upperSpec.component upperProcess) (lowerSpec.component lowerProcess)}
variable {events trace : List Returned}

theorem Joined.below_step (joined : Joined upperIn lowerIn upperOut lowerOut pipeline)
    {traffic : Traffic (lowerSpec.component lowerProcess)} {lower : Stream (lowerSpec.component lowerProcess)}
    (step : pipeline.lower.step traffic = some (lower, events))
    (handed : (lower.ports.ins InPort.inn).fed <+: (pipeline.upper.ports.outs OutPort.out).sent) :
    Joined upperIn lowerIn upperOut lowerOut ⟨pipeline.upper, lower⟩ := by
  obtain ⟨earlier, run⟩ := joined.below
  exact ⟨joined.above, ⟨_, run.snoc trivial step⟩, handed⟩

theorem Joined.step (upperRetains : Retains upperSpec upperProcess) (lowerRetains : Retains lowerSpec lowerProcess)
    (joined : Joined upperIn lowerIn upperOut lowerOut pipeline)
    {crossing : Crossing (upperSpec.component upperProcess) (lowerSpec.component lowerProcess)}
    (step : pipeline.step crossing = some (next, events)) : Joined upperIn lowerIn upperOut lowerOut next := by
  cases crossing with
  | above traffic =>
      obtain ⟨⟨upper, events⟩, stepped, same⟩ := Option.map_eq_some_iff.mp step
      cases same
      obtain ⟨earlier, run⟩ := joined.above
      exact ⟨⟨_, run.snoc trivial stepped⟩, joined.below, joined.handed.trans (upperRetains.step_sent stepped)⟩
  | below traffic =>
      have unfed : ∀ packet, traffic ≠ .feed InPort.inn packet := by
        intro packet fed
        rw [fed] at step
        cases step
      have same : pipeline.step (.below traffic) =
          (pipeline.lower.step traffic).map fun next => (⟨pipeline.upper, next.1⟩, next.2) := by
        cases traffic with
        | feed port packet =>
            cases (port : InPort)
            exact absurd rfl (unfed packet)
        | close port => rfl
        | signal message => rfl
        | drain port count => rfl
        | invoke remainingBudget schedule => rfl
      rw [same] at step
      obtain ⟨⟨lower, events⟩, stepped, same⟩ := Option.map_eq_some_iff.mp step
      cases same
      rcases lowerRetains.step_fed stepped with fed | ⟨packet, feeds⟩
      · exact joined.below_step stepped (fed ▸ joined.handed)
      · exact absurd feeds (unfed packet)
  | hand =>
      simp only [Pipeline.step] at step
      split at step
      · cases step
      · next packet found =>
          obtain ⟨⟨lower, events⟩, stepped, same⟩ := Option.map_eq_some_iff.mp step
          cases same
          have fed := Stream.feed_fed stepped
          apply joined.below_step stepped
          obtain ⟨rest, whole⟩ := joined.handed
          have inside : (pipeline.upper.ports.outs OutPort.out).sent[(pipeline.lower.ports.ins InPort.inn).fed.length]? =
              some packet := by
            have short := (List.getElem?_eq_some_iff.mp found).1
            rw [Outlet.sent, List.getElem?_append_left short]
            exact found
          rw [← whole, List.getElem?_append_right (Nat.le_refl _), Nat.sub_self] at inside
          rw [fed, ← whole]
          cases rest with
          | nil => cases inside
          | cons first rest =>
              cases inside
              exact ⟨rest, by simp⟩

theorem Joined.run (upperRetains : Retains upperSpec upperProcess) (lowerRetains : Retains lowerSpec lowerProcess)
    (run : (pipelineMachine upperSpec lowerSpec upperProcess lowerProcess).Run anyMove
      (start upperIn lowerIn upperOut lowerOut) trace pipeline) : Joined upperIn lowerIn upperOut lowerOut pipeline :=
  Machine.Run.invariant (Joined upperIn lowerIn upperOut lowerOut) run
    ⟨⟨[], .nil⟩, ⟨[], .nil⟩, List.nil_prefix⟩ fun _ joined step => joined.step upperRetains lowerRetains step

variable (pipeline) in
/-- Only packets of bytes are fed. -/
def FedBytes : Prop := ∀ packet ∈ (pipeline.upper.ports.ins InPort.inn).fed, ∃ payload, packet = .bytes payload

variable (pipeline) in
/-- What the decompressor delivers is, byte for byte, what the compressor was fed first. -/
def Roundtrips : Prop :=
  (pipeline.lower.ports.outs OutPort.out).sent <+: (pipeline.upper.ports.ins InPort.inn).fed

variable (pipeline) in
/-- Every payload gets through in one `write` each way, and no call lets a packet past one
that was refused before it. -/
structure Careful (codec : Codec) : Prop where
  whole : ∀ packet ∈ (pipeline.upper.ports.ins InPort.inn).fed, codec.TakesWhole (packet.asBytes.getD [])
  above : ∀ invocation ∈ pipeline.upper.history,
    upperSpec.Patient invocation.remainingBudget invocation.state invocation.call
  below : ∀ invocation ∈ pipeline.lower.history,
    lowerSpec.Patient invocation.remainingBudget invocation.state invocation.call

theorem Joined.roundtrips {codec : Codec} (upperRetains : Retains upperSpec upperProcess)
    (lowerRetains : Retains lowerSpec lowerProcess)
    (compresses : ∀ ip, upperSpec.transform ip = (codec.compress (ip.asBytes.getD [])).map .bytes)
    (decompresses : ∀ ip, lowerSpec.transform ip = (codec.decompress (ip.asBytes.getD [])).map .bytes)
    (joined : Joined upperIn lowerIn upperOut lowerOut pipeline) (bytes : pipeline.FedBytes)
    (careful : pipeline.Careful codec) : pipeline.Roundtrips := by
  obtain ⟨_, upperRun⟩ := joined.above
  obtain ⟨_, lowerRun⟩ := joined.below
  obtain ⟨upperPending, compressed⟩ := upperRetains.sends upperRun careful.above
  obtain ⟨lowerPending, decompressed⟩ := lowerRetains.sends lowerRun careful.below
  let fed := (pipeline.upper.ports.ins InPort.inn).fed
  have sent : (pipeline.upper.ports.outs OutPort.out).sent <+: fed.filterMap upperSpec.transform := by
    have taken : (pipeline.upper.ports.taken InPort.inn) <+: fed := List.prefix_append _ _
    exact (List.IsPrefix.trans ⟨_, compressed⟩ (taken.filterMap upperSpec.transform))
  have delivered : (pipeline.lower.ports.outs OutPort.out).sent <+:
      (fed.filterMap upperSpec.transform).filterMap lowerSpec.transform := by
    have taken : (pipeline.lower.ports.taken InPort.inn) <+: (pipeline.lower.ports.ins InPort.inn).fed :=
      List.prefix_append _ _
    exact List.IsPrefix.trans ⟨_, decompressed⟩
      (((taken.trans joined.handed).trans sent).filterMap lowerSpec.transform)
  have again : ∀ packet ∈ fed, (upperSpec.transform packet).bind lowerSpec.transform = some packet := by
    intro packet member
    obtain ⟨payload, same⟩ := bytes packet member
    obtain ⟨accepted, encoded⟩ := careful.whole packet member
    rw [same] at accepted encoded ⊢
    have read : (FbpMessage.bytes payload).asBytes.getD [] = payload := rfl
    rw [read] at accepted encoded
    have written : upperSpec.transform (.bytes payload) = some (.bytes (codec.encode payload)) := by
      rw [compresses, read, Codec.compress, accepted, List.take_length]
      rfl
    have back : lowerSpec.transform (.bytes (codec.encode payload)) = some (.bytes payload) := by
      have readBack : (FbpMessage.bytes (codec.encode payload)).asBytes.getD [] = codec.encode payload := rfl
      rw [decompresses, readBack, Codec.decompress, encoded, List.take_length, codec.reproduces]
      rfl
    rw [written, Option.bind_some, back]
  rw [List.filterMap_filterMap, List.filterMap_congr again, List.filterMap_some] at delivered
  exact delivered

end Pipeline

theorem XzCompress.retains (compress : List UInt8 → Option (List UInt8)) :
    Retains (XzCompress.spec compress) (XzCompress.process compress) := ⟨rfl, fun _ => rfl, rfl, fun _ _ _ => ⟨_, rfl⟩⟩

theorem XzDecompress.retains (decompress : List UInt8 → Option (List UInt8)) :
    Retains (XzDecompress.spec decompress) (XzDecompress.process decompress) :=
  ⟨rfl, fun _ => rfl, rfl, fun _ _ _ => ⟨_, rfl⟩⟩

theorem BrotliCompress.retains (compress : List UInt8 → Option (List UInt8)) :
    Retains (BrotliCompress.spec compress) (BrotliCompress.process compress) :=
  ⟨rfl, fun _ => rfl, rfl, fun _ _ _ => ⟨_, rfl⟩⟩

theorem BrotliDecompress.retains (decompress : List UInt8 → Option (List UInt8)) :
    Retains (BrotliDecompress.spec decompress) (BrotliDecompress.process decompress) :=
  ⟨rfl, fun _ => rfl, rfl, fun _ _ _ => ⟨_, rfl⟩⟩

def xzMachine (codec : Codec) :=
  pipelineMachine (XzCompress.spec codec.compress) (XzDecompress.spec codec.decompress)
    (XzCompress.process codec.compress) (XzDecompress.process codec.decompress)

def brotliMachine (codec : Codec) :=
  pipelineMachine (BrotliCompress.spec codec.compress) (BrotliDecompress.spec codec.decompress)
    (BrotliCompress.process codec.compress) (BrotliDecompress.process codec.decompress)

/-- Both pairs round-trip while every payload is written whole and nothing gets past the
queues. -/
theorem compression_roundtrips (codec : Codec) (upperIn lowerIn : InPort → Nat) (upperOut lowerOut : OutPort → Nat) :
    (∀ pipeline trace, (xzMachine codec).Run anyMove (Pipeline.start upperIn lowerIn upperOut lowerOut) trace pipeline →
      pipeline.FedBytes → pipeline.Careful codec → pipeline.Roundtrips) ∧
    ∀ pipeline trace,
      (brotliMachine codec).Run anyMove (Pipeline.start upperIn lowerIn upperOut lowerOut) trace pipeline →
      pipeline.FedBytes → pipeline.Careful codec → pipeline.Roundtrips := by
  constructor
  · intro pipeline trace run bytes careful
    have retains := XzCompress.retains codec.compress
    have lowerRetains := XzDecompress.retains codec.decompress
    exact (Pipeline.Joined.run retains lowerRetains run).roundtrips retains lowerRetains
      (fun _ => rfl) (fun _ => rfl) bytes careful
  · intro pipeline trace run bytes careful
    have retains := BrotliCompress.retains codec.compress
    have lowerRetains := BrotliDecompress.retains codec.decompress
    exact (Pipeline.Joined.run retains lowerRetains run).roundtrips retains lowerRetains
      (fun _ => rfl) (fun _ => rfl) bytes careful

/-- A codec that stores; one `write` takes `limit` bytes at most. -/
def storing (limit : Nat) (positive : 0 < limit) : Codec where
  encode := id
  decode := some
  encoderAccepts buffer := min limit buffer.length
  decoderAccepts buffer := min limit buffer.length
  encoder_le _ := Nat.min_le_right _ _
  decoder_le _ := Nat.min_le_right _ _
  encoder_pos _ filled := Nat.lt_min.mpr ⟨positive, List.length_pos_iff.mpr filled⟩
  decoder_pos _ filled := Nat.lt_min.mpr ⟨positive, List.length_pos_iff.mpr filled⟩
  reproduces _ := rfl

def roomy : Codec := storing 8 (by decide)

def narrow : Codec := storing 1 (by decide)

/-- Two payloads on their way. -/
def twoPayloads (codec : Codec) : List (Crossing
    ((XzCompress.spec codec.compress).component (XzCompress.process codec.compress))
    ((XzDecompress.spec codec.decompress).component (XzDecompress.process codec.decompress))) :=
  [.above (.feed InPort.inn (.bytes [1])), .above (.feed InPort.inn (.bytes [2, 3])), .above (.invoke 8 fun _ => []),
    .above (.drain OutPort.out 2), .hand, .hand, .below (.invoke 8 fun _ => [])]

/-- Where the two payloads end up, with an edge for two packets. -/
def crossed (codec : Codec) := (xzMachine codec).played (Pipeline.start (fun _ => 4) (fun _ => 2) (fun _ => 2) fun _ => 4)
  (twoPayloads codec)

theorem crossed_run (codec : Codec) (possible : ((xzMachine codec).play
      (Pipeline.start (fun _ => 4) (fun _ => 2) (fun _ => 2) fun _ => 4) (twoPayloads codec)).isSome = true) :
    ∃ trace, (xzMachine codec).Run anyMove (Pipeline.start (fun _ => 4) (fun _ => 2) (fun _ => 2) fun _ => 4) trace
      (crossed codec) :=
  ⟨_, Machine.run_played _ (Machine.permits_any _ _) possible⟩

theorem fedBytes_of_asBytes {upperSpec lowerSpec : Forwarder}
    {upperProcess lowerProcess : List FbpMessage → Call InPort OutPort → Nat → Outcome (List FbpMessage) InPort OutPort}
    {pipeline : Pipeline (upperSpec.component upperProcess) (lowerSpec.component lowerProcess)}
    (all : ∀ packet ∈ (pipeline.upper.ports.ins InPort.inn).fed, packet.asBytes.isSome = true) : pipeline.FedBytes := by
  intro packet member
  have read := all packet member
  cases packet with
  | bytes payload => exact ⟨payload, rfl⟩
  | _ => cases read

/-- The check of one call. -/
def patient {spec : Forwarder}
    {process : List FbpMessage → Call InPort OutPort → Nat → Outcome (List FbpMessage) InPort OutPort}
    (invocation : Invocation (spec.component process)) : Bool :=
  let pending : List FbpMessage := invocation.state
  let call : Call InPort OutPort := invocation.call
  decide (spec.Patient invocation.remainingBudget pending call)

theorem patient_of {spec : Forwarder}
    {process : List FbpMessage → Call InPort OutPort → Nat → Outcome (List FbpMessage) InPort OutPort}
    {invocation : Invocation (spec.component process)} (checked : patient invocation = true) :
    spec.Patient invocation.remainingBudget invocation.state invocation.call := by
  obtain ⟨(pending : List FbpMessage), (call : Call InPort OutPort), budget⟩ := invocation
  have decided : decide (spec.Patient budget pending call) = true := checked
  exact of_decide_eq_true decided

theorem compression_roundtrips_crossed :
    ((crossed roomy).lower.ports.outs OutPort.out).sent.map FbpMessage.asBytes =
        [some [1], some [2, 3]] ∧ (crossed roomy).Roundtrips := by
  obtain ⟨trace, run⟩ := crossed_run roomy (by decide +kernel)
  have above : ∀ invocation ∈ (crossed roomy).upper.history, patient invocation = true := by
    decide +kernel
  have below : ∀ invocation ∈ (crossed roomy).lower.history, patient invocation = true := by
    decide +kernel
  have careful : (crossed roomy).Careful roomy :=
    ⟨by decide +kernel, fun invocation member => patient_of (above invocation member),
      fun invocation member => patient_of (below invocation member)⟩
  exact ⟨by decide +kernel,
    (compression_roundtrips _ _ _ _ _).1 _ trace run (fedBytes_of_asBytes (by decide +kernel)) careful⟩

/-- The rest of a payload is dropped if `write` accepts one byte of it. -/
theorem compression_truncates :
    ¬ ∀ (codec : Codec) (upperIn lowerIn : InPort → Nat) (upperOut lowerOut : OutPort → Nat) pipeline trace,
      (xzMachine codec).Run anyMove (Pipeline.start upperIn lowerIn upperOut lowerOut) trace pipeline →
      pipeline.FedBytes → pipeline.Roundtrips := by
  intro roundtrips
  obtain ⟨trace, run⟩ := crossed_run narrow (by decide +kernel)
  have same := roundtrips _ _ _ _ _ _ trace run (fedBytes_of_asBytes (by decide +kernel))
  have bytes := List.IsPrefix.map FbpMessage.asBytes same
  revert bytes
  decide +kernel

end Flowd
