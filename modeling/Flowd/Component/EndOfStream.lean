import Flowd.Component.Forwarding
import Flowd.Component.Droppers
import Flowd.Component.Muxer
import Flowd.Component.SplitLines

namespace Flowd

/-! What is left behind when a stream component finishes. -/

open Transition

inductive StreamKind where
  | repeating
  | trim
  | output
  | equals
  | textReplace
  | brotliCompress (compress : List UInt8 → Option (List UInt8))
  | brotliDecompress (decompress : List UInt8 → Option (List UInt8))
  | muxer (inports : Nat)
  | demux3
  | splitLines

namespace StreamKind

def component : StreamKind → StreamComponent
  | repeating => repeatComponent
  | trim => trimComponent
  | output => outputComponent
  | equals => Equals.component
  | textReplace => TextReplace.component
  | brotliCompress compress => brotliCompressComponent compress
  | brotliDecompress decompress => brotliDecompressComponent decompress
  | muxer inports => Muxer.component inports
  | demux3 => Demux3.component
  | splitLines => SplitLines.component

theorem nothingHeld (kind : StreamKind) : kind.component.held kind.component.new = [] := by
  cases kind <;> rfl

end StreamKind

namespace Demux3

theorem opens (branch : Nat) (call : Call InPort Out) :
    dropper.Opens branch call (dropper.opening branch call.begin) := Dropper.opens_listen

theorem oneForOne (conf : Unit) : (dropper.loop conf).OneForOne := fun _ _ => ⟨_, _, rfl⟩

end Demux3

namespace StreamKind

theorem ledger (kind : StreamKind) : Ledger kind.component.toComponent := by
  cases kind with
  | repeating => exact Overflow.ledger Repeat.calls
  | trim => exact Overflow.ledger Trim.calls
  | output => exact Overflow.ledger Output.calls
  | equals => exact Overflow.ledger Equals.calls
  | textReplace => exact Overflow.ledger TextReplace.calls
  | brotliCompress compress => exact Overflow.ledger (BrotliCompress.calls compress)
  | brotliDecompress decompress => exact Overflow.ledger (BrotliDecompress.calls decompress)
  | muxer inports => exact Muxer.ledger inports
  | demux3 => exact Dropper.ledger Demux3.opens
  | splitLines => exact SplitLines.ledger

theorem closes (kind : StreamKind) : Closes kind.component := by
  cases kind with
  | repeating => exact Overflow.closes Repeat.calls
  | trim => exact Overflow.closes Trim.calls
  | output => exact Overflow.closes Output.calls
  | equals => exact Overflow.closes Equals.calls
  | textReplace => exact Overflow.closes TextReplace.calls
  | brotliCompress compress => exact Overflow.closes (BrotliCompress.calls compress)
  | brotliDecompress decompress => exact Overflow.closes (BrotliDecompress.calls decompress)
  | muxer inports => exact Muxer.closes inports
  | demux3 => exact Dropper.closes Demux3.opens Demux3.oneForOne fun _ _ => rfl
  | splitLines => exact SplitLines.closes

end StreamKind

/-- A call that finishes unasked leaves nothing behind exactly if its budget covers all
that waits, the outputs have room for it, and no earlier call offered a packet it could
not keep to a full output. -/
theorem end_of_stream_drained (kind : StreamKind) {inCapacity : kind.component.In → Nat}
    {outCapacity : kind.component.Out → Nat} {stream : Stream kind.component.toComponent} {trace : List Returned}
    (run : (streamMachine kind.component.toComponent).Run anyMove (.start inCapacity outCapacity) trace stream)
    (going : stream.isOver = false) (remainingBudget : Nat) (schedule : kind.component.Out → List Nat)
    (finishes : (stream.invocation remainingBudget schedule).FinishesUnasked) :
    (stream.after (stream.invocation remainingBudget schedule)).Drained ↔
      (stream.invocation remainingBudget schedule).Ample ∧
        ∀ invocation ∈ stream.history, invocation.Roomy :=
  drained_iff kind.nothingHeld kind.ledger kind.closes run going remainingBudget schedule finishes

/-- Two packets wait at Repeat, and the producer is gone. -/
def twoWaiting : List (Traffic repeatComponent.toComponent) :=
  [.feed InPort.inn (.text "a"), .feed InPort.inn (.text "b"), .close InPort.inn]

def repeatStream : Stream repeatComponent.toComponent :=
  (streamMachine repeatComponent.toComponent).played (.start (fun _ => 2) fun _ => 2) twoWaiting

theorem repeatStream_run : (streamMachine repeatComponent.toComponent).Run anyMove (.start (fun _ => 2) fun _ => 2)
    ((streamMachine repeatComponent.toComponent).reported (.start (fun _ => 2) fun _ => 2) twoWaiting)
    repeatStream :=
  Machine.run_played _ (Machine.permits_any _ _) rfl

/-- With a budget of one Repeat finishes nevertheless. -/
theorem repeatStream_finishes : (repeatStream.invocation 1 fun _ => []).FinishesUnasked := by
  refine ⟨rfl, ?_⟩
  rintro ⟨signal, member, _⟩
  cases member

theorem end_of_stream_drained_repeat : (repeatStream.after (repeatStream.invocation 1 fun _ => [])).Drained ↔
    (repeatStream.invocation 1 fun _ => []).Ample ∧ ∀ invocation ∈ repeatStream.history, invocation.Roomy :=
  end_of_stream_drained .repeating repeatStream_run rfl 1 (fun _ => []) repeatStream_finishes

/-- The second packet is still in the IN buffer then. -/
theorem end_of_stream_left_behind : ¬ ∀ (kind : StreamKind) (inCapacity : kind.component.In → Nat)
    (outCapacity : kind.component.Out → Nat) (stream : Stream kind.component.toComponent) (trace : List Returned),
    (streamMachine kind.component.toComponent).Run anyMove (.start inCapacity outCapacity) trace stream →
    stream.isOver = false → ∀ (remainingBudget : Nat) (schedule : kind.component.Out → List Nat),
    (stream.invocation remainingBudget schedule).FinishesUnasked →
    (stream.after (stream.invocation remainingBudget schedule)).Drained := by
  intro claim
  obtain ⟨empty, _⟩ := claim .repeating _ _ _ _ repeatStream_run rfl 1 (fun _ => []) repeatStream_finishes
  have nothing := empty InPort.inn rfl
  have left : (repeatStream.after (repeatStream.invocation 1 fun _ => [])).ports.inbox InPort.inn = [.text "b"] := rfl
  cases left.symm.trans nothing

end Flowd
