import Flowd.Component.EndOfStream
import Flowd.Component.Router
import Flowd.Component.Email

namespace Flowd

/-! What a full output costs the components that have no place for a packet. -/

open Transition

theorem HTMLStrip.opens (state : Unit) (call : Call InPort OutPort) :
    dropper.Opens state call (dropper.opening state call.begin) := Dropper.opens_listen

theorem Hasher.opens (hash : HashFunction) (calls : Nat) (call : Call InPort OutPort) :
    (dropper hash).Opens calls call ((dropper hash).opening calls call.begin) := Dropper.opens_listen

theorem Sexp.opens (state : Unit) (call : Call InPort OutPort) :
    dropper.Opens state call (dropper.opening state call.begin) := Dropper.opens_listen

theorem RegexpExtract.opens (engine : RegexEngine) (regexp : Option engine.Regex) (call : Call ConfInPort OutPort) :
    (dropper engine).Opens regexp call ((dropper engine).opening regexp call.begin) :=
  Dropper.opens_configure ConfInPort.inn_ne_conf fun _ _ => rfl

theorem TeraTemplate.opens (engine : TemplateEngine) (template : Option engine.Tera) (call : Call ConfInPort OutPort) :
    (dropper engine).Opens template call ((dropper engine).opening template call.begin) :=
  Dropper.opens_configure ConfInPort.inn_ne_conf fun _ _ => rfl

theorem JSONQuery.opens (engine : FilterEngine) (overflowChecks : Bool) (query : Option engine.Filter)
    (call : Call ConfInPort OutPort) :
    (dropper engine overflowChecks).Opens query call ((dropper engine overflowChecks).opening query call.begin) :=
  Dropper.opens_configure ConfInPort.inn_ne_conf fun _ _ => rfl

theorem HTMLQuery.opens (engine : XpathEngine) (overflowChecks : Bool) (query : Option engine.Xpath)
    (call : Call ConfInPort OutPort) :
    (dropper engine overflowChecks).Opens query call ((dropper engine overflowChecks).opening query call.begin) :=
  Dropper.opens_configure ConfInPort.inn_ne_conf fun _ _ => rfl

theorem GenericRouter.opens (engine : RegexEngine) (serde : Serde) (outPorts : List String)
    (conf : Option (Config engine)) (call : Call ConfInPort String) :
    (dropper engine serde outPorts).Opens conf call ((dropper engine serde outPorts).opening conf call.begin) :=
  Dropper.opens_configure ConfInPort.inn_ne_conf fun _ _ => rfl

theorem EmailParser.opens (engine : MailEngine) (config : Option EmailParserConfig) (call : Call ConfInPort OutPort) :
    (dropper engine).Opens config call ((dropper engine).opening config call.begin) :=
  Dropper.opens_configure ConfInPort.inn_ne_conf fun _ _ => rfl

inductive DropKind : Type 1 where
  | muxer (inports : Nat)
  | demux3
  | genericRouter (engine : RegexEngine) (serde : GenericRouter.Serde) (outPorts : List String)
  | splitLines
  | jsonQuery (engine : FilterEngine) (overflowChecks : Bool)
  | htmlStrip
  | htmlQuery (engine : XpathEngine) (overflowChecks : Bool)
  | regexpExtract (engine : RegexEngine)
  | teraTemplate (engine : TemplateEngine)
  | hasher (hash : HashFunction)
  | emailParser (engine : EmailParser.MailEngine)
  | sexp

namespace DropKind

def component : DropKind → Component
  | muxer inports => (Muxer.component inports).toComponent
  | demux3 => Demux3.component.toComponent
  | genericRouter engine serde outPorts => GenericRouter.component engine serde outPorts
  | splitLines => SplitLines.component.toComponent
  | jsonQuery engine overflowChecks => JSONQuery.component engine overflowChecks
  | htmlStrip => HTMLStrip.component
  | htmlQuery engine overflowChecks => HTMLQuery.component engine overflowChecks
  | regexpExtract engine => RegexpExtract.component engine
  | teraTemplate engine => TeraTemplate.component engine
  | hasher hash => Hasher.component hash
  | emailParser engine => EmailParser.component engine
  | sexp => Sexp.component

theorem nothingHeld (kind : DropKind) : kind.component.held kind.component.new = [] := by
  cases kind <;> rfl

theorem ledger (kind : DropKind) : Ledger kind.component := by
  cases kind with
  | muxer inports => exact Muxer.ledger inports
  | demux3 => exact Dropper.ledger Demux3.opens
  | genericRouter engine serde outPorts => exact Dropper.ledger (GenericRouter.opens engine serde outPorts)
  | splitLines => exact SplitLines.ledger
  | jsonQuery engine overflowChecks => exact Dropper.ledger (JSONQuery.opens engine overflowChecks)
  | htmlStrip => exact Dropper.ledger HTMLStrip.opens
  | htmlQuery engine overflowChecks => exact Dropper.ledger (HTMLQuery.opens engine overflowChecks)
  | regexpExtract engine => exact Dropper.ledger (RegexpExtract.opens engine)
  | teraTemplate engine => exact Dropper.ledger (TeraTemplate.opens engine)
  | hasher hash => exact Dropper.ledger (Hasher.opens hash)
  | emailParser engine => exact Dropper.ledger (EmailParser.opens engine)
  | sexp => exact Dropper.ledger Sexp.opens

theorem reasonable (kind : DropKind) : Reasonable kind.component := by
  cases kind with
  | muxer inports => exact Muxer.reasonable inports
  | demux3 => exact Dropper.reasonable Demux3.opens
  | genericRouter engine serde outPorts => exact Dropper.reasonable (GenericRouter.opens engine serde outPorts)
  | splitLines => exact SplitLines.reasonable
  | jsonQuery engine overflowChecks => exact Dropper.reasonable (JSONQuery.opens engine overflowChecks)
  | htmlStrip => exact Dropper.reasonable HTMLStrip.opens
  | htmlQuery engine overflowChecks => exact Dropper.reasonable (HTMLQuery.opens engine overflowChecks)
  | regexpExtract engine => exact Dropper.reasonable (RegexpExtract.opens engine)
  | teraTemplate engine => exact Dropper.reasonable (TeraTemplate.opens engine)
  | hasher hash => exact Dropper.reasonable (Hasher.opens hash)
  | emailParser engine => exact Dropper.reasonable (EmailParser.opens engine)
  | sexp => exact Dropper.reasonable Sexp.opens

end DropKind

/-- Between any two calls everything taken has been sent or is held, and no call has
finished for want of room, exactly if no call offered a packet to a full output. -/
theorem backpressure_harmless (kind : DropKind) {inCapacity : kind.component.In → Nat}
    {outCapacity : kind.component.Out → Nat} {stream : Stream kind.component} {trace : List Returned}
    (run : (streamMachine kind.component).Run anyMove (.start inCapacity outCapacity) trace stream)
    (returned : stream.returned ≠ some .panicked) :
    Conserved stream.ports.outs (kind.component.held stream.state) stream.owed ∧
      (∀ invocation ∈ stream.history, invocation.outcome.returned = .result .finished → invocation.HasReason) ↔
      ∀ invocation ∈ stream.history, invocation.Roomy :=
  harmless_iff_roomy kind.nothingHeld kind.ledger kind.reasonable run returned

/-- HTMLStrip takes two packets while there is room for one. -/
def twoForOne : List (Traffic HTMLStrip.component) :=
  [.feed InPort.inn (.bytes [1]), .feed InPort.inn (.bytes [2]), .invoke 32 fun _ => []]

def htmlStripStream : Stream HTMLStrip.component :=
  (streamMachine HTMLStrip.component).played (.start (fun _ => 2) fun _ => 1) twoForOne

theorem htmlStripStream_run : (streamMachine HTMLStrip.component).Run anyMove (.start (fun _ => 2) fun _ => 1)
    ((streamMachine HTMLStrip.component).reported (.start (fun _ => 2) fun _ => 1) twoForOne) htmlStripStream :=
  Machine.run_played _ (Machine.permits_any _ _) rfl

theorem htmlStripStream_returned : htmlStripStream.returned ≠ some .panicked := by
  intro panicked
  cases panicked

theorem backpressure_harmless_htmlStrip :
    Conserved htmlStripStream.ports.outs (HTMLStrip.component.held htmlStripStream.state) htmlStripStream.owed ∧
      (∀ invocation ∈ htmlStripStream.history,
        invocation.outcome.returned = .result .finished → invocation.HasReason) ↔
      ∀ invocation ∈ htmlStripStream.history, invocation.Roomy :=
  backpressure_harmless .htmlStrip htmlStripStream_run htmlStripStream_returned

/-- The second of them is gone: it is owed, but neither sent nor held. -/
theorem backpressure_discards : ¬ ∀ (kind : DropKind) (inCapacity : kind.component.In → Nat)
    (outCapacity : kind.component.Out → Nat) (stream : Stream kind.component) (trace : List Returned),
    (streamMachine kind.component).Run anyMove (.start inCapacity outCapacity) trace stream →
    stream.returned ≠ some .panicked →
    Conserved stream.ports.outs (kind.component.held stream.state) stream.owed ∧
      ∀ invocation ∈ stream.history, invocation.outcome.returned = .result .finished → invocation.HasReason := by
  intro claim
  obtain ⟨conserved, _⟩ := claim .htmlStrip _ _ _ _ htmlStripStream_run htmlStripStream_returned
  have balanced := congrArg Multiset.card (conserved OutPort.out)
  have impossible : 1 = 2 := balanced
  cases impossible

end Flowd
