import Flowd.Component.Delivery
import Flowd.Component.Droppers

namespace Flowd

/-! What the values that Hasher emits depend on. -/

open Transition

/-- A hash of all that is written to it, under the seed that the builder fixes. -/
structure StreamingHash where
  Seed : Type
  digest : Seed → List UInt8 → UInt64

/-- The hasher of one run; `draws` are the seeds of its calls. -/
def StreamingHash.function (hash : StreamingHash) (draws : Nat → hash.Seed) : HashFunction where
  Hasher := hash.Seed × List UInt8
  buildHasher calls := (draws calls, [])
  write hasher bytes := (hasher.1, hasher.2 ++ bytes)
  finish hasher := hash.digest hasher.1 hasher.2

namespace Hasher

/-- `ip.as_bytes().unwrap_or(&[])` -/
def payload (ip : FbpMessage) : List UInt8 := ip.asBytes.getD []

/-- A packet that went to OUT: the packet it stands for, the call that hashed it and
what that call had hashed before. -/
structure Emission where
  call : Nat
  before : List UInt8
  ip : FbpMessage
  outip : FbpMessage

/-- The packets taken in a call, beside those sent. -/
def emissionsFrom (call : Nat) : List UInt8 → List FbpMessage → List FbpMessage → List Emission
  | before, ip :: taken, outip :: sent =>
      ⟨call, before, ip, outip⟩ :: emissionsFrom call (before ++ payload ip) taken sent
  | _, _, _ => []

section
variable {hash : HashFunction}

def callEmissions (invocation : Invocation (component hash)) : List Emission :=
  let calls : Nat := invocation.state
  let before : Call InPort OutPort := invocation.call
  let after : Call InPort OutPort := invocation.outcome.call
  emissionsFrom (calls + 1) [] (before.fresh after .inn) ((after.outs .out).sent.drop (before.outs .out).sent.length)

def emissions (stream : Stream (component hash)) : List Emission := stream.history.flatMap callEmissions

end

/-! The hexadecimal text. -/

def hexDigit (digit : Char) : Nat := if digit.toNat < 97 then digit.toNat - 48 else digit.toNat - 87

def readHex (digits : List Char) : Nat := digits.foldl (fun value digit => 16 * value + hexDigit digit) 0

theorem hexDigit_digitChar (digit : Nat) (small : digit < 16) : hexDigit digit.digitChar = digit := by
  revert digit
  decide

theorem readHex_zeros (count : Nat) (digits : List Char) :
    readHex (List.replicate count '0' ++ digits) = readHex digits := by
  induction count with
  | zero => rfl
  | succ count ih =>
      rw [List.replicate_succ, List.cons_append, ← ih]
      rfl

theorem readHex_toDigits (value : Nat) : readHex (Nat.toDigits 16 value) = value := by
  induction value using Nat.strongRecOn with
  | _ value ih =>
      rw [Nat.toDigits_eq_if (by decide)]
      split
      · next small =>
          have digit := hexDigit_digitChar value small
          simpa [readHex] using digit
      · next large =>
          have quotient := ih (value / 16) (by omega)
          have digit := hexDigit_digitChar (value % 16) (Nat.mod_lt _ (by decide))
          rw [readHex] at quotient
          rw [readHex, List.foldl_append, quotient, List.foldl_cons, List.foldl_nil, digit]
          omega

theorem hex_injective {first second : UInt64} (same : hex first = hex second) : first = second := by
  have read (value : UInt64) : readHex (hex value).toList = value.toNat := by
    simp only [hex, String.toList_ofList]
    rw [readHex_zeros, readHex_toDigits]
  have values := congrArg (fun text : String => readHex text.toList) same
  rw [read, read] at values
  exact UInt64.toNat.inj values

/-! What is emitted. -/

variable {hash : StreamingHash} {draws : Nat → hash.Seed}

/-- The loop has emitted the hash of the call so far for each packet. -/
theorem emissionsFrom_outip {calls : Nat} {before : List UInt8} {taken sent : List FbpMessage}
    {front : List (OutPort × FbpMessage)}
    (first : front <+: ((dropper (hash.function draws)).loop ()).emitted (draws calls, before) taken)
    (texts : sent = addressed .out front) :
    ∀ emission ∈ emissionsFrom calls before taken sent, emission.call = calls ∧
      emission.outip = .text (hex (hash.digest (draws calls) (emission.before ++ payload emission.ip))) := by
  induction taken generalizing before front sent with
  | nil =>
      intro emission member
      cases member
  | cons ip rest ih =>
      cases front with
      | nil =>
          intro emission member
          rw [texts] at member
          cases member
      | cons item front =>
          have loop : ((dropper (hash.function draws)).loop ()).emitted (draws calls, before) (ip :: rest) =
              (.out, .text (hex (hash.digest (draws calls) (before ++ payload ip)))) ::
                ((dropper (hash.function draws)).loop ()).emitted (draws calls, before ++ payload ip) rest := rfl
          rw [loop, List.cons_prefix_cons] at first
          obtain ⟨same, first⟩ := first
          rw [texts, same, addressed_cons, if_pos rfl]
          intro emission member
          rcases List.mem_cons.mp member with rfl | later
          · exact ⟨rfl, rfl⟩
          · exact ih first rfl emission later

theorem emitted_length (hasher : hash.Seed × List UInt8) (taken : List FbpMessage) :
    (((dropper (hash.function draws)).loop ()).emitted hasher taken).length = taken.length := by
  induction taken generalizing hasher with
  | nil => rfl
  | cons ip rest ih => exact congrArg (· + 1) (ih _)

/-- Every packet sent stands for one that was taken. -/
theorem emissionsFrom_sent (calls : Nat) (before : List UInt8) {taken sent : List FbpMessage}
    (fewer : sent.length ≤ taken.length) : (emissionsFrom calls before taken sent).map Emission.outip = sent := by
  induction taken generalizing before sent with
  | nil =>
      have none : sent = [] := List.length_eq_zero_iff.mp (by simpa using fewer)
      rw [none]
      rfl
  | cons ip rest ih =>
      cases sent with
      | nil => rfl
      | cons outip sent => exact congrArg (outip :: ·) (ih _ (by simpa using fewer))

/-- A call sends the first of the values of the packets it takes. -/
theorem process_sends (draws : Nat → hash.Seed) (calls : Nat) (call : Call InPort OutPort) (budget : Nat) :
    ∃ front, front <+: ((dropper (hash.function draws)).loop ()).emitted (draws (calls + 1), [])
        (call.fresh (process (hash.function draws) calls call budget).call .inn) ∧
      ((process (hash.function draws) calls call budget).call.outs .out).sent =
        (call.outs .out).sent ++ addressed .out front := by
  generalize processed : process (hash.function draws) calls call budget = outcome
  rw [process, Dropper.process] at processed
  obtain ⟨signalsIn, signalsOut, new, polled, _⟩ := call.begin.poll_cases FbpMessage.textOrUtf8
  have opening : (dropper (hash.function draws)).opening calls call.begin =
      .listen FbpMessage.textOrUtf8 (calls + 1) () call.begin := rfl
  rw [opening, Opening.listen] at processed
  generalize call.begin.poll FbpMessage.textOrUtf8 = result at polled processed
  obtain ⟨listened, stop⟩ := result
  have same : listened = { call.begin with signalsIn, signalsOut, heard := call.begin.heard ++ new } := polled
  have ins : listened.ins = call.ins := by rw [same]; rfl
  have outs : listened.outs = call.outs := by rw [same]; rfl
  cases stop with
  | true =>
      refine ⟨[], List.nil_prefix, ?_⟩
      rw [← processed, outs]
      exact (List.append_nil _).symm
  | false =>
      have goesOn : ((dropper (hash.function draws)).loop ()).whenFull ≠ .goOn := fun goesOn => by cases goesOn
      obtain ⟨taken, front, took, first, sent⟩ := ((dropper (hash.function draws)).loop ()).rounds_sends goesOn
        (listened.inbox .inn).length (draws (calls + 1), []) budget listened
      have called : outcome.call = (((dropper (hash.function draws)).loop ()).rounds (listened.inbox .inn).length
        (draws (calls + 1), []) budget listened).call := by
        rw [← processed]
        rfl
      rw [← called] at took sent
      have fresh : call.fresh outcome.call .inn = taken := by
        have drawn := took.fresh
        rwa [Call.fresh, Call.taken, ins] at drawn
      rw [fresh]
      refine ⟨front, first, ?_⟩
      rw [sent .out, outs]

/-- What the emissions of a call are. -/
theorem callEmissions_spec (invocation : Invocation (component (hash.function draws))) :
    (∀ emission ∈ callEmissions invocation, emission.outip =
        .text (hex (hash.digest (draws emission.call) (emission.before ++ payload emission.ip)))) ∧
      (invocation.outcome.call.outs .out).sent =
        (invocation.call.outs .out).sent ++ (callEmissions invocation).map Emission.outip := by
  obtain ⟨(calls : Nat), (call : Call InPort OutPort), budget⟩ := invocation
  obtain ⟨front, first, sent⟩ := process_sends draws calls call budget
  have fewer : (addressed .out front).length ≤
      (call.fresh (process (hash.function draws) calls call budget).call .inn).length := by
    have shorter := first.length_le
    rw [emitted_length] at shorter
    exact (List.length_filterMap_le _ _).trans shorter
  have emitted : callEmissions (Invocation.mk calls call budget : Invocation (component (hash.function draws))) =
      emissionsFrom (calls + 1) [] (call.fresh (process (hash.function draws) calls call budget).call .inn)
        (addressed .out front) := by
    have dropped : ((process (hash.function draws) calls call budget).call.outs .out).sent.drop
        (call.outs .out).sent.length = addressed .out front := by rw [sent, List.drop_left]
    rw [← dropped]
    rfl
  rw [emitted, emissionsFrom_sent _ _ fewer]
  refine ⟨fun emission member => ?_, sent⟩
  obtain ⟨same, text⟩ := emissionsFrom_outip first rfl emission member
  rw [text, same]

theorem emissions_outip (stream : Stream (component (hash.function draws))) :
    ∀ emission ∈ emissions stream, emission.outip =
      .text (hex (hash.digest (draws emission.call) (emission.before ++ payload emission.ip))) := by
  intro emission member
  obtain ⟨invocation, _, emitted⟩ := List.mem_flatMap.mp member
  exact (callEmissions_spec invocation).1 emission emitted

/-- The emissions of a run are all that has been sent to OUT. -/
theorem emissions_sent {inCapacity : InPort → Nat} {outCapacity : OutPort → Nat}
    {stream : Stream (component (hash.function draws))} {trace : List Returned}
    (run : (streamMachine (component (hash.function draws))).Run anyMove (.start inCapacity outCapacity) trace stream) :
    (emissions stream).map Emission.outip = (stream.ports.outs .out).sent := by
  refine Machine.Run.invariant (fun stream : Stream (component (hash.function draws)) =>
    (emissions stream).map Emission.outip = (stream.ports.outs .out).sent) run rfl ?_
  intro stream action next events _ holds step
  rcases Stream.step_cases step with between | ⟨remainingBudget, schedule, _, rfl⟩
  · have sent : (next.ports.outs .out).sent = (stream.ports.outs .out).sent := between.sent _
    rw [sent, emissions, between.history]
    exact holds
  · have sent := (callEmissions_spec (stream.invocation remainingBudget schedule)).2
    have before : ((stream.invocation remainingBudget schedule).call.outs .out).sent = (stream.ports.outs .out).sent :=
      Outlet.sent_schedule _ _
    rw [before, ← holds] at sent
    simp only [emissions, Stream.after, List.flatMap_append, List.map_append, List.flatMap_cons, List.flatMap_nil,
      List.append_nil] at sent ⊢
    exact sent.symm

/-- Equal payloads are emitted as equal values. -/
def Alike (left right : List Emission) : Prop :=
  ∀ first ∈ left, ∀ second ∈ right, payload first.ip = payload second.ip → first.outip = second.outip

/-- Packets with equal payloads meet the same seed, after the same bytes of their call. -/
def AlikePlaced (leftDraws rightDraws : Nat → hash.Seed) (left right : List Emission) : Prop :=
  ∀ first ∈ left, ∀ second ∈ right, payload first.ip = payload second.ip →
    leftDraws first.call = rightDraws second.call ∧ first.before = second.before

instance decidableAlikePlaced [DecidableEq hash.Seed] (leftDraws rightDraws : Nat → hash.Seed)
    (left right : List Emission) : Decidable (AlikePlaced leftDraws rightDraws left right) :=
  inferInstanceAs (Decidable (∀ first ∈ left, ∀ second ∈ right, payload first.ip = payload second.ip →
    leftDraws first.call = rightDraws second.call ∧ first.before = second.before))

/-- The hash tells apart what the two runs hash. -/
def Distinguishes (hash : StreamingHash) (leftDraws rightDraws : Nat → hash.Seed) (left right : List Emission) : Prop :=
  ∀ first ∈ left, ∀ second ∈ right,
    hash.digest (leftDraws first.call) (first.before ++ payload first.ip) =
      hash.digest (rightDraws second.call) (second.before ++ payload second.ip) →
    leftDraws first.call = rightDraws second.call ∧
      first.before ++ payload first.ip = second.before ++ payload second.ip

/-- Two runs emit equal values for equal payloads if the packets with equal payloads stand
alike in their calls, and only then unless the hash happens to collide. -/
theorem hashes_alone_iff {leftDraws rightDraws : Nat → hash.Seed}
    {leftIn rightIn : InPort → Nat} {leftOut rightOut : OutPort → Nat}
    {left : Stream (component (hash.function leftDraws))} {right : Stream (component (hash.function rightDraws))}
    {leftTrace rightTrace : List Returned}
    (leftRun : (streamMachine (component (hash.function leftDraws))).Run anyMove (.start leftIn leftOut) leftTrace left)
    (rightRun : (streamMachine (component (hash.function rightDraws))).Run anyMove (.start rightIn rightOut)
      rightTrace right) :
    ((emissions left).map Emission.outip = (left.ports.outs .out).sent ∧
      (emissions right).map Emission.outip = (right.ports.outs .out).sent) ∧
    (AlikePlaced leftDraws rightDraws (emissions left) (emissions right) → Alike (emissions left) (emissions right)) ∧
    (Distinguishes hash leftDraws rightDraws (emissions left) (emissions right) →
      Alike (emissions left) (emissions right) →
      AlikePlaced leftDraws rightDraws (emissions left) (emissions right)) := by
  refine ⟨⟨emissions_sent leftRun, emissions_sent rightRun⟩, ?_, ?_⟩
  · intro placed first fromLeft second fromRight same
    obtain ⟨seed, before⟩ := placed first fromLeft second fromRight same
    rw [emissions_outip left first fromLeft, emissions_outip right second fromRight, seed, before, same]
  · intro distinguishes alike first fromLeft second fromRight same
    have texts := alike first fromLeft second fromRight same
    rw [emissions_outip left first fromLeft, emissions_outip right second fromRight] at texts
    have digests := hex_injective (FbpMessage.text.inj texts)
    obtain ⟨seed, bytes⟩ := distinguishes first fromLeft second fromRight digests
    rw [same] at bytes
    exact ⟨seed, List.append_cancel_right bytes⟩

/-- A hash that adds up the bytes. -/
def checksum : StreamingHash := ⟨Unit, fun _ bytes => bytes.foldl (fun sum byte => 31 * sum + byte.toUInt64) 7⟩

instance : DecidableEq checksum.Seed := inferInstanceAs (DecidableEq Unit)

def unseeded (_ : Nat) : checksum.Seed := ()

abbrev checksumComponent : Component := component (checksum.function unseeded)

/-- Two equal packets, in one call or in several. -/
def twice (budgets : List Nat) : List (Traffic checksumComponent) :=
  [.feed .inn (.bytes [97]), .feed .inn (.bytes [97])] ++ budgets.map fun budget => .invoke budget fun _ => []

def hashed (budgets : List Nat) : Stream checksumComponent :=
  (streamMachine checksumComponent).played (.start (fun _ => 4) fun _ => 4) (twice budgets)

theorem twice_run (budgets : List Nat)
    (possible : ((streamMachine checksumComponent).play (.start (fun _ => 4) fun _ => 4) (twice budgets)).isSome = true) :
    (streamMachine checksumComponent).Run anyMove (.start (fun _ => 4) fun _ => 4)
      ((streamMachine checksumComponent).reported (.start (fun _ => 4) fun _ => 4) (twice budgets)) (hashed budgets) :=
  Machine.run_played _ (Machine.permits_any _ _) possible

theorem hashes_alone_iff_twoCalls :
    (emissions (hashed [1, 1])).length = 2 ∧ Alike (emissions (hashed [1, 1])) (emissions (hashed [1, 1])) := by
  have run := twice_run [1, 1] (by decide +kernel)
  have placed : AlikePlaced unseeded unseeded (emissions (hashed [1, 1])) (emissions (hashed [1, 1])) := by
    decide +kernel
  exact ⟨by decide +kernel, (hashes_alone_iff run run).2.1 placed⟩

/-- The second of two equal packets of one call gets another value. -/
theorem hashes_neighbours :
    ¬ ∀ (hash : StreamingHash) (leftDraws rightDraws : Nat → hash.Seed) (inCapacity : InPort → Nat)
      (outCapacity : OutPort → Nat) (left : Stream (component (hash.function leftDraws)))
      (right : Stream (component (hash.function rightDraws))) (leftTrace rightTrace : List Returned),
      (streamMachine (component (hash.function leftDraws))).Run anyMove (.start inCapacity outCapacity) leftTrace left →
      (streamMachine (component (hash.function rightDraws))).Run anyMove (.start inCapacity outCapacity)
        rightTrace right →
      Alike (emissions left) (emissions right) := by
  intro alike
  have run := twice_run [2] (by decide +kernel)
  have alike := alike checksum unseeded unseeded _ _ _ _ _ _ run run
  have texts : ∀ first ∈ emissions (hashed [2]), ∀ second ∈ emissions (hashed [2]),
      payload first.ip = payload second.ip → first.outip.asText = second.outip.asText :=
    fun first fromLeft second fromRight same => congrArg FbpMessage.asText (alike first fromLeft second fromRight same)
  revert texts
  decide +kernel

end Hasher

end Flowd
