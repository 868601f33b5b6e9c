import Mathlib.Data.List.Forall2
import Mathlib.Data.List.Infix
import Mathlib.Tactic.Common

namespace Flowd.Segments

/-! Readers of a stream that arrives in segments.

A reader makes something of a segment, or never comes to an end with it.  What it makes is a state in which it
waits for more, or the outcome of a message, and then it starts again.
-/

structure Reader (σ β ω : Type) where
  start : σ
  reads : σ → List β → σ ⊕ ω → Prop
  functional : ∀ {state segment left right}, reads state segment left → reads state segment right → left = right

variable {σ β ω : Type}

namespace Reader

variable (reader : Reader σ β ω)

/-- What has been read, what came of it and the state it leads to. -/
inductive History : List (List β) → List ω → σ → Prop where
  | nil : History [] [] reader.start
  | waits {segments : List (List β)} {segment : List β} {outcomes : List ω} {state next : σ} :
      History segments outcomes state → reader.reads state segment (.inl next) →
      History (segments ++ [segment]) outcomes next
  | ends {segments : List (List β)} {segment : List β} {outcomes : List ω} {state : σ} {outcome : ω} :
      History segments outcomes state → reader.reads state segment (.inr outcome) →
      History (segments ++ [segment]) (outcomes ++ [outcome]) reader.start

/-- What waits after some bytes goes on as if it had them and the next ones at once. -/
def Resumes : Prop :=
  ∀ {bytes : List β} {state : σ}, reader.reads reader.start bytes (.inl state) →
    ∀ more result, reader.reads state more result ↔ reader.reads reader.start (bytes ++ more) result

/-- A message in segments: in one piece it has an outcome, and where it is cut the reader waits. -/
structure Cut (message : List (List β)) : Prop where
  nonempty : message ≠ []
  pauses : ∀ front back, message = front ++ back → front ≠ [] → back ≠ [] →
    ∃ state, reader.reads reader.start front.flatten (.inl state)
  ends : ∃ outcome, reader.reads reader.start message.flatten (.inr outcome)

/-- The messages that were read to their end have the outcomes of one piece; of the next one a part may have
been read. -/
inductive Progress : List (List (List β)) → List (List β) → List ω → σ → Prop where
  | between {finished rest : List (List (List β))} {outcomes : List ω}
      (whole : List.Forall₂ (fun message outcome => reader.reads reader.start message.flatten (.inr outcome)) finished outcomes) :
      Progress (finished ++ rest) finished.flatten outcomes reader.start
  | within {finished rest : List (List (List β))} {part more : List (List β)} {outcomes : List ω} {state : σ}
      (whole : List.Forall₂ (fun message outcome => reader.reads reader.start message.flatten (.inr outcome)) finished outcomes)
      (begun : part ≠ []) (left : more ≠ []) (waits : reader.reads reader.start part.flatten (.inl state)) :
      Progress (finished ++ (part ++ more) :: rest) (finished.flatten ++ part) outcomes state

variable {reader} {script : List (List (List β))} {segments : List (List β)} {segment : List β} {outcomes : List ω}
variable {state : σ}

/-- The next segment is read as if with all of its message that came before. -/
theorem Progress.next (progress : reader.Progress script segments outcomes state) (resumes : reader.Resumes)
    (cut : ∀ message ∈ script, reader.Cut message) (sent : segments ++ [segment] <+: script.flatten) :
    ∃ finished part more rest, script = finished ++ (part ++ segment :: more) :: rest ∧
      segments = finished.flatten ++ part ∧
      List.Forall₂ (fun message outcome => reader.reads reader.start message.flatten (.inr outcome)) finished outcomes ∧
      ∀ result, reader.reads state segment result ↔ reader.reads reader.start (part ++ [segment]).flatten result := by
  cases progress with
  | @between finished rest _ whole =>
      rw [List.flatten_append, List.prefix_append_right_inj] at sent
      cases rest with
      | nil => simp at sent
      | cons message tail =>
          have nonempty := (cut message (by simp)).nonempty
          cases message with
          | nil => exact absurd rfl nonempty
          | cons first more =>
              obtain rfl : segment = first := by simpa using sent
              exact ⟨finished, [], more, tail, rfl, (List.append_nil _).symm, whole, by simp⟩
  | @within finished tail part more _ _ whole begun left waits =>
      rw [List.flatten_append, List.append_assoc, List.prefix_append_right_inj, List.flatten_cons, List.append_assoc,
        List.prefix_append_right_inj] at sent
      cases more with
      | nil => exact absurd rfl left
      | cons first more =>
          obtain rfl : segment = first := by simpa using sent
          refine ⟨finished, part, more, tail, rfl, rfl, whole, fun result => ?_⟩
          rw [resumes waits, List.flatten_append, List.flatten_singleton]

/-- Every segment of a message that is cut so comes to an end. -/
theorem Progress.reads (progress : reader.Progress script segments outcomes state) (resumes : reader.Resumes)
    (cut : ∀ message ∈ script, reader.Cut message) (sent : segments ++ [segment] <+: script.flatten) :
    ∃ result, reader.reads state segment result := by
  obtain ⟨finished, part, more, rest, rfl, -, -, same⟩ := progress.next resumes cut sent
  have message := cut (part ++ segment :: more) (by simp)
  cases more with
  | nil =>
      obtain ⟨outcome, ends⟩ := message.ends
      exact ⟨_, (same _).mpr ends⟩
  | cons next more =>
      obtain ⟨left, waits⟩ := message.pauses (part ++ [segment]) (next :: more) (by simp) (by simp) (by simp)
      exact ⟨_, (same _).mpr waits⟩

/-- What comes of a script does not depend on how its messages are cut, as long as the reader waits there. -/
theorem History.progress (history : reader.History segments outcomes state) (resumes : reader.Resumes)
    (cut : ∀ message ∈ script, reader.Cut message) (sent : segments <+: script.flatten) :
    reader.Progress script segments outcomes state := by
  induction history with
  | nil =>
      have none : reader.Progress ([] ++ script) [] [] reader.start := .between .nil
      exact none
  | @waits segments segment outcomes state next _ reads ih =>
      have earlier := ih ((List.prefix_append ..).trans sent)
      obtain ⟨finished, part, more, rest, rfl, rfl, whole, same⟩ := earlier.next resumes cut sent
      have here := (same _).mp reads
      cases more with
      | nil =>
          obtain ⟨outcome, ends⟩ := (cut (part ++ [segment]) (by simp)).ends
          cases reader.functional here ends
      | cons first more =>
          have progress : reader.Progress (finished ++ ((part ++ [segment]) ++ first :: more) :: rest)
            (finished.flatten ++ (part ++ [segment])) outcomes next :=
            .within whole (List.concat_ne_nil segment part) (List.cons_ne_nil first more) here
          simpa using progress
  | @ends segments segment outcomes state outcome _ reads ih =>
      have earlier := ih ((List.prefix_append ..).trans sent)
      obtain ⟨finished, part, more, rest, rfl, rfl, whole, same⟩ := earlier.next resumes cut sent
      have here := (same _).mp reads
      cases more with
      | nil =>
          have one : List.Forall₂ (fun message outcome => reader.reads reader.start message.flatten (.inr outcome))
            [part ++ [segment]] [outcome] := .cons here .nil
          have progress : reader.Progress ((finished ++ [part ++ [segment]]) ++ rest) _ _ reader.start :=
            .between (List.rel_append whole one)
          simpa using progress
      | cons first more =>
          obtain ⟨next, waits⟩ := (cut (part ++ segment :: first :: more) (by simp)).pauses (part ++ [segment])
            (first :: more) (by simp) (by simp) (by simp)
          cases reader.functional here waits

end Reader

end Flowd.Segments
