import Mathlib.Data.List.Count
import Mathlib.Data.List.Nodup

namespace Flowd.Line

/-! Waiting lines: newcomers join behind, the first one is served, anyone may leave. -/

variable {α : Type} [DecidableEq α]

/-- One move of a line, with who was served and who left. -/
inductive Step (line : List α) : List α → List α → List α → Prop where
  | joins (more : List α) : Step line [] [] (line ++ more)
  | serves {first : α} {rest : List α} (front : line = first :: rest) : Step line [first] [] rest
  | leaves (who : α) : Step line [] [who] (line.filter (· ≠ who))

/-- Those who stand in front of `who`. -/
def ahead (who : α) (line : List α) : List α := line.takeWhile (· ≠ who)

variable {who other first : α} {line next served gone : List α}

theorem ahead_append (waits : who ∈ line) (more : List α) : ahead who (line ++ more) = ahead who line := by
  induction line with
  | nil => cases waits
  | cons first rest ih =>
      by_cases same : first = who
      · simp [ahead, same]
      · have behind : who ∈ rest := by simpa [Ne.symm same] using waits
        simpa [ahead, same] using ih behind

theorem ahead_cons (different : first ≠ who) : ahead who (first :: line) = first :: ahead who line := by
  simp [ahead, different]

theorem ahead_filter (different : who ≠ other) :
    ahead who (line.filter (· ≠ other)) = (ahead who line).filter (· ≠ other) := by
  induction line with
  | nil => rfl
  | cons first rest ih =>
      by_cases leaver : first = other
      · subst leaver
        rw [ahead_cons (Ne.symm different), List.filter_cons_of_neg (by simp), ih,
          List.filter_cons_of_neg (by simp)]
      · by_cases same : first = who
        · simp [ahead, same, different]
        · rw [ahead_cons same, List.filter_cons_of_pos (by simpa using leaver),
            List.filter_cons_of_pos (by simpa using leaver), ahead_cons same, ih]

/-- Who is neither served nor gone still waits, and whoever is served meanwhile stood
in front and does not stand there any more. -/
theorem Step.ahead (step : Step line served gone next) (waits : who ∈ line) (unserved : who ∉ served)
    (stays : who ∉ gone) :
    who ∈ next ∧ ∀ other, served.count other + (Line.ahead who next).count other ≤ (Line.ahead who line).count other := by
  cases step with
  | joins more =>
      refine ⟨List.mem_append_left more waits, ?_⟩
      intro other
      simp [ahead_append waits]
  | @serves first rest front =>
      subst front
      have different : first ≠ who := fun same => unserved (by simp [same])
      refine ⟨by simpa [Ne.symm different] using waits, ?_⟩
      intro other
      simp only [ahead_cons different, List.count_cons, List.count_nil]
      omega
  | leaves leaver =>
      have different : who ≠ leaver := fun same => stays (by simp [same])
      refine ⟨by simp [waits, different], ?_⟩
      intro other
      rw [ahead_filter different, List.count_nil, Nat.zero_add]
      exact List.filter_sublist.count_le other

/-- In a line without duplicates nobody stands twice in front of anybody. -/
theorem count_ahead_le (nodup : line.Nodup) : (Line.ahead who line).count other ≤ 1 :=
  List.nodup_iff_count_le_one.mp (nodup.sublist (List.takeWhile_sublist _)) other

end Flowd.Line
