import Flowd.Component.Droppers

namespace Flowd

/-! What HTMLStrip makes of a document of text runs and tags. -/

namespace HTMLStrip

/-- Any bytes but `<` and `>`. -/
structure TextRun where
  bytes : List UInt8
  noOpening : 60 ∉ bytes
  noClosing : 62 ∉ bytes

/-- Double quotes are balanced, `<` and `>` stand between a pair of them. -/
def wellQuoted : Bool → List UInt8 → Bool
  | insideQuotes, [] => !insideQuotes
  | insideQuotes, byte :: rest =>
      if byte = 34 then wellQuoted (!insideQuotes) rest
      else if byte = 60 ∨ byte = 62 then insideQuotes && wellQuoted insideQuotes rest
      else wellQuoted insideQuotes rest

/-- What stands between the `<` and the `>` of a tag. -/
structure Tag where
  inner : List UInt8
  quoted : wellQuoted false inner = true

inductive Segment where
  | text (run : TextRun)
  | tag (markup : Tag)

namespace Segment

def bytes : Segment → List UInt8
  | .text run => run.bytes
  | .tag markup => 60 :: markup.inner ++ [62]

def content : Segment → List UInt8
  | .text run => run.bytes
  | .tag _ => []

end Segment

abbrev Document := List Segment

def Document.bytes (document : Document) : List UInt8 := document.flatMap Segment.bytes

def Document.content (document : Document) : List UInt8 := document.flatMap Segment.content

/-- Neither `<` nor `>` is content. -/
theorem Document.content_plain (document : Document) : 60 ∉ document.content ∧ 62 ∉ document.content := by
  induction document with
  | nil => exact ⟨List.not_mem_nil, List.not_mem_nil⟩
  | cons segment rest ih =>
      simp only [Document.content, List.flatMap_cons, List.mem_append, not_or] at ih ⊢
      cases segment with
      | text run => exact ⟨⟨run.noOpening, ih.1⟩, run.noClosing, ih.2⟩
      | tag markup => exact ⟨⟨List.not_mem_nil, ih.1⟩, List.not_mem_nil, ih.2⟩

/-- Outside tags and quotes, a text without quotes passes. -/
theorem removeTags_text (run later : List UInt8) (noOpening : 60 ∉ run) (noClosing : 62 ∉ run)
    (noQuote : 34 ∉ run) :
    removeTags false false (run ++ later) = run ++ removeTags false false later := by
  induction run with
  | nil => rfl
  | cons byte rest ih =>
      simp only [List.mem_cons, not_or] at noOpening noClosing noQuote
      have passes := ih noOpening.2 noClosing.2 noQuote.2
      simp [removeTags, Ne.symm noOpening.1, Ne.symm noClosing.1, Ne.symm noQuote.1, passes]

/-- The scanner follows the quotes of a tag, so only the last `>` closes it. -/
theorem removeTags_tag (insideQuotes : Bool) (inner later : List UInt8)
    (quoted : wellQuoted insideQuotes inner = true) :
    removeTags true insideQuotes (inner ++ 62 :: later) = removeTags false false later := by
  induction inner generalizing insideQuotes with
  | nil =>
      have closed : insideQuotes = false := by simpa [wellQuoted] using quoted
      simp [removeTags, closed]
  | cons byte rest ih =>
      rw [wellQuoted] at quoted
      rw [List.cons_append, removeTags]
      by_cases quote : byte = 34
      · rw [if_pos quote] at quoted
        simp [quote, ih (!insideQuotes) quoted]
      · rw [if_neg quote] at quoted
        by_cases bracket : byte = 60 ∨ byte = 62
        · rw [if_pos bracket, Bool.and_eq_true] at quoted
          have passes := ih insideQuotes quoted.2
          rcases bracket with opening | closing
          · simp [opening, passes]
          · simp [closing, quoted.1, ← passes]
        · rw [if_neg bracket] at quoted
          rw [not_or] at bracket
          simp [quote, bracket.1, bracket.2, ih insideQuotes quoted]

/-- While no text has a quote, the scanner is outside tags and quotes after each segment. -/
theorem removeTags_document (document : Document) (later : List UInt8) (noQuote : 34 ∉ document.content) :
    removeTags false false (document.bytes ++ later) = document.content ++ removeTags false false later := by
  induction document with
  | nil => rfl
  | cons segment rest ih =>
      simp only [Document.content, List.flatMap_cons, List.mem_append, not_or] at noQuote
      simp only [Document.bytes, Document.content, List.flatMap_cons, List.append_assoc]
      have passes := ih noQuote.2
      cases segment with
      | text run =>
          rw [Segment.bytes, removeTags_text _ _ run.noOpening run.noClosing noQuote.1]
          exact congrArg (run.bytes ++ ·) passes
      | tag markup =>
          have closes := removeTags_tag false markup.inner (Document.bytes rest ++ later) markup.quoted
          simp only [Segment.bytes, Segment.content, List.append_assoc, List.cons_append, List.nil_append,
            removeTags, if_true]
          exact closes.trans passes

/-- No quote is left. -/
theorem quote_removed (insideTag insideQuotes : Bool) (html : List UInt8) :
    34 ∉ removeTags insideTag insideQuotes html := by
  induction html generalizing insideTag insideQuotes with
  | nil => exact List.not_mem_nil
  | cons byte rest ih =>
      rw [removeTags]
      split
      · exact ih _ _
      · split
        · exact ih _ _
        · split
          · exact ih _ _
          · next notQuote =>
              split
              · rw [List.mem_cons, not_or]
                exact ⟨Ne.symm notQuote, ih _ _⟩
              · exact ih _ _

/-- HTMLStrip removes the tags of a document and nothing else, so that a document may be
stripped in parts and twice, exactly where no text run has a double quote. -/
theorem strips_iff (document : Document) :
    (removeHtmlTags document.bytes = document.content ∧
      (∀ later : Document, removeHtmlTags (document ++ later).bytes =
        removeHtmlTags document.bytes ++ removeHtmlTags later.bytes) ∧
      removeHtmlTags (removeHtmlTags document.bytes) = removeHtmlTags document.bytes) ↔
    34 ∉ document.content := by
  constructor
  · rintro ⟨exactly, -, -⟩
    rw [← exactly]
    exact quote_removed false false document.bytes
  · intro noQuote
    have alone : removeHtmlTags document.bytes = document.content := by
      simpa [removeHtmlTags, removeTags] using removeTags_document document [] noQuote
    have joined (later : Document) : (document ++ later).bytes = document.bytes ++ later.bytes :=
      List.flatMap_append
    have plain := document.content_plain
    have kept : removeHtmlTags document.content = document.content := by
      simpa [removeHtmlTags, removeTags] using
        removeTags_text document.content [] plain.1 plain.2 noQuote
    refine ⟨alone, fun later => ?_, by rw [alone, kept]⟩
    rw [joined, alone]
    exact removeTags_document document later.bytes noQuote

/-- The inch mark of `7"<b>x` is taken for the start of an attribute value. -/
theorem loses_quotes :
    ¬ ∀ document : Document, removeHtmlTags document.bytes = document.content := by
  intro strips
  have wrong := strips [.text ⟨[55, 34], by decide, by decide⟩, .tag ⟨[98], by decide⟩,
    .text ⟨[120], by decide, by decide⟩]
  revert wrong
  decide +kernel

end HTMLStrip

end Flowd
