import Mathlib.Data.List.Forall2
import Reformat.Proofs.History.Counted
import Reformat.Proofs.History.Diff

/-
  The spans that the hunks of a diff stand for.

  A hunk names lines of the new text, or a gap between two of
  them when nothing but old lines is left in it.  Its span is
  that of the named lines, as far as the text has them.

  Key definitions include:
    * `Hunk.Names`
    * `Hunk.Precedes`
    * `Hunk.Selects`

  Main statements:
    * `Hunk.selects_span`
    * `Hunk.exists_names_iff`
    * `Hunk.spans_of_written`
-/

------------------------------------------------------------
-- Named Lines
------------------------------------------------------------

namespace Reformat

namespace Hunk

/- The lines of a hunk, where the first line is line one. -/
def Names
    (h : Hunk)
    (line : Nat) : Prop :=
  h.start ≤ line ∧ line < h.start + h.count

/- The last line of a hunk, or the line before its gap. -/
def lastLine (h : Hunk) : Nat :=
  if h.count = 0 then h.start else h.start + h.count - 1

/- A hunk before another, with no line in both. -/
def Precedes (a b : Hunk) : Prop :=
  if b.count = 0 then a.lastLine ≤ b.start
  else a.lastLine < b.start

/- A hunk with lines begins at a line that there is. -/
def StartsAtLine (h : Hunk) : Prop :=
  0 < h.count → 0 < h.start

/-
  What a hunk selects of a text: the lines that it names, or
  nothing just behind the line that its gap follows.
-/
structure Selects
    (text : String)
    (h : Hunk)
    (r : Span) : Prop where
  within : r.Within (Text.size text)
  start_boundary : Text.IsBoundary text r.start
  stop_boundary : Text.IsBoundary text r.stop
  start_of_lines :
    0 < h.count → 0 < h.start →
      r.start = Text.offsetOfLine text (h.start - 1)
  slice_of_lines :
    0 < h.count → 0 < h.start →
      Text.slice text r.start r.stop =
        Text.ofLines
          (((Text.lines text.toList).drop
              (h.start - 1)).take h.count)
  gap :
    h.count = 0 →
      r = Span.caret (Text.offsetOfLine text h.start)
  gap_at_end :
    h.count = 0 →
      (Text.lines text.toList).length ≤ h.start →
        r = Span.caret (Text.size text)

end Hunk

end Reformat

------------------------------------------------------------
-- One Hunk
------------------------------------------------------------

namespace Reformat

namespace Hunk

variable {text : String}
variable {h : Hunk}

/- Lines that can be counted do not overflow. -/
theorem not_overflows
    (hLimit : h.start + h.count < Word.limit) :
    ¬ h.Overflows := by
  unfold Overflows firstLine
  split <;> omega

/- A hunk's span is what it selects. -/
theorem selects_span : Selects text h (span text h) := by
  have hGap :
      h.count = 0 →
        span text h =
          Span.caret (Text.offsetOfLine text h.start) := by
    intro hNone
    simp [span, Span.caret, firstLine, hNone]
  exact
    { within := within_span h
      start_boundary := Text.isBoundary_offsetOfLine text _
      stop_boundary := Text.isBoundary_offsetOfLine text _
      start_of_lines := by
        intro hSome hStart
        rw [span, firstLine, if_neg (Nat.ne_of_gt hSome)]
      slice_of_lines := by
        intro hSome hStart
        rw [span, firstLine, if_neg (Nat.ne_of_gt hSome)]
        exact Text.slice_lines text _ _
      gap := hGap
      gap_at_end := by
        intro hNone hLast
        rw [hGap hNone, Text.offsetOfLine_of_length_le hLast] }

/- A hunk's span holds the positions on the named lines. -/
theorem exists_names_iff
    (hStart : h.StartsAtLine)
    (p : Nat) :
    (span text h).start ≤ p ∧ p < (span text h).stop ↔
      ∃ line, h.Names line ∧ Text.OnLine text line p := by
  have hNames :
      ∀ line,
        h.Names line ↔
          h.firstLine < line ∧
            line ≤ h.firstLine + h.count := by
    intro line
    unfold StartsAtLine at hStart
    unfold Names firstLine
    by_cases hNone : h.count = 0
    · rw [if_pos hNone]
      omega
    · rw [if_neg hNone]
      omega
  simp only [span, ← Text.exists_onLine_iff, hNames,
    and_assoc]

/- The span of an earlier hunk ends before that of a later. -/
theorem span_precedes
    {a b : Hunk}
    (hStart : a.StartsAtLine)
    (hPrecedes : Precedes a b) :
    (span text a).stop ≤ (span text b).start := by
  apply Text.offsetOfLine_mono
  have hStop : a.firstLine + a.count = a.lastLine := by
    unfold StartsAtLine at hStart
    unfold firstLine lastLine
    by_cases hNone : a.count = 0
    · rw [if_pos hNone, if_pos hNone, hNone, Nat.add_zero]
    · rw [if_neg hNone, if_neg hNone]
      omega
  rw [hStop]
  unfold Precedes at hPrecedes
  unfold firstLine
  by_cases hNone : b.count = 0
  · rw [if_pos hNone] at hPrecedes ⊢
    exact hPrecedes
  · rw [if_neg hNone] at hPrecedes ⊢
    exact Nat.le_sub_one_of_lt hPrecedes

end Hunk

end Reformat

------------------------------------------------------------
-- Diffs
------------------------------------------------------------

namespace Reformat

namespace Hunk

/-
  The diff is read, and its spans are one for each hunk, in
  order; each is what its hunk selects.  When the hunks ascend so do the
  spans, and together they hold just the bytes of the lines
  that are named.
-/
theorem spans_of_written
    {diff : String}
    {hs : List Hunk}
    (text : String)
    (hWritten : DiffWritten diff hs)
    (hLimit : ∀ h ∈ hs, h.start + h.count < Word.limit) :
    ∃ rs,
      spans? diff text = some rs ∧
        List.Forall₂ (Selects text) hs rs ∧
          ((∀ h ∈ hs, h.StartsAtLine) →
            (hs.Pairwise Precedes →
                rs.Pairwise fun q r => q.stop ≤ r.start) ∧
              ∀ p,
                (∃ r ∈ rs, r.start ≤ p ∧ p < r.stop) ↔
                  ∃ h ∈ hs, ∃ line,
                    h.Names line ∧
                      Text.OnLine text line p) := by
  have hRead : ofDiff diff = hs :=
    ofDiff_of_written hWritten hLimit
  refine ⟨hs.map (span text), ?_, ?_, ?_⟩
  · rw [spans?_eq_some_iff, hRead]
    exact ⟨fun h hMem => not_overflows (hLimit h hMem), rfl⟩
  · rw [List.forall₂_map_right_iff, List.forall₂_same]
    exact fun h _ => selects_span
  intro hStart
  constructor
  · intro hPairwise
    rw [List.pairwise_map]
    refine hPairwise.imp_of_mem ?_
    intro a b ha hb hPrecedes
    exact span_precedes (hStart a ha) hPrecedes
  · intro p
    constructor
    · rintro ⟨r, hr, hHolds⟩
      rcases List.mem_map.mp hr with ⟨h, hMem, rfl⟩
      exact
        ⟨h, hMem,
          (exists_names_iff (hStart h hMem) p).mp hHolds⟩
    · rintro ⟨h, hMem, hNamed⟩
      exact
        ⟨_, List.mem_map_of_mem hMem,
          (exists_names_iff (hStart h hMem) p).mpr hNamed⟩

/-
  A line that imitates a header, a gap, and more lines than
  there are left, in a text without its last line feed.
-/
theorem spans_of_written_sample :
    let diff :=
      "--- a/x\n@@ -1,0 +1 @@ f()\n+@@ -1 +9 @@\n" ++
        "@@ -3 +2,0 @@\n-x\n\\ No newline\n" ++
          "@@ -7 +3,4 @@\n+c"
    let text := "a\né\nc"
    let hs : List Hunk := [⟨1, 1⟩, ⟨2, 0⟩, ⟨3, 4⟩]
    DiffWritten diff hs ∧
      (∀ h ∈ hs, h.start + h.count < Word.limit) ∧
        (∀ h ∈ hs, h.StartsAtLine) ∧
          hs.Pairwise Precedes ∧
            spans? diff text =
                some [⟨0, 2⟩, ⟨5, 5⟩, ⟨5, 6⟩] ∧
              List.Forall₂ (Selects text) hs
                  [⟨0, 2⟩, ⟨5, 5⟩, ⟨5, 6⟩] ∧
                Text.slice text 5 6 = "c" := by
  intro diff text hs
  have hNumeral :
      ∀ c, c.isDigit = true →
        NumeralWritten [c] (Nat.ofDigitChars 10 [c] 0) := by
    intro c hc
    exact .intro (List.cons_ne_nil c []) (by simpa using hc)
  have hFirst :
      HeaderWritten "@@ -1,0 +1 @@ f()".toList ⟨1, 1⟩ :=
    @HeaderWritten.intro ['1'] [',', '0'] ['1'] [] 1 0
      ⟨1, 1⟩ (hNumeral '1' rfl)
      (.given (hNumeral '0' rfl)) (hNumeral '1' rfl)
      .omitted " f()".toList
  have hSecond :
      HeaderWritten "@@ -3 +2,0 @@".toList ⟨2, 0⟩ :=
    @HeaderWritten.intro ['3'] [] ['2'] [',', '0'] 3 1
      ⟨2, 0⟩ (hNumeral '3' rfl) .omitted
      (hNumeral '2' rfl) (.given (hNumeral '0' rfl)) []
  have hThird :
      HeaderWritten "@@ -7 +3,4 @@".toList ⟨3, 4⟩ :=
    @HeaderWritten.intro ['7'] [] ['3'] [',', '4'] 7 1
      ⟨3, 4⟩ (hNumeral '7' rfl) .omitted
      (hNumeral '3' rfl) (.given (hNumeral '4' rfl)) []
  have hBelow :
      HunksWritten
        ("@@ -1,0 +1 @@ f()".toList ::
          (["+@@ -1 +9 @@".toList] ++
            ("@@ -3 +2,0 @@".toList ::
              (["-x".toList, "\\ No newline".toList] ++
                ("@@ -7 +3,4 @@".toList ::
                  (["+c".toList] ++ []))))))
        hs := by
    refine
      .cons hFirst ?_
        (.cons hSecond ?_ (.cons hThird ?_ .nil))
    · decide
    · decide
    · decide
  have hWritten : DiffWritten diff hs := by
    refine
      @DiffWritten.intro diff ["--- a/x".toList] _ hs ?_
        hBelow ?_ ?_
    · decide
    · decide
    · exact ⟨['\n'], by decide, by decide +kernel⟩
  have hLimit :
      ∀ h ∈ hs, h.start + h.count < Word.limit := by
    decide
  have hStart : ∀ h ∈ hs, h.StartsAtLine := by
    unfold StartsAtLine
    decide
  have hPairwise : hs.Pairwise Precedes := by
    unfold Precedes
    decide
  have hSpans :
      spans? diff text = some [⟨0, 2⟩, ⟨5, 5⟩, ⟨5, 6⟩] := by
    decide +kernel
  rcases spans_of_written text hWritten hLimit with
    ⟨rs, hRead, hSelects, -⟩
  rw [hSpans] at hRead
  cases hRead
  exact
    ⟨hWritten, hLimit, hStart, hPairwise, hSpans, hSelects,
      by decide +kernel⟩

end Hunk

end Reformat
