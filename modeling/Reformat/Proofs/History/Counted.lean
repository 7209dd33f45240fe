import Reformat.Proofs.Text.Lines

/-
  Where the spans of any diff lie, if it has any.

  A diff may name lines that its text does not have, and more
  of them than a word can count.  Reading it breaks down at a
  hunk whose last line is followed by a number that is no word.
  Without such a hunk it has a span for each, and the spans lie
  within the text, whatever lines they name.

  Key definitions include:
    * `Hunk.Overflows`
    * `Hunk.span`

  Main statements:
    * `Text.le_size_of_mem_lineEnds`
    * `Hunk.overflows_iff`
    * `Hunk.spans?_eq_some_iff`
    * `Hunk.spans?_eq_none_iff`
    * `Hunk.spans?_within_or_overflows`
    * `Hunk.spans?_overflowing`
-/

------------------------------------------------------------
-- Offsets Of Lines
------------------------------------------------------------

namespace Reformat

namespace Text

/- No line ends behind the text. -/
theorem le_size_of_mem_lineEnds
    {cs : List Char}
    {p : Nat}
    (hMem : p ∈ (lineEnds cs).toList) :
    p ≤ size (String.ofList cs) := by
  induction cs generalizing p with
  | nil =>
      simp [lineEnds] at hMem
  | cons c cs ih =>
      rw [lineEnds_cons, List.mem_append, List.mem_map]
        at hMem
      rw [size_ofList_cons]
      rcases hMem with hHere | ⟨q, hq, rfl⟩
      · split at hHere
        · rw [List.mem_singleton.mp hHere]
          exact Nat.le_add_right _ _
        · cases hHere
      · exact Nat.add_le_add_left (ih hq) _

end Text

end Reformat

------------------------------------------------------------
-- Numbers Of Lines
------------------------------------------------------------

namespace Reformat

namespace Hunk

/- A number that is read is a word. -/
theorem lt_limit_of_number?
    {digits : List Char}
    {n : Nat}
    (hRead : number? digits = some n) :
    n < Word.limit := by
  unfold number? at hRead
  cases hDigits : Text.Natural.read digits with
  | error fault =>
      rw [hDigits] at hRead
      cases hRead
  | ok value =>
      rw [hDigits] at hRead
      cases hRead
      exact Text.Natural.read_lt hDigits

/- The numbers of a header are words. -/
theorem lt_limit_of_ofLine?
    {line : List Char}
    {h : Hunk}
    (hRead : ofLine? line = some h) :
    h.start < Word.limit ∧ h.count < Word.limit := by
  rcases Option.bind_eq_some_iff.mp hRead with
    ⟨⟨startDigits, countDigits?⟩, -, hRead⟩
  rcases Option.bind_eq_some_iff.mp hRead with
    ⟨start, hStart, hRead⟩
  cases countDigits? with
  | none =>
      cases hRead
      have hOne : 1 < Word.limit := by decide
      exact ⟨lt_limit_of_number? hStart, hOne⟩
  | some digits =>
      rcases Option.bind_eq_some_iff.mp hRead with
        ⟨count, hCount, hRead⟩
      cases hRead
      exact
        ⟨lt_limit_of_number? hStart,
          lt_limit_of_number? hCount⟩

/- The number behind the last line is no word. -/
def Overflows (h : Hunk) : Prop :=
  Word.limit ≤ h.firstLine + h.count

/- Overflowing is decidable. -/
instance (h : Hunk) : Decidable h.Overflows := by
  unfold Overflows
  infer_instance

/- Only a hunk with lines, too many of them, overflows. -/
theorem overflows_iff
    {h : Hunk}
    (hStart : h.start < Word.limit)
    (hCount : h.count < Word.limit) :
    h.Overflows ↔
      0 < h.count ∧ Word.limit < h.start + h.count := by
  unfold Overflows firstLine
  split
  · omega
  · omega

end Hunk

end Reformat

------------------------------------------------------------
-- Spans
------------------------------------------------------------

namespace Reformat

namespace Hunk

variable (text : String)

/- The lines of a hunk, as far as a text has them. -/
def span (h : Hunk) : Span :=
  ⟨Text.offsetOfLine text h.firstLine,
    Text.offsetOfLine text (h.firstLine + h.count)⟩

/- A hunk that overflows has no span. -/
theorem spanFrom?_eq (h : Hunk) :
    spanFrom? text (Text.lineStarts text) h =
      if h.Overflows then none else some (span text h) := by
  unfold spanFrom? Word.add?
  by_cases hOver : h.Overflows
  · rw [if_pos hOver, if_neg (Nat.not_lt_of_le hOver)]
    rfl
  · rw [if_neg hOver, if_pos (Nat.lt_of_not_le hOver)]
    simp only [Option.bind_eq_bind, Option.bind_some,
      Text.lineStart_lineStarts]
    rfl

/- Some hunks have a span each when none overflows. -/
theorem mapM_spanFrom? (hs : List Hunk) :
    hs.mapM (spanFrom? text (Text.lineStarts text)) =
      if ∃ h ∈ hs, h.Overflows then none
      else some (hs.map (span text)) := by
  induction hs with
  | nil => rfl
  | cons h hs ih =>
      rw [List.mapM_cons, spanFrom?_eq, ih]
      by_cases hFirst : h.Overflows
      · simp [hFirst]
      · by_cases hRest : ∃ h ∈ hs, h.Overflows
        · simp [hFirst, hRest]
        · simp [hFirst, hRest]

variable {text}
variable {diff : String}

/- A diff is read unless one of its hunks overflows. -/
theorem spans?_eq_none_iff :
    spans? diff text = none ↔
      ∃ h ∈ ofDiff diff, h.Overflows := by
  unfold spans?
  rw [mapM_spanFrom?]
  simp

/- It then has the spans of its hunks, in order. -/
theorem spans?_eq_some_iff {rs : List Span} :
    spans? diff text = some rs ↔
      (∀ h ∈ ofDiff diff, ¬ h.Overflows) ∧
        rs = (ofDiff diff).map (span text) := by
  unfold spans?
  rw [mapM_spanFrom?]
  by_cases hSome : ∃ h ∈ ofDiff diff, h.Overflows
  · rw [if_pos hSome]
    rcases hSome with ⟨h, hMem, hOver⟩
    refine iff_of_false (by simp) ?_
    rintro ⟨hNone, -⟩
    exact hNone h hMem hOver
  · rw [if_neg hSome, Option.some.injEq]
    have hNone : ∀ h ∈ ofDiff diff, ¬ h.Overflows :=
      fun h hMem hOver => hSome ⟨h, hMem, hOver⟩
    exact
      ⟨fun hSame => ⟨hNone, hSame.symm⟩,
        fun hAll => hAll.2.symm⟩

/- The lines of a hunk lie within the text. -/
theorem within_span (h : Hunk) :
    (span text h).Within (Text.size text) :=
  ⟨Text.offsetOfLine_mono text (Nat.le_add_right _ _),
    (Text.isBoundary_offsetOfLine text _).le_size⟩

/-
  The line table of a text has no number past its end.  A diff
  is read unless one of its hunks overflows, which it does just
  when it has lines and its start and count together pass the
  limit.  A diff that is read has a span for each of its hunks.
  A span lies within the text, its ends in order, and both are
  boundaries of the text.
-/
theorem spans?_within_or_overflows (diff text : String) :
    (∀ p ∈ (Text.lineEnds text.toList).toList,
        p ≤ Text.size text) ∧
      (spans? diff text = none ↔
        ∃ h ∈ ofDiff diff, h.Overflows) ∧
      (∀ h ∈ ofDiff diff,
        (h.Overflows ↔
          0 < h.count ∧ Word.limit < h.start + h.count)) ∧
      ∀ rs,
        spans? diff text = some rs →
          rs.length = (ofDiff diff).length ∧
            ∀ r ∈ rs,
              r.Within (Text.size text) ∧
                Text.IsBoundary text r.start ∧
                  Text.IsBoundary text r.stop := by
  refine ⟨?_, spans?_eq_none_iff, ?_, ?_⟩
  · intro p hp
    have hLe := Text.le_size_of_mem_lineEnds hp
    rw [String.ofList_toList] at hLe
    exact hLe
  · intro h hMem
    rcases List.mem_filterMap.mp hMem with ⟨line, -, hRead⟩
    rcases lt_limit_of_ofLine? hRead with ⟨hStart, hCount⟩
    exact overflows_iff hStart hCount
  · intro rs hSpans
    rcases spans?_eq_some_iff.mp hSpans with ⟨-, rfl⟩
    refine ⟨List.length_map _, ?_⟩
    intro r hr
    rcases List.mem_map.mp hr with ⟨h, -, rfl⟩
    exact
      ⟨within_span h, Text.isBoundary_offsetOfLine text _,
        Text.isBoundary_offsetOfLine text _⟩

/-
  A header whose lines go on behind the last one that a word
  can count, both of its numbers being words: the sum is none.
-/
theorem spans?_overflowing :
    let diff := "@@ -1 +18446744073709551615,2 @@"
    ofDiff diff = [⟨18446744073709551615, 2⟩] ∧
      18446744073709551615 < Word.limit ∧
        spans? diff "int a;\n" = none := by
  decide +kernel

end Hunk

end Reformat
