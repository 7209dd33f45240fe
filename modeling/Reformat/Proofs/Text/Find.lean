import Reformat.Text.Find

/-
  Where the first occurrence of a mark is.

  The mark behind a text is its first occurrence unless there
  is one in the text, or one that begins in the text and ends
  in the mark.  For the second the text has to end in a half
  of the mark whose other half the mark begins with too.

  Key definitions include:
    * `Text.Halves`
    * `Text.Opens`

  Main statements:
    * `Text.splitOnce?_eq_some_iff`
    * `Text.infix_append_dropLast_iff`
    * `Text.splitOnce?_of_half`
-/

------------------------------------------------------------
-- First Occurrences
------------------------------------------------------------

namespace Reformat

namespace Text

variable {mark : List Char}

/- A mark is longer than what is left of it without its last
  character. -/
theorem not_infix_dropLast (hMark : mark ≠ []) :
    ¬ mark <:+: mark.dropLast := by
  intro hIn
  have hPositive := List.length_pos_iff.mpr hMark
  have hLength := hIn.length_le
  rw [List.length_dropLast] at hLength
  omega

/- Whether a text begins with a mark does not depend on what
  stands behind as many characters as the mark has. -/
theorem prefix_append_mark_iff
    (hMark : mark ≠ [])
    (c : Char)
    (front after : List Char) :
    mark <+: c :: (front ++ mark ++ after) ↔
      mark <+: c :: (front ++ mark.dropLast) := by
  have hShort :
      c :: (front ++ mark.dropLast) <+:
        c :: (front ++ mark ++ after) := by
    rw [List.append_assoc, List.prefix_cons_inj,
      List.prefix_append_right_inj]
    exact
      (List.dropLast_prefix mark).trans
        (List.prefix_append mark after)
  constructor
  · intro h
    apply List.prefix_of_prefix_length_le h hShort
    have hPositive := List.length_pos_iff.mpr hMark
    simp only [List.length_cons, List.length_append,
      List.length_dropLast]
    omega
  · intro h
    exact h.trans hShort

/- The search finds the mark behind a text just when there is
  none before its last character. -/
theorem splitOnceFrom_append_iff
    (hMark : mark ≠ [])
    (before front after : List Char) :
    splitOnceFrom mark before (front ++ mark ++ after) =
        some (before.reverse ++ front, after) ↔
      ¬ mark <:+: front ++ mark.dropLast := by
  induction front generalizing before with
  | nil =>
      have hHere :
          afterChars? mark ([] ++ mark ++ after) =
            some after :=
        (afterChars?_eq_some_iff _ _ _).mpr (by simp)
      have hNot := not_infix_dropLast hMark
      unfold splitOnceFrom
      rw [hHere]
      simp [hNot]
  | cons c front ih =>
      have hPrefix :=
        prefix_append_mark_iff hMark c front after
      simp only [List.cons_append, List.infix_cons_iff,
        ← hPrefix]
      unfold splitOnceFrom
      cases hHere :
          afterChars? mark (c :: (front ++ mark ++ after)) with
      | some rest =>
          have hBegins :
              mark <+: c :: (front ++ mark ++ after) :=
            ⟨rest,
              ((afterChars?_eq_some_iff _ _ _).mp hHere).symm⟩
          refine iff_of_false ?_ (not_not_intro ?_)
          · simp
          · exact Or.inl hBegins
      | none =>
          have hNot :
              ¬ mark <+: c :: (front ++ mark ++ after) := by
            rintro ⟨rest, hRest⟩
            have hSome :=
              (afterChars?_eq_some_iff _ _ _).mpr hRest.symm
            rw [hHere] at hSome
            cases hSome
          rw [or_iff_right hNot, ← ih (c :: before),
            List.reverse_cons, List.append_cons]

/- A split is at the first occurrence of the mark. -/
theorem splitOnce?_eq_some_iff
    (hMark : mark ≠ [])
    (cs front after : List Char) :
    splitOnce? mark cs = some (front, after) ↔
      cs = front ++ mark ++ after ∧
        ¬ mark <:+: front ++ mark.dropLast := by
  have hAppend :=
    splitOnceFrom_append_iff hMark [] front after
  constructor
  · intro h
    have hText := splitOnce?_eq_some h
    rw [hText] at h
    exact ⟨hText, hAppend.mp h⟩
  · rintro ⟨rfl, hFirst⟩
    exact hAppend.mpr hFirst

end Text

end Reformat

------------------------------------------------------------
-- Halves
------------------------------------------------------------

namespace Reformat

namespace Text

variable {mark half border : List Char}

/- The parts of a mark whose second part it begins with too,
  so that the mark can complete what stands before it. -/
structure Halves (mark half border : List Char) : Prop where
  append : half ++ border = mark
  half_ne : half ≠ []
  border_ne : border ≠ []
  begins : border <+: mark

/- Being the halves of a mark is decidable. -/
instance
    (mark half border : List Char) :
    Decidable (Halves mark half border) :=
  decidable_of_iff
    (half ++ border = mark ∧
      half ≠ [] ∧ border ≠ [] ∧ border <+: mark)
    ⟨fun ⟨hAppend, hHalf, hBorder, hBegins⟩ =>
        ⟨hAppend, hHalf, hBorder, hBegins⟩,
      fun h => ⟨h.append, h.half_ne, h.border_ne, h.begins⟩⟩

/- A text whose end and the mark behind it make another
  mark. -/
def Opens (mark cs : List Char) : Prop :=
  ∃ half border, Halves mark half border ∧ half <:+ cs

/- A mark with two halves is not empty. -/
theorem Halves.ne_nil
    (h : Halves mark half border) :
    mark ≠ [] := by
  rw [← h.append]
  exact List.append_ne_nil_of_left_ne_nil h.half_ne _

/- A border is shorter than its mark. -/
theorem Halves.prefix_dropLast
    (h : Halves mark half border) :
    border <+: mark.dropLast := by
  have hHalf := List.length_pos_iff.mpr h.half_ne
  have hLength := congrArg List.length h.append
  rw [List.length_append] at hLength
  apply
    List.prefix_of_prefix_length_le h.begins
      (List.dropLast_prefix mark)
  rw [List.length_dropLast]
  omega

/- What stands before the last character of a mark behind a
  text has a mark in it just when the text has or opens one. -/
theorem infix_append_dropLast_iff
    (hMark : mark ≠ [])
    (cs : List Char) :
    mark <:+: cs ++ mark.dropLast ↔
      mark <:+: cs ∨ Opens mark cs := by
  have hNot := not_infix_dropLast hMark
  rw [List.infix_append_iff]
  constructor
  · rintro (hIn | hIn | ⟨half, border, hMade, hEnd, hBegin⟩)
    · exact Or.inl hIn
    · exact absurd hIn hNot
    · cases hBorder : border with
      | nil =>
          rw [hBorder, List.append_nil] at hMade
          exact Or.inl (hMade ▸ hEnd.isInfix)
      | cons c cs =>
          have hHalf : half ≠ [] := by
            rintro rfl
            rw [List.nil_append] at hMade
            rw [← hMade] at hBegin
            exact hNot hBegin.isInfix
          refine Or.inr ⟨half, border, ?_, hEnd⟩
          exact
            { append := hMade.symm
              half_ne := hHalf
              border_ne := by simp [hBorder]
              begins :=
                hBegin.trans (List.dropLast_prefix mark) }
  · rintro (hIn | ⟨half, border, hHalves, hEnd⟩)
    · exact Or.inl hIn
    · exact
        Or.inr
          (Or.inr
            ⟨half, border, hHalves.append.symm, hEnd,
              hHalves.prefix_dropLast⟩)

/-
  What stands before a half of a mark opens none itself, if no
  border is longer than the half: the half would complete it.
-/
theorem not_infix_before_half
    {front : List Char}
    (hHalves : Halves mark half border)
    (hShort :
      ∀ half' border',
        Halves mark half' border' →
          border'.length ≤ half.length)
    (hClean : ¬ mark <:+: front ++ half) :
    ¬ mark <:+: front ++ mark.dropLast := by
  rw [infix_append_dropLast_iff hHalves.ne_nil]
  rintro (hIn | ⟨half', border', hHalves', hEnd⟩)
  · exact
      hClean (hIn.trans (List.prefix_append _ _).isInfix)
  · have hBegins : border' <+: half :=
      List.prefix_of_prefix_length_le hHalves'.begins
        ⟨border, hHalves.append⟩
        (hShort half' border' hHalves')
    rcases hEnd with ⟨lead, rfl⟩
    rcases hBegins with ⟨rest, rfl⟩
    apply hClean
    refine ⟨lead, rest, ?_⟩
    simp only [← hHalves'.append, List.append_assoc]

/- The half of a mark that a text ends in takes the beginning
  of the mark behind it. -/
theorem splitOnce?_of_half
    {front tail : List Char}
    (hHalves : Halves mark half border)
    (hTail : border ++ tail = mark)
    (hShort :
      ∀ half' border',
        Halves mark half' border' →
          border'.length ≤ half.length)
    (hClean : ¬ mark <:+: front ++ half)
    (after : List Char) :
    splitOnce? mark (front ++ half ++ mark ++ after) =
      some (front, tail ++ after) := by
  apply (splitOnce?_eq_some_iff hHalves.ne_nil _ _ _).mpr
  refine
    ⟨?_, not_infix_before_half hHalves hShort hClean⟩
  calc
    front ++ half ++ mark ++ after =
        front ++ half ++ (border ++ tail) ++ after := by
      rw [hTail]
    _ = front ++ (half ++ border) ++ (tail ++ after) := by
      simp only [List.append_assoc]
    _ = front ++ mark ++ (tail ++ after) := by
      rw [hHalves.append]

/-
  A text that has the same in front of it as another has
  behind it: it is at the end of the one and at the start of
  the other, unless it ends in the one.
-/
theorem exists_of_append_eq_append
    {text tail : List Char}
    (hSame : tail ++ text = text ++ half)
    (hNot : ¬ half <:+ text) :
    ∃ rest, half = rest ++ text ∧ tail = text ++ rest := by
  have hEnd : text <:+ text ++ half := ⟨tail, hSame⟩
  have hHalfEnd : half <:+ text ++ half :=
    List.suffix_append text half
  have hShort : text.length ≤ half.length := by
    apply Nat.le_of_not_lt
    intro hLong
    apply hNot
    exact
      List.suffix_of_suffix_length_le hHalfEnd hEnd
        (Nat.le_of_lt hLong)
  rcases
      List.suffix_of_suffix_length_le hEnd hHalfEnd hShort
    with ⟨rest, rfl⟩
  refine ⟨rest, rfl, ?_⟩
  rw [← List.append_assoc] at hSame
  exact (List.append_inj' hSame rfl).1

end Text

end Reformat
