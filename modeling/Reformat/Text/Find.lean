import Reformat.Text.Affix

/-
  Finding a mark in a text.

  Key definitions include:
    * `Text.splitOnce?`
-/

------------------------------------------------------------
-- First Occurrences
------------------------------------------------------------

namespace Reformat

namespace Text

/-
  The text before the first occurrence of a mark and the text
  after it; `before` holds, in reverse, what was passed.
-/
def splitOnceFrom
    (mark before : List Char)
    (cs : List Char) :
    Option (List Char × List Char) :=
  match afterChars? mark cs with
  | some after => some (before.reverse, after)
  | none =>
      match cs with
      | [] => none
      | c :: cs => splitOnceFrom mark (c :: before) cs

/- The text before a mark's first occurrence and after it. -/
def splitOnce?
    (mark cs : List Char) :
    Option (List Char × List Char) :=
  splitOnceFrom mark [] cs

/- A split gives the text with the mark in the middle. -/
theorem splitOnceFrom_eq_some
    {mark before cs front after : List Char}
    (h : splitOnceFrom mark before cs =
      some (front, after)) :
    before.reverse ++ cs = front ++ mark ++ after := by
  induction cs generalizing before with
  | nil =>
      unfold splitOnceFrom at h
      split at h
      · next hAfter =>
        simp only [Option.some.injEq, Prod.mk.injEq] at h
        rw [(afterChars?_eq_some_iff _ _ _).mp hAfter]
        simp [← h.1, ← h.2]
      · simp at h
  | cons c cs ih =>
      unfold splitOnceFrom at h
      split at h
      · next hAfter =>
        simp only [Option.some.injEq, Prod.mk.injEq] at h
        rw [(afterChars?_eq_some_iff _ _ _).mp hAfter]
        simp [← h.1, ← h.2]
      · have ih := ih h
        simpa using ih

/- A split gives the text with the mark in the middle. -/
theorem splitOnce?_eq_some
    {mark cs front after : List Char}
    (h : splitOnce? mark cs = some (front, after)) :
    cs = front ++ mark ++ after := by
  simpa using splitOnceFrom_eq_some h

/- A mark that stands in a text is found. -/
theorem isSome_splitOnceFrom
    (mark before front after : List Char) :
    (splitOnceFrom mark before
        (front ++ mark ++ after)).isSome = true := by
  induction front generalizing before with
  | nil =>
      have hHere :
          afterChars? mark ([] ++ mark ++ after) =
            some after :=
        (afterChars?_eq_some_iff _ _ _).mpr (by simp)
      unfold splitOnceFrom
      rw [hHere]
      rfl
  | cons c front ih =>
      rw [List.cons_append, List.cons_append]
      unfold splitOnceFrom
      split
      · rfl
      · exact ih (c :: before)

/- A mark is found just where it stands in a text. -/
theorem isSome_splitOnce?_iff
    (mark cs : List Char) :
    (splitOnce? mark cs).isSome = true ↔
      mark <:+: cs := by
  constructor
  · intro h
    rcases Option.isSome_iff_exists.mp h with
      ⟨⟨front, after⟩, hSplit⟩
    exact ⟨front, after, (splitOnce?_eq_some hSplit).symm⟩
  · rintro ⟨front, after, rfl⟩
    exact isSome_splitOnceFrom mark [] front after

end Text

end Reformat
