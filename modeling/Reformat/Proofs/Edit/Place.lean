import Reformat.Edit.Apply
import Reformat.Edit.Document

/-
  Where a replacement falls in a buffer.

  A lawful buffer holds a text, and its operations do to that
  text what their names say.  For such a buffer `Edit.place`
  has five outcomes, each under a condition on the text alone.

  Key definitions include:
    * `LawfulTextBuffer`

  Main statements:
    * `Edit.place_of_unordered`
    * `Edit.place_of_outside`
    * `Edit.place_of_splits_start`
    * `Edit.place_of_splits_stop`
    * `Edit.place_of_inside`
-/

------------------------------------------------------------
-- Lawful Buffers
------------------------------------------------------------

namespace Reformat

/- A buffer that does what is done to the text it holds. -/
class LawfulTextBuffer
    (β : Type) [TextBuffer β] where
  text : β → String
  size_eq :
    ∀ b : β, TextBuffer.size b = Text.size (text b)
  isBoundary_eq :
    ∀ (b : β) (p : Nat),
      TextBuffer.isBoundary b p =
        decide (Text.IsBoundary (text b) p)
  text_replace :
    ∀ (b : β) (r : Span) (value : String),
      text (TextBuffer.replace b r value) =
        Text.replace (text b) r.start r.stop value
  text_moveCaret :
    ∀ (b : β) (p : Nat),
      text (TextBuffer.moveCaret b p) = text b

/- A recording holds the text that it was edited to. -/
instance : LawfulTextBuffer Recording where
  text := Recording.text
  size_eq _ := rfl
  isBoundary_eq _ _ := rfl
  text_replace _ _ _ := rfl
  text_moveCaret _ _ := rfl

/- A draft holds the text that it was edited to. -/
instance : LawfulTextBuffer Draft where
  text := Draft.text
  size_eq _ := rfl
  isBoundary_eq _ _ := rfl
  text_replace _ _ _ := rfl
  text_moveCaret _ _ := rfl

end Reformat

------------------------------------------------------------
-- Outcomes Of Placing
------------------------------------------------------------

namespace Reformat

namespace Edit

open LawfulTextBuffer (text size_eq isBoundary_eq)

variable {β : Type}
variable [TextBuffer β] [LawfulTextBuffer β]

/- A replacement before the last one is out of order. -/
omit [LawfulTextBuffer β] in
theorem place_of_unordered
    {p : Progress}
    {b : β}
    {r : Replacement}
    (hOrder : r.offset < p.previous) :
    place p b r =
      .error (.unordered r.offset p.previous) := by
  simp [place, hOrder]

/-
  A replacement is outside when no place in the buffer is its
  moved offset, or when it reaches past the end from there.
-/
theorem place_of_outside
    {p : Progress}
    {b : β}
    {r : Replacement}
    (hOrder : p.previous ≤ r.offset)
    (hOutside :
      ∀ start : Nat,
        (r.offset : Int) + p.drift = start →
          Text.size (text b) < start + r.length) :
    place p b r =
      .error (outOfBounds (Text.size (text b)) r) := by
  have hNot : ¬ r.offset < p.previous := by omega
  simp only [place, hNot, if_false, size_eq]
  cases hShift : Word.shift? r.offset p.drift with
  | none => rfl
  | some start =>
      have hStart :=
        ((Word.shift?_eq_some_iff _ _ _).mp hShift).1
      simp only
      cases hAdd : Word.add? start r.length with
      | none => rfl
      | some stop =>
          have hStop :=
            ((Word.add?_eq_some_iff _ _ _).mp hAdd).1
          have hPast := hOutside start hStart
          rw [hStop] at hPast
          simp [hPast]

/- The checks that come before those of the boundaries. -/
private theorem place_eq_of_bounded
    {p : Progress}
    {b : β}
    {r : Replacement}
    {start : Nat}
    (hOrder : p.previous ≤ r.offset)
    (hStart : (r.offset : Int) + p.drift = start)
    (hStop : start + r.length ≤ Text.size (text b))
    (hSize : Text.size (text b) < Word.limit) :
    place p b r =
      if ¬ Text.IsBoundary (text b) start then
        .error (.splitsCharacter start)
      else if
        ¬ Text.IsBoundary (text b) (start + r.length)
      then
        .error (.splitsCharacter (start + r.length))
      else
        match r.drift?.bind (Word.addSigned? p.drift) with
        | none =>
            .error (outOfBounds (Text.size (text b)) r)
        | some drift =>
            .ok
              ⟨⟨start, start + r.length⟩,
                ⟨r.offset, drift⟩⟩ := by
  have hNot : ¬ r.offset < p.previous := by omega
  have hShift : Word.shift? r.offset p.drift = some start :=
    (Word.shift?_eq_some_iff _ _ _).mpr
      ⟨hStart, by omega⟩
  have hAdd :
      Word.add? start r.length =
        some (start + r.length) :=
    (Word.add?_eq_some_iff _ _ _).mpr ⟨rfl, by omega⟩
  have hInside :
      ¬ Text.size (text b) < start + r.length := by
    omega
  simp only [place, hNot, if_false, hShift, hAdd, hInside,
    size_eq, isBoundary_eq]
  by_cases hFirst : Text.IsBoundary (text b) start
  · by_cases hLast :
        Text.IsBoundary (text b) (start + r.length)
    · cases hDrift :
          r.drift?.bind (Word.addSigned? p.drift) with
      | none => simp [hFirst, hLast]
      | some drift => simp [hFirst, hLast]
    · simp [hFirst, hLast]
  · simp [hFirst]

/- A replacement may start inside a character. -/
theorem place_of_splits_start
    {p : Progress}
    {b : β}
    {r : Replacement}
    {start : Nat}
    (hOrder : p.previous ≤ r.offset)
    (hStart : (r.offset : Int) + p.drift = start)
    (hStop : start + r.length ≤ Text.size (text b))
    (hSize : Text.size (text b) < Word.limit)
    (hSplits : ¬ Text.IsBoundary (text b) start) :
    place p b r = .error (.splitsCharacter start) := by
  rw [place_eq_of_bounded hOrder hStart hStop hSize,
    if_pos hSplits]

/- A replacement may stop inside a character. -/
theorem place_of_splits_stop
    {p : Progress}
    {b : β}
    {r : Replacement}
    {start : Nat}
    (hOrder : p.previous ≤ r.offset)
    (hStart : (r.offset : Int) + p.drift = start)
    (hStop : start + r.length ≤ Text.size (text b))
    (hSize : Text.size (text b) < Word.limit)
    (hBoundary : Text.IsBoundary (text b) start)
    (hSplits :
      ¬ Text.IsBoundary (text b) (start + r.length)) :
    place p b r =
      .error (.splitsCharacter (start + r.length)) := by
  rw [place_eq_of_bounded hOrder hStart hStop hSize,
    if_neg (not_not_intro hBoundary), if_pos hSplits]

/-
  A replacement between two boundaries is placed there, as
  long as all sizes are signed words.
-/
theorem place_of_inside
    {p : Progress}
    {b : β}
    {r : Replacement}
    {start : Nat}
    (hOrder : p.previous ≤ r.offset)
    (hStart : (r.offset : Int) + p.drift = start)
    (hStop : start + r.length ≤ Text.size (text b))
    (hSize : Text.size (text b) < Word.signedLimit)
    (hFirst : Text.IsBoundary (text b) start)
    (hLast : Text.IsBoundary (text b) (start + r.length))
    (hValue : Text.size r.value < Word.signedLimit)
    (hDrift : Word.IsSigned (p.drift + r.gain)) :
    place p b r =
      .ok
        ⟨⟨start, start + r.length⟩,
          ⟨r.offset, p.drift + r.gain⟩⟩ := by
  have hLimit : Word.signedLimit < Word.limit := by decide
  have hGain : r.drift? = some r.gain :=
    (r.drift?_eq_some_iff _).mpr
      ⟨rfl, hValue, by omega⟩
  rw [place_eq_of_bounded hOrder hStart hStop
      (Nat.lt_trans hSize hLimit),
    if_neg (not_not_intro hFirst),
    if_neg (not_not_intro hLast), hGain]
  simp [Word.addSigned?, hDrift]

end Edit

end Reformat
