import Reformat.Word
import Reformat.Span
import Reformat.Text.Cut

/-
  Replacements: the edits that a formatter asks for.

  Each one names bytes of the text that the formatter was
  given, not of the text as earlier replacements leave it.

  Key definitions include:
    * `Replacement`
    * `Replacement.stop?`
    * `Replacement.drift?`
    * `Replacement.gain`
-/

------------------------------------------------------------
-- Replacements
------------------------------------------------------------

namespace Reformat

/-
  Take `length` bytes away at `offset` and put `value` there.
-/
structure Replacement where
  offset : Nat
  length : Nat
  value : String
deriving DecidableEq, Inhabited

end Reformat

namespace Reformat.Replacement

/- The byte after the last one taken away, in exact numbers. -/
def stop (r : Replacement) : Nat :=
  r.offset + r.length

/- The byte after the last one, if it is an offset. -/
def stop? (r : Replacement) : Option Nat :=
  Word.add? r.offset r.length

/- The change of size, in exact numbers. -/
def gain (r : Replacement) : Int :=
  (Text.size r.value : Int) - r.length

/- The change of size, if both sizes are signed words. -/
def drift? (r : Replacement) : Option Int := do
  let inserted ← Word.signed? (Text.size r.value)
  let removed ← Word.signed? r.length
  pure (inserted - removed)

/- A change of size that is given is the exact one. -/
theorem drift?_eq_some_iff
    (r : Replacement)
    (d : Int) :
    r.drift? = some d ↔
      d = r.gain ∧
        Text.size r.value < Word.signedLimit ∧
        r.length < Word.signedLimit := by
  unfold drift? gain Word.signed?
  by_cases hValue : Text.size r.value < Word.signedLimit
  · by_cases hLength : r.length < Word.signedLimit
    · simp [hValue, hLength, eq_comm]
    · simp [hValue, hLength]
  · simp [hValue]

end Reformat.Replacement
