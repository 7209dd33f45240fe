/-
  Character classes given by ranges of code points.

  A class is a list of pairs, first and last code point of a
  range, in ascending order.

  Key definitions include:
    * `Text.inRanges`
-/

------------------------------------------------------------
-- Membership
------------------------------------------------------------

namespace Reformat

namespace Text

/- A character of one of some ranges. -/
def inRanges
    (ranges : List (Nat × Nat))
    (c : Char) : Bool :=
  ranges.any fun r =>
    r.1 ≤ c.toNat && c.toNat ≤ r.2

/- Membership says that some range holds the code point. -/
theorem inRanges_iff
    (ranges : List (Nat × Nat))
    (c : Char) :
    inRanges ranges c = true ↔
      ∃ r ∈ ranges, r.1 ≤ c.toNat ∧ c.toNat ≤ r.2 := by
  simp [inRanges]

end Text

end Reformat
