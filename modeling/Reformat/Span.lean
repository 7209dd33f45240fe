/-
  Spans of a text, from a first byte up to the byte after the
  last.

  Spans come from outside and may be reversed or lie past the
  end of the text; `Span.clamp` gives the span inside the text
  that stands for such a one.

  Key definitions include:
    * `Span`
    * `Span.clamp`
-/

------------------------------------------------------------
-- Spans
------------------------------------------------------------

namespace Reformat

/- The bytes from `start` up to but not including `stop`. -/
structure Span where
  start : Nat
  stop : Nat
deriving DecidableEq, Inhabited

end Reformat

namespace Reformat.Span

/- A span without bytes. -/
def IsEmpty (r : Span) : Prop :=
  r.stop ≤ r.start

/- Emptiness is decidable. -/
instance (r : Span) : Decidable r.IsEmpty := by
  unfold IsEmpty
  infer_instance

/- The number of bytes, none when reversed. -/
def length (r : Span) : Nat :=
  r.stop - r.start

/- A span of a text of some size. -/
def Within
    (r : Span)
    (size : Nat) : Prop :=
  r.start ≤ r.stop ∧ r.stop ≤ size

/- Lying within a text is decidable. -/
instance
    (r : Span)
    (size : Nat) :
    Decidable (r.Within size) := by
  unfold Within
  infer_instance

/- The empty span at an offset. -/
def caret (offset : Nat) : Span :=
  ⟨offset, offset⟩

/- The nearest span of a text of some size. -/
def clamp
    (r : Span)
    (size : Nat) : Span :=
  let start := min r.start size
  ⟨start, max (min r.stop size) start⟩

/- A clamped span lies within the text. -/
theorem within_clamp
    (r : Span)
    (size : Nat) :
    (r.clamp size).Within size := by
  simp only [clamp, Within]
  omega

/- Clamping keeps a span that lies within the text. -/
theorem clamp_of_within
    {r : Span}
    {size : Nat}
    (h : r.Within size) :
    r.clamp size = r := by
  obtain ⟨start, stop⟩ := r
  simp only [clamp, Within, Span.mk.injEq] at *
  omega

end Reformat.Span
