import Reformat.Span
import Reformat.Text.Cut

/-
  Texts that edits are made on.

  A buffer tells its size and its boundaries, and takes two
  kinds of change: a span replaced by a text, and the caret
  put somewhere.  `Recording` is the plainest buffer: a text
  that remembers every change.

  Key definitions include:
    * `TextBuffer`
    * `Recording`
-/

------------------------------------------------------------
-- Buffers
------------------------------------------------------------

namespace Reformat

/-
  A text that can be edited.  A span is only ever replaced
  when it lies within the text and both ends are boundaries.
-/
class TextBuffer (β : Type) where
  size : β → Nat
  isBoundary : β → Nat → Bool
  replace : β → Span → String → β
  moveCaret : β → Nat → β

end Reformat

------------------------------------------------------------
-- Recordings
------------------------------------------------------------

namespace Reformat

/- A text, the replacements made on it, and the last caret. -/
structure Recording where
  text : String
  calls : Array (Span × String) := #[]
  caret? : Option Nat := none

end Reformat

namespace Reformat.Recording

/- A recording makes each change and writes it down. -/
instance : TextBuffer Recording where
  size b := Text.size b.text
  isBoundary b p := decide (Text.IsBoundary b.text p)
  replace b r value :=
    { b with
      text := Text.replace b.text r.start r.stop value
      calls := b.calls.push (r, value) }
  moveCaret b p := { b with caret? := some p }

end Reformat.Recording
