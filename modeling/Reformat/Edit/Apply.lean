import Reformat.Edit.Buffer
import Reformat.Edit.Error
import Reformat.Reply.Basic

/-
  Making a formatter's edits on a buffer.

  Replacements are made from the first to the last.  Each is
  moved by the drift, the sum of the size changes of those
  before it, which is right as long as they ascend and do not
  overlap.  A replacement is checked against the buffer as it
  then is; one that does not fit stops the run, and those
  before it stay made.

  Key definitions include:
    * `Edit.place`
    * `Edit.applyReplacements`
    * `Edit.applyReply`
-/

------------------------------------------------------------
-- One Replacement
------------------------------------------------------------

namespace Reformat

namespace Edit

variable {β : Type} [TextBuffer β]

/- What is known between two replacements of a list. -/
structure Progress where
  previous : Nat := 0
  drift : Int := 0
deriving DecidableEq

/- A replacement that passed, and what is known after it. -/
structure Placed where
  span : Span
  next : Progress
deriving DecidableEq

/- The error for a replacement that leaves the buffer. -/
def outOfBounds
    (size : Nat)
    (r : Replacement) : EditError :=
  .outOfBounds r.offset (Word.addClamped r.offset r.length)
    size

/-
  Where a replacement falls in the buffer.  Order is checked
  first, then the bounds, then both boundaries.
-/
def place
    (p : Progress)
    (b : β)
    (r : Replacement) :
    Except EditError Placed :=
  let size := TextBuffer.size b
  let outside := outOfBounds size r
  if r.offset < p.previous then
    .error (.unordered r.offset p.previous)
  else
    match Word.shift? r.offset p.drift with
    | none => .error outside
    | some start =>
        match Word.add? start r.length with
        | none => .error outside
        | some stop =>
            if size < stop then
              .error outside
            else if !TextBuffer.isBoundary b start then
              .error (.splitsCharacter start)
            else if !TextBuffer.isBoundary b stop then
              .error (.splitsCharacter stop)
            else
              match
                r.drift?.bind (Word.addSigned? p.drift)
              with
              | none => .error outside
              | some drift =>
                  .ok ⟨⟨start, stop⟩, ⟨r.offset, drift⟩⟩

end Edit

end Reformat

------------------------------------------------------------
-- Lists Of Replacements
------------------------------------------------------------

namespace Reformat

namespace Edit

variable {β : Type} [TextBuffer β]

/-
  Make replacements after some others.  The buffer as the run
  leaves it comes back also when the run fails.
-/
def applyFrom
    (p : Progress)
    (b : β) :
    List Replacement → β × Except EditError Int
  | [] => (b, .ok p.drift)
  | r :: rest =>
      match place p b r with
      | .error e => (b, .error e)
      | .ok placed =>
          applyFrom placed.next
            (TextBuffer.replace b placed.span r.value) rest

/- Make replacements; the answer is the whole drift. -/
def applyReplacements
    (b : β)
    (rs : List Replacement) :
    β × Except EditError Int :=
  applyFrom {} b rs

/-
  Make a reply's edits, then put the caret where it says.
-/
def applyReply
    (b : β) :
    Reply → β × Except EditError Unit
  | .edits cursor rs =>
      match applyReplacements b rs with
      | (b, .error e) => (b, .error e)
      | (b, .ok _) => (TextBuffer.moveCaret b cursor, .ok ())
  | .fullText cursor text =>
      let whole := ⟨0, TextBuffer.size b⟩
      let b := TextBuffer.replace b whole text
      (TextBuffer.moveCaret b cursor, .ok ())

end Edit

end Reformat
