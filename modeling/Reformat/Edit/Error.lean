/-
  Why replacements cannot be made.

  Key definitions include:
    * `EditError`
    * `EditError.message`
-/

------------------------------------------------------------
-- Edit Errors
------------------------------------------------------------

namespace Reformat

/- A replacement that does not fit the text it is meant for. -/
inductive EditError
  | outOfBounds (start stop size : Nat)
  | splitsCharacter (offset : Nat)
  | unordered (offset previous : Nat)
deriving DecidableEq

end Reformat

namespace Reformat.EditError

/- The error in words. -/
def message : EditError → String
  | .outOfBounds start stop size =>
      s!"replacement {start}..{stop} is outside the buffer " ++
        s!"(length {size})"
  | .splitsCharacter offset =>
      s!"replacement boundary {offset} splits a UTF-8 character"
  | .unordered offset previous =>
      s!"replacement at offset {offset} comes after one " ++
        s!"at {previous}"

end Reformat.EditError
