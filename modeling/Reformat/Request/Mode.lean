/-
  Modes: which part of a document a user asks to format.

  Key definitions include:
    * `Mode`
-/

------------------------------------------------------------
-- Modes
------------------------------------------------------------

namespace Reformat

/-
  What is to be formatted: the whole file; the selection, or
  the caret's line if nothing is selected; or the selection if
  there is one, else the changed regions where these are asked
  for, else the whole file.
-/
inductive Mode
  | wholeFile
  | selection
  | auto
deriving DecidableEq, Inhabited

end Reformat

namespace Reformat.Mode

/- The mode's name in settings. -/
def name : Mode → String
  | .wholeFile => "whole-file"
  | .selection => "selection"
  | .auto => "auto"

/- All modes. -/
def all : List Mode :=
  [.wholeFile, .selection, .auto]

/- The mode of a name. -/
def ofName? (name : String) : Option Mode :=
  all.find? fun m => m.name == name

end Reformat.Mode
