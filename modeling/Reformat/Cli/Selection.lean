import Reformat.Span
import Reformat.Text.Blank
import Reformat.Text.Natural
import Reformat.Text.Quoted
import Reformat.Text.Split

/-
  Selections as they are typed: two offsets with a colon.

  Key definitions include:
    * `SelectionError`
    * `Span.ofText`
-/

------------------------------------------------------------
-- Errors
------------------------------------------------------------

namespace Reformat

/- The two ends of a selection. -/
inductive SelectionEnd
  | start
  | stop
deriving DecidableEq

/- Why a text is no selection. -/
inductive SelectionError
  | noColon (text : String)
  | badNumber
      (which : SelectionEnd)
      (text : String)
      (fault : Text.Natural.Fault)
  | reversed (start stop : Nat)
deriving DecidableEq

/- The name of an end. -/
def SelectionEnd.name : SelectionEnd → String
  | .start => "start"
  | .stop => "end"

/- The error in words. -/
def SelectionError.message : SelectionError → String
  | .noColon text =>
      "expected START:END, got " ++ Text.quoted text
  | .badNumber which text fault =>
      s!"invalid selection {which.name} " ++
        s!"{Text.quoted text}: {fault.message}"
  | .reversed start stop =>
      s!"selection end {stop} is before start {start}"

end Reformat

------------------------------------------------------------
-- Reading
------------------------------------------------------------

namespace Reformat

namespace Span

/- Read one end, blanks around it apart. -/
def readEnd
    (which : SelectionEnd)
    (cs : List Char) : Except SelectionError Nat :=
  match Text.Natural.read (Text.trimChars cs) with
  | .ok n => .ok n
  | .error fault =>
      .error (.badNumber which (String.ofList cs) fault)

/- Read a selection. -/
def ofText (text : String) : Except SelectionError Span :=
  match Text.splitOn ':' text.toList with
  | (_, []) => .error (.noColon text)
  | (first, _ :: _) => do
      let rest := text.toList.drop (first.length + 1)
      let start ← readEnd .start first
      let stop ← readEnd .stop rest
      if stop < start then .error (.reversed start stop)
      else pure ⟨start, stop⟩

end Span

end Reformat
