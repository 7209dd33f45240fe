import Reformat.Edit.Replacement
import Reformat.Json.Record
import Reformat.Json.Writer

/-
  Replacements as JSON records.

  Key definitions include:
    * `Replacement.ofJson`
    * `Replacement.toJson`
-/

------------------------------------------------------------
-- Records
------------------------------------------------------------

namespace Reformat.Replacement

/- The fields of a replacement. -/
def record : Json.Record where
  name := "Replacement"
  fields :=
    [{ name := "offset", kind := .word },
      { name := "length", kind := .word },
      { name := "value", kind := .text }]

/- Read a replacement that is a whole text. -/
def ofJson
    (text : List Char) :
    Except Json.Error Replacement := do
  match ← record.read text with
  | [.word offset, .word length, .text value] =>
      pure ⟨offset, length, value⟩
  | _ => .error (.ended .value)

/- Write a replacement without space. -/
def toJson (r : Replacement) : String :=
  Json.writeObject
    [("offset", toString r.offset),
      ("length", toString r.length),
      ("value", Json.writeString r.value)]

end Reformat.Replacement
