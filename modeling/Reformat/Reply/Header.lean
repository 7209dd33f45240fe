import Reformat.Json.Record
import Reformat.Reply.Edits

/-
  Replies in the form of a header line and a text.

  The header is a JSON record on the first line; all after the
  first line feed is the formatted text as it is.

  Key definitions include:
    * `Reply.Header`
    * `Reply.Header.read`
    * `Reply.readFullText`
-/

------------------------------------------------------------
-- Headers
------------------------------------------------------------

namespace Reformat

namespace Reply

/- The caret, and whether the format is incomplete. -/
structure Header where
  cursor : Nat
  incomplete : Bool
deriving DecidableEq

/- The fields of a header. -/
def Header.record : Json.Record where
  name := "CursorHeader"
  fields :=
    [{ name := "Cursor", kind := .word },
      { name := "IncompleteFormat", kind := .boolean
        default? := some (.boolean false) }]

/- Read a header that is a whole text. -/
def Header.read
    (text : List Char) : Except Json.Error Header := do
  match ← Header.record.read text with
  | [.word cursor, .boolean incomplete] =>
      pure ⟨cursor, incomplete⟩
  | _ => .error (.ended .value)

end Reply

end Reformat

------------------------------------------------------------
-- Headers And Texts
------------------------------------------------------------

namespace Reformat

namespace Reply

/- A first line without carriage returns at its end. -/
def headerLine (line : List Char) : List Char :=
  (line.reverse.dropWhile (· = '\r')).reverse

/- Read a header line and the text after it. -/
def readFullText (text : List Char) : Reading :=
  let (line, rest) := Text.stretch '\n' text
  match Header.read (headerLine line) with
  | .error e => ⟨.error (.invalidHeader e), false⟩
  | .ok header =>
      ⟨.ok
          (.fullText header.cursor
            (String.ofList (rest.drop 1))),
        header.incomplete⟩

end Reply

end Reformat
