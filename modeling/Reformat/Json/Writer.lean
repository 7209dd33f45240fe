import Reformat.Text.Natural

/-
  Writing JSON texts without space.

  Key definitions include:
    * `Json.writeString`
    * `Json.writeObject`
-/

------------------------------------------------------------
-- Strings
------------------------------------------------------------

namespace Reformat

namespace Json

/- A control character by its code. -/
def codeEscape (c : Char) : List Char :=
  let hex := Nat.toDigits 16 c.toNat
  '\\' :: 'u' ::
    List.replicate (4 - hex.length) '0' ++ hex

/- A character as it stands in a string. -/
def writtenChar (c : Char) : List Char :=
  match c with
  | '"' => ['\\', '"']
  | '\\' => ['\\', '\\']
  | '\x08' => ['\\', 'b']
  | '\x0c' => ['\\', 'f']
  | '\n' => ['\\', 'n']
  | '\r' => ['\\', 'r']
  | '\t' => ['\\', 't']
  | c => if c < ' ' then codeEscape c else [c]

/- A text as a JSON string. -/
def writeString (s : String) : String :=
  "\"" ++ String.ofList (s.toList.flatMap writtenChar) ++ "\""

end Json

end Reformat

------------------------------------------------------------
-- Objects
------------------------------------------------------------

namespace Reformat

namespace Json

/- Members that are written already, as an object. -/
def writeObject
    (members : List (String × String)) : String :=
  let written :=
    members.map fun (key, value) =>
      writeString key ++ ":" ++ value
  "\x7b" ++ ",".intercalate written ++ "\x7d"

end Json

end Reformat
