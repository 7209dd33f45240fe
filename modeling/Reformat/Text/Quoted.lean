import Reformat.Text.Printable

/-
  Texts in double quotes, for messages.

  What prints is shown as it is; quotes and backslashes get a
  backslash, and every other character its code point in
  braces.

  Key definitions include:
    * `Text.quoted`
-/

------------------------------------------------------------
-- Quotation
------------------------------------------------------------

namespace Reformat

namespace Text

/- A code point in braces. -/
def bracedCode (c : Char) : List Char :=
  '\\' :: 'u' :: '{' :: Nat.toDigits 16 c.toNat ++ ['}']

/- A character as it stands between quotes. -/
def quotedChar (c : Char) : List Char :=
  match c with
  | '\x00' => ['\\', '0']
  | '\t' => ['\\', 't']
  | '\n' => ['\\', 'n']
  | '\r' => ['\\', 'r']
  | '"' => ['\\', '"']
  | '\\' => ['\\', '\\']
  | c =>
      if isPrintable c && !isCombining c then [c]
      else bracedCode c

/- A text in double quotes. -/
def quoted (s : String) : String :=
  "\"" ++ String.ofList (s.toList.flatMap quotedChar) ++ "\""

end Text

end Reformat
