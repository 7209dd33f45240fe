import Reformat.Text.Find
import Reformat.Text.Natural
import Reformat.Toml.Text

/-
  Writing settings files.

  A string is written in the plainest form that can hold it:
  on one line before several, and in double quotes before
  single ones.  Only where no form holds it as it is, it is
  written with escapes.

  Key definitions include:
    * `Toml.Form`
    * `Toml.Form.of`
    * `Toml.writeString`
    * `Toml.writeStrings`
    * `Toml.writeEntry`
-/

------------------------------------------------------------
-- Forms
------------------------------------------------------------

namespace Reformat

namespace Toml

/- The ways to write a string. -/
inductive Form
  | basic
  | literal
  | basicLines
  | literalLines
deriving DecidableEq

/- The quotes around a form. -/
def Form.quotes : Form → List Char
  | .basic => ['"']
  | .literal => ['\'']
  | .basicLines => ['"', '"', '"']
  | .literalLines => ['\'', '\'', '\'']

/- Three quotes follow one another. -/
def hasThree (quote : Char) (cs : List Char) : Bool :=
  (Text.splitOnce? [quote, quote, quote] cs).isSome

namespace Form

/- A form holds a text as it is, tabs perhaps excepted. -/
def holds (form : Form) (cs : List Char) : Bool :=
  let onLine := cs.all (!isControl ·)
  let onLines := cs.all fun c => !isControl c || c = '\n'
  match form with
  | .basic => onLine && !cs.contains '\\' && !cs.contains '"'
  | .literal => onLine && !cs.contains '\''
  | .basicLines =>
      onLines && !cs.contains '\\' && !hasThree '"' cs
  | .literalLines => onLines && !hasThree '\'' cs

/- All forms, the plainest first. -/
def all : List Form :=
  [.basic, .literal, .basicLines, .literalLines]

/-
  The form to write a text in.  One that no form holds takes
  escapes, in double quotes.
-/
def of (cs : List Char) : Form :=
  match all.find? (holds · cs) with
  | some form => form
  | none => if cs.contains '\n' then .basicLines else .basic

end Form

end Toml

end Reformat

------------------------------------------------------------
-- Escapes
------------------------------------------------------------

namespace Reformat

namespace Toml

/- The upper-case hexadecimal digit of a number below 16. -/
def hexDigit (n : Nat) : Char :=
  if n < 10 then Char.ofNat ('0'.toNat + n)
  else Char.ofNat ('A'.toNat + (n - 10))

/- How a character other than a quote is written. -/
def escaped (c : Char) : List Char :=
  if c = '\\' then ['\\', '\\']
  else if c = '\x08' then ['\\', 'b']
  else if c = '\t' then ['\\', 't']
  else if c = '\n' then ['\\', 'n']
  else if c = '\x0c' then ['\\', 'f']
  else if c = '\r' then ['\\', 'r']
  else if isControl c then
    ['\\', 'u', '0', '0',
      hexDigit (c.toNat / 16), hexDigit (c.toNat % 16)]
  else [c]

/- What stands between double quotes on one line. -/
def basicBody (cs : List Char) : List Char :=
  cs.flatMap fun c =>
    if c = '"' then ['\\', '"'] else escaped c

/-
  What stands between three double quotes, after some quotes
  that already follow one another.  No third one does.
-/
def basicLinesBody : Nat → List Char → List Char
  | _, [] => []
  | quotes, c :: cs =>
      if c = '"' then
        if quotes < 2 then '"' :: basicLinesBody (quotes + 1) cs
        else '\\' :: '"' :: basicLinesBody 0 cs
      else if c = '\n' then '\n' :: basicLinesBody 0 cs
      else escaped c ++ basicLinesBody 0 cs

/- What a form has between its quotes. -/
def Form.body
    (form : Form)
    (cs : List Char) : List Char :=
  let firstBreak := if cs.contains '\n' then ['\n'] else []
  match form with
  | .basic => basicBody cs
  | .literal => cs
  | .basicLines => firstBreak ++ basicLinesBody 0 cs
  | .literalLines => firstBreak ++ cs

end Toml

end Reformat

------------------------------------------------------------
-- Values And Entries
------------------------------------------------------------

namespace Reformat

namespace Toml

/- Write a string. -/
def writeString (s : String) : String :=
  let form := Form.of s.toList
  String.ofList
    (form.quotes ++ form.body s.toList ++ form.quotes)

/- Write a truth value. -/
def writeBoolean (b : Bool) : String :=
  if b then "true" else "false"

/- Write strings, if there are several each on a line. -/
def writeStrings : List String → String
  | [] => "[]"
  | [s] => "[" ++ writeString s ++ "]"
  | ss =>
      let line (s : String) :=
        "    " ++ writeString s ++ ",\n"
      "[\n" ++ String.join (ss.map line) ++ "]"

/- The line that gives a key a value. -/
def writeEntry (key value : String) : String :=
  key ++ " = " ++ value ++ "\n"

end Toml

end Reformat
