import Reformat.Markup.Names
import Reformat.Text.Natural
import Reformat.Text.Split

/-
  Character references in markup text.

  A reference is an ampersand, a name or a code point, and a
  semicolon.  What is no reference stays as it is; an ampersand
  in the middle of one begins anew.  What a reference gives is
  not read again.

  Key definitions include:
    * `Markup.reference?`
    * `Markup.decode`
    * `Markup.decodeText`
-/

------------------------------------------------------------
-- References
------------------------------------------------------------

namespace Reformat

namespace Markup

/- The character of a name. -/
def named? (name : String) : Option Char :=
  match common.lookup name with
  | some code => some (Char.ofNat code)
  | none =>
      (names.findSome? fun group => group.lookup name).map
        Char.ofNat

/- The first number that is too large for a reference. -/
def numberLimit : Nat := 1 <<< 32

/- A digit more of a number. -/
def addDigit
    (base : Nat)
    (value? : Char → Option Nat)
    (n : Nat)
    (c : Char) : Option Nat := do
  let digit ← value? c
  let n := n * base + digit
  if n < numberLimit then some n else none

/- The number that some digits spell in a base. -/
def number?
    (base : Nat)
    (value? : Char → Option Nat)
    (digits : List Char) :
    Option Nat :=
  if digits.isEmpty then none
  else digits.foldlM (addDigit base value?) 0

/-
  A control character that no reference may stand for: one
  below the space that is no tab, line feed, form feed or
  carriage return.
-/
def isForbidden (code : Nat) : Bool :=
  code < 0x20 &&
    !(code == 0x9 || code == 0xA || code == 0xC ||
      code == 0xD)

/- The character of a code point. -/
def scalar? (code : Nat) : Option Char :=
  if isForbidden code then none
  else if code.isValidChar then some (Char.ofNat code)
  else none

/-
  The character for what stands between an ampersand and a
  semicolon.
-/
def reference? : List Char → Option Char
  | '#' :: 'x' :: digits =>
      (number? 16 Text.Natural.hexValue? digits).bind scalar?
  | '#' :: 'X' :: digits =>
      (number? 16 Text.Natural.hexValue? digits).bind scalar?
  | '#' :: digits =>
      (number? 10 Text.Natural.digitValue? digits).bind
        scalar?
  | name => named? (String.ofList name)

end Markup

end Reformat

------------------------------------------------------------
-- Decoding
------------------------------------------------------------

namespace Reformat

namespace Markup

/-
  Decode what follows an ampersand up to the next one.
-/
def decodeAfter (cs : List Char) : List Char :=
  match Text.splitOn ';' cs with
  | (_, []) => '&' :: cs
  | (name, _ :: _) =>
      match reference? name with
      | some c => c :: cs.drop (name.length + 1)
      | none => '&' :: cs

/- Put characters in the place of their references. -/
def decode (cs : List Char) : List Char :=
  let (first, others) := Text.splitOn '&' cs
  first ++ others.flatMap decodeAfter

/- Put characters in the place of their references. -/
def decodeText (cs : List Char) : String :=
  String.ofList (decode cs)

/- Text without an ampersand stands for itself. -/
theorem decode_of_not_mem
    (cs : List Char)
    (h : '&' ∉ cs) :
    decode cs = cs := by
  simp [decode, Text.splitOn_of_not_mem _ _ h]

end Markup

end Reformat
