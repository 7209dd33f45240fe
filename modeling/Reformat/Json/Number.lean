import Reformat.Decimal.Shortest
import Reformat.Json.Lexeme
import Reformat.Text.Natural
import Reformat.Word

/-
  Numbers in JSON texts.

  A number without point and exponent is read exactly as long
  as it is a word, or the negative of one that fits a signed
  word.  Every other number is a double: its leading digits as
  far as they make up a word, times a power of ten.

  Key definitions include:
    * `Json.Number`
    * `Json.number`
    * `Json.skipNumber`
-/

------------------------------------------------------------
-- Digits
------------------------------------------------------------

namespace Reformat

namespace Json

/- A number as it was read. -/
inductive Number
  | natural (n : Nat)
  | negative (n : Nat)
  | float (x : Float)

/- How doubles are written. -/
def floatForm : Decimal.Form :=
  ⟨-5, 15⟩

/- A number as it is named in errors. -/
def Number.found : Number → Found
  | .natural n => .integer n
  | .negative n => .integer (-n)
  | .float x => .float (floatForm.write x)

/- The digits at the front, and what follows. -/
def digits (cs : List Char) : List Char × List Char :=
  (cs.takeWhile Char.isDigit, cs.dropWhile Char.isDigit)

/- The value of a digit. -/
def digitValue (c : Char) : Nat :=
  c.toNat - '0'.toNat

/-
  Leading digits that make up a word, and how many digits are
  left over.
-/
structure Significand where
  value : Nat
  used : Nat
  left : Nat

/- Take digits onto a value until it would be no word. -/
def takeDigits
    (value used : Nat) :
    List Char → Significand
  | [] => ⟨value, used, 0⟩
  | c :: cs =>
      let next := value * 10 + digitValue c
      if next < Word.limit then takeDigits next (used + 1) cs
      else ⟨value, used, cs.length + 1⟩

end Json

end Reformat

------------------------------------------------------------
-- Doubles
------------------------------------------------------------

namespace Reformat

namespace Json

/- A power of ten up to the largest double. -/
def powerOfTen (e : Nat) : Float :=
  Float.ofScientific 1 false e

/- The largest exponent of a power of ten. -/
def largestPower : Nat := 308

/- Divide by a power of ten, in as many steps as needed. -/
def divideByPower
    (x : Float)
    (e : Nat) : Float :=
  if e ≤ largestPower then x / powerOfTen e
  else if x == 0 then x
  else
    divideByPower (x / powerOfTen largestPower)
      (e - largestPower)
termination_by e
decreasing_by
  simp only [largestPower] at *
  omega

/- A sign for an absolute value. -/
def signed
    (positive : Bool)
    (x : Float) : Float :=
  if positive then x else -x

/- The double for a word times a power of ten. -/
def double
    (positive : Bool)
    (value : Nat)
    (exponent : Int) : Except Error Float :=
  let x := Float.ofNat value
  if exponent < 0 then
    .ok
      (signed positive (divideByPower x exponent.natAbs))
  else if exponent.toNat ≤ largestPower then
    let y := x * powerOfTen exponent.toNat
    if y.isInf then broken .numberOutOfRange
    else .ok (signed positive y)
  else if value = 0 then .ok (signed positive x)
  else broken .numberOutOfRange

/- The largest exponent that is taken for a number. -/
def largestExponent : Nat := (1 <<< 31) - 1

/- The number of some digits, unless too large. -/
def exponentValue
    (value : Nat) :
    List Char → Option Nat
  | [] => some value
  | c :: cs =>
      let next := value * 10 + digitValue c
      if next ≤ largestExponent then exponentValue next cs
      else none

/- Read the sign of an exponent. -/
def exponentSign : List Char → Bool × List Char
  | '+' :: cs => (true, cs)
  | '-' :: cs => (false, cs)
  | cs => (true, cs)

/- Read an exponent, the letter before it apart. -/
def exponentPart
    (positive : Bool)
    (value : Nat)
    (start : Int)
    (cs : List Char) : Except Error (Float × List Char) :=
  let (up, cs) := exponentSign cs
  match digits cs with
  | ([], []) => ended .value
  | ([], _ :: _) => broken .invalidNumber
  | (ds, cs) =>
      match exponentValue 0 ds with
      | none =>
          if value ≠ 0 ∧ up then broken .numberOutOfRange
          else .ok (signed positive 0, cs)
      | some e =>
          let exponent := if up then start + e else start - e
          (double positive value exponent).map (·, cs)

/- Read an exponent, if there is one. -/
def exponentPart?
    (positive : Bool)
    (value : Nat)
    (start : Int)
    (cs : List Char) : Except Error (Float × List Char) :=
  match cs with
  | 'e' :: cs => exponentPart positive value start cs
  | 'E' :: cs => exponentPart positive value start cs
  | cs => (double positive value start).map (·, cs)

/- Read decimal places, the point before them apart. -/
def decimalPart
    (positive : Bool)
    (value : Nat)
    (start : Int)
    (cs : List Char) : Except Error (Float × List Char) :=
  match digits cs with
  | ([], []) => ended .value
  | ([], _ :: _) => broken .invalidNumber
  | (ds, cs) =>
      let s := takeDigits value 0 ds
      exponentPart? positive s.value (start - s.used) cs

end Json

end Reformat

------------------------------------------------------------
-- Numbers
------------------------------------------------------------

namespace Reformat

namespace Json

/- A number without point and exponent. -/
def integer
    (positive : Bool)
    (value : Nat) : Number :=
  if positive then .natural value
  else if value = 0 ∨ Word.signedLimit < value then
    .float (-(Float.ofNat value))
  else .negative value

/- Read what follows the digits before the point. -/
def numberTail
    (positive : Bool)
    (s : Significand)
    (cs : List Char) : Except Error (Number × List Char) :=
  let float
      (r : Except Error (Float × List Char)) :
      Except Error (Number × List Char) :=
    r.map fun (x, cs) => (.float x, cs)
  match cs with
  | '.' :: cs =>
      float (decimalPart positive s.value s.left cs)
  | cs =>
      if s.left = 0 ∧ cs.head? ≠ some 'e' ∧
          cs.head? ≠ some 'E' then
        .ok (integer positive s.value, cs)
      else
        float (exponentPart? positive s.value s.left cs)

/- Read a number, its sign apart. -/
def unsignedNumber
    (positive : Bool)
    (cs : List Char) : Except Error (Number × List Char) :=
  match digits cs with
  | ([], []) => ended .value
  | ([], _ :: _) => broken .invalidNumber
  | (['0'], cs) => numberTail positive ⟨0, 1, 0⟩ cs
  | ('0' :: _, _) => broken .invalidNumber
  | (ds, cs) => numberTail positive (takeDigits 0 0 ds) cs

/- Read a number. -/
def number (cs : List Char) : Except Error (Number × List Char) :=
  match cs with
  | '-' :: cs => unsignedNumber false cs
  | cs => unsignedNumber true cs

/- Get past an exponent, the letter before it apart. -/
def skipExponent
    (cs : List Char) : Except Error (List Char) :=
  match digits (exponentSign cs).2 with
  | ([], _) => broken .invalidNumber
  | (_, cs) => .ok cs

/- Get past an exponent, if there is one. -/
def skipExponent? :
    List Char → Except Error (List Char)
  | 'e' :: cs => skipExponent cs
  | 'E' :: cs => skipExponent cs
  | cs => .ok cs

/- Get past a number. -/
def skipNumber
    (cs : List Char) : Except Error (List Char) :=
  let cs :=
    match cs with
    | '-' :: cs => cs
    | cs => cs
  match digits cs with
  | ([], _) => broken .invalidNumber
  | ('0' :: _ :: _, _) => broken .invalidNumber
  | (_, '.' :: cs) =>
      match digits cs with
      | ([], _) => broken .invalidNumber
      | (_, cs) => skipExponent? cs
  | (_, cs) => skipExponent? cs

end Json

end Reformat
