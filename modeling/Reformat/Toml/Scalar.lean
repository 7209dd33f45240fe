import Reformat.Text.Natural
import Reformat.Text.Split
import Reformat.Toml.Table

/-
  Values in settings files that stand without quotes.

  They are truth values, whole numbers in four bases, floats
  and dates with or without a time.  Of floats and dates it
  matters only whether they are well written.

  Key definitions include:
    * `Toml.integer?`
    * `Toml.isFloat`
    * `Toml.isMoment`
    * `Toml.scalar?`
-/

------------------------------------------------------------
-- Whole Numbers
------------------------------------------------------------

namespace Reformat

namespace Toml

/- Digits with single underscores between them. -/
def grouped?
    (base : Nat)
    (value? : Char → Option Nat)
    (cs : List Char) : Option Nat :=
  let (first, others) := Text.splitOn '_' cs
  if (first :: others).any List.isEmpty then none
  else
    Text.Natural.ofDigits? base value?
      (first ++ others.flatten)

/- The value of a digit in base eight. -/
def octalValue? (c : Char) : Option Nat :=
  if '0' ≤ c && c ≤ '7' then Text.Natural.digitValue? c
  else none

/- The value of a digit in base two. -/
def binaryValue? (c : Char) : Option Nat :=
  if c = '0' || c = '1' then Text.Natural.digitValue? c
  else none

/- A decimal number without a sign or leading zeros. -/
def decimal? : List Char → Option Nat
  | '0' :: _ :: _ => none
  | cs => grouped? 10 Text.Natural.digitValue? cs

/- A whole number of any size. -/
def anyInteger? : List Char → Option Int
  | '0' :: 'x' :: cs =>
      (grouped? 16 Text.Natural.hexValue? cs).map Int.ofNat
  | '0' :: 'o' :: cs =>
      (grouped? 8 octalValue? cs).map Int.ofNat
  | '0' :: 'b' :: cs =>
      (grouped? 2 binaryValue? cs).map Int.ofNat
  | '-' :: cs => (decimal? cs).map fun n => -(n : Int)
  | '+' :: cs => (decimal? cs).map Int.ofNat
  | cs => (decimal? cs).map Int.ofNat

/- A whole number that fits 128 bits, with a sign or not. -/
def integer? (cs : List Char) : Option Int :=
  match anyInteger? cs with
  | none => none
  | some n =>
      if -Int.ofNat (1 <<< 127) ≤ n ∧
          n < Int.ofNat (1 <<< 128) then
        some n
      else
        none

end Toml

end Reformat

------------------------------------------------------------
-- Floats
------------------------------------------------------------

namespace Reformat

namespace Toml

/- The first number that no longer rounds to a double. -/
def doubleLimit : Nat :=
  (1 <<< 1024) - (1 <<< 970)

/-
  A number of digits times a power of ten that rounds to a
  double.  Far from the limit their count alone decides.
-/
def isFinite (n : Nat) (exponent : Int) : Bool :=
  let size := exponent + (Nat.toDigits 10 n).length
  if n = 0 || size < 300 then true
  else if 320 < size then false
  else
    n * Nat.pow 10 exponent.toNat <
      doubleLimit * Nat.pow 10 (-exponent).toNat

/- Text without a sign at the front, and whether it was `-`. -/
def signed : List Char → Bool × List Char
  | '-' :: cs => (true, cs)
  | '+' :: cs => (false, cs)
  | cs => (false, cs)

/- The exponent that follows an `e`. -/
def exponent? (cs : List Char) : Option Int :=
  let (negative, cs) := signed cs
  (grouped? 10 Text.Natural.digitValue? cs).map fun n =>
    if negative then -(n : Int) else n

/-
  The digits after the point and how many there are.  Without
  a point there are none.
-/
def fraction? : List Char → Option (Nat × Nat)
  | [] => some (0, 0)
  | '.' :: cs =>
      (grouped? 10 Text.Natural.digitValue? cs).map
        (·, (cs.filter Char.isDigit).length)
  | _ => none

/- A float without an exponent or a sign, scaled up. -/
def isUnsignedFloat (cs : List Char) : Bool :=
  let isMark (c : Char) : Bool := c = 'e' || c = 'E'
  let front := cs.takeWhile (!isMark ·)
  let power? :=
    match cs.dropWhile (!isMark ·) with
    | [] => some 0
    | _ :: cs => exponent? cs
  let whole := front.takeWhile (· ≠ '.')
  let point := front.dropWhile (· ≠ '.')
  match decimal? whole, fraction? point, power? with
  | some n, some (m, places), some power =>
      (front ≠ whole || front ≠ cs) &&
        isFinite (n * Nat.pow 10 places + m) (power - places)
  | _, _, _ => false

/- A float that a double can hold, or one with a name. -/
def isFloat (cs : List Char) : Bool :=
  let (_, cs) := signed cs
  cs = ['i', 'n', 'f'] || cs = ['n', 'a', 'n'] ||
    isUnsignedFloat cs

end Toml

end Reformat

------------------------------------------------------------
-- Dates And Times
------------------------------------------------------------

namespace Reformat

namespace Toml

/- The number in so many digits at the front. -/
def field?
    (width : Nat)
    (cs : List Char) : Option (Nat × List Char) :=
  if (cs.take width).length = width then
    let digits := cs.take width
    (Text.Natural.ofDigits? 10 Text.Natural.digitValue?
      digits).map (·, cs.drop width)
  else none

/- The number in so many digits after a mark. -/
def fieldAfter?
    (mark : Char)
    (width : Nat) :
    List Char → Option (Nat × List Char)
  | [] => none
  | c :: cs => if c = mark then field? width cs else none

/- A year with a day more. -/
def isLeapYear (year : Nat) : Bool :=
  year % 4 = 0 && (year % 100 ≠ 0 || year % 400 = 0)

/- The days of a month. -/
def daysIn (year month : Nat) : Nat :=
  if month = 2 then
    if isLeapYear year then 29 else 28
  else if month ∈ [4, 6, 9, 11] then 30
  else 31

/- What follows a date. -/
def date? (cs : List Char) : Option (List Char) := do
  let (year, cs) ← field? 4 cs
  let (month, cs) ← fieldAfter? '-' 2 cs
  let (day, cs) ← fieldAfter? '-' 2 cs
  if 1 ≤ month ∧ month ≤ 12 ∧
      1 ≤ day ∧ day ≤ daysIn year month then
    some cs
  else none

/- What follows parts of a second. -/
def secondParts? : List Char → Option (List Char)
  | '.' :: c :: cs =>
      if c.isDigit then some (cs.dropWhile Char.isDigit)
      else none
  | '.' :: [] => none
  | cs => some cs

/- What follows the seconds of a time, if it has any. -/
def seconds? : List Char → Option (List Char)
  | ':' :: cs => do
      let (second, cs) ← field? 2 cs
      if second ≤ 60 then secondParts? cs else none
  | cs => some cs

/- What follows hours and minutes. -/
def clock? (cs : List Char) : Option (List Char) := do
  let (hour, cs) ← field? 2 cs
  let (minute, cs) ← fieldAfter? ':' 2 cs
  if hour ≤ 23 ∧ minute ≤ 59 then some cs else none

/- What follows a time. -/
def time? (cs : List Char) : Option (List Char) :=
  (clock? cs).bind seconds?

/- What follows the distance from universal time. -/
def offset? : List Char → Option (List Char)
  | [] => some []
  | c :: cs =>
      if c = 'Z' || c = 'z' then some cs
      else if c = '+' || c = '-' then clock? cs
      else none

/- A date, a time, or a date with a time. -/
def isMoment (cs : List Char) : Bool :=
  match date? cs with
  | none => time? cs == some []
  | some [] => true
  | some (c :: cs) =>
      (c = 'T' || c = 't' || c = ' ') &&
        (time? cs).bind offset? == some []

end Toml

end Reformat

------------------------------------------------------------
-- Scalars
------------------------------------------------------------

namespace Reformat

namespace Toml

/- A character that ends a value without quotes. -/
def endsScalar (c : Char) : Bool :=
  [' ', '\t', '\n', '\r', '#', ',', '=', '[', ']',
    '{', '}', '"', '\''].contains c

/- The value of a text without quotes. -/
def scalarOf? (cs : List Char) : Option Value :=
  if cs = ['t', 'r', 'u', 'e'] then some (.boolean true)
  else if cs = ['f', 'a', 'l', 's', 'e'] then
    some (.boolean false)
  else
    match integer? cs with
    | some n => some (.integer n)
    | none =>
        if isFloat cs then some .float
        else if isMoment cs then some .date
        else none

/-
  The value without quotes at the front, and what follows.  A
  single space may part a date and its time.
-/
def scalar?
    (cs : List Char) : Option (Value × List Char) :=
  let run := cs.takeWhile (!endsScalar ·)
  let rest := cs.dropWhile (!endsScalar ·)
  let alone := (scalarOf? run).map (·, rest)
  match rest with
  | ' ' :: more =>
      let clock := more.takeWhile (!endsScalar ·)
      if !clock.isEmpty && isMoment (run ++ ' ' :: clock) then
        some (.date, more.dropWhile (!endsScalar ·))
      else alone
  | _ => alone

end Toml

end Reformat
