/-
  The shortest decimal that names a binary fraction.

  A binary fraction `m * 2 ^ q` stands for all numbers that
  are nearer to it than to its neighbours, and for those half
  way to a neighbour when `m` is even.  Of all decimals among
  these the one with the fewest digits is chosen, and of
  several the nearest.

  Key definitions include:
    * `Decimal.Binary`
    * `Decimal.Digits`
    * `Decimal.shortest`
-/

------------------------------------------------------------
-- Binary Fractions
------------------------------------------------------------

namespace Reformat

namespace Decimal

/-
  The number `m * 2 ^ q`.  It is a `step` when the next
  smaller one is only half as far away as the next larger one.
-/
structure Binary where
  m : Nat
  q : Int
  step : Bool

/- A number `digits * 10 ^ exponent`. -/
structure Digits where
  digits : Nat
  exponent : Int
deriving DecidableEq

/- A fraction of natural numbers. -/
structure Ratio where
  num : Nat
  den : Nat

/- Multiply by a power of a base. -/
def Ratio.scale
    (r : Ratio)
    (base : Nat)
    (e : Int) : Ratio :=
  if 0 ≤ e then ⟨r.num * Nat.pow base e.toNat, r.den⟩
  else ⟨r.num, r.den * Nat.pow base (-e).toNat⟩

/- Comparison of fractions. -/
def Ratio.le (a b : Ratio) : Bool :=
  a.num * b.den ≤ b.num * a.den

/- Strict comparison of fractions. -/
def Ratio.lt (a b : Ratio) : Bool :=
  a.num * b.den < b.num * a.den

/- The exact value. -/
def Binary.value (b : Binary) : Ratio :=
  Ratio.scale ⟨b.m, 1⟩ 2 b.q

/- The lower end of what the number stands for. -/
def Binary.low (b : Binary) : Ratio :=
  let quarters := 4 * b.m - (if b.step then 1 else 2)
  Ratio.scale ⟨quarters, 4⟩ 2 b.q

/- The upper end of what the number stands for. -/
def Binary.high (b : Binary) : Ratio :=
  Ratio.scale ⟨4 * b.m + 2, 4⟩ 2 b.q

/- A decimal that the number stands for. -/
def Binary.holds
    (b : Binary)
    (d : Digits) : Bool :=
  let x := Ratio.scale ⟨d.digits, 1⟩ 10 d.exponent
  if b.m % 2 = 0 then b.low.le x && x.le b.high
  else b.low.lt x && x.lt b.high

end Decimal

end Reformat

------------------------------------------------------------
-- Search
------------------------------------------------------------

namespace Reformat

namespace Decimal

/-
  The number of digits before the point, or minus the number
  of zeros after it.
-/
def magnitude (r : Ratio) : Int :=
  let estimate :=
    ((Nat.toDigits 10 r.num).length : Int) -
      (Nat.toDigits 10 r.den).length
  if (Ratio.scale ⟨1, 1⟩ 10 estimate).le r then
    estimate + 1
  else
    estimate

/- The nearer of the value's two neighbours on a grid. -/
def nearest?
    (b : Binary)
    (exponent : Int) : Option Digits :=
  let v := b.value.scale 10 (-exponent)
  let below : Digits := ⟨v.num / v.den, exponent⟩
  let above : Digits := ⟨v.num / v.den + 1, exponent⟩
  match b.holds below, b.holds above with
  | false, false => none
  | true, false => some below
  | false, true => some above
  | true, true =>
      let rest := v.num % v.den
      if 2 * rest < v.den then some below
      else if v.den < 2 * rest then some above
      else if below.digits % 2 = 0 then some below
      else some above

/- The coarsest grid that holds a decimal, or the finest. -/
def shortestFrom
    (b : Binary)
    (magnitude : Int) :
    Nat → Nat → Digits
  | 0, _ => ⟨b.m, b.q⟩
  | left + 1, count =>
      match nearest? b (magnitude - count) with
      | some d => d
      | none => shortestFrom b magnitude left (count + 1)

/- Remove the zeros at the end of some digits. -/
def dropZeros
    (digits : Nat)
    (exponent : Int) : Nat → Digits
  | 0 => ⟨digits, exponent⟩
  | n + 1 =>
      if digits % 10 = 0 ∧ digits ≠ 0 then
        dropZeros (digits / 10) (exponent + 1) n
      else
        ⟨digits, exponent⟩

/- The shortest decimal for a number, of at most 17 digits. -/
def shortest (b : Binary) : Digits :=
  if b.m = 0 then ⟨0, 0⟩
  else
    let d := shortestFrom b (magnitude b.value) 17 1
    dropZeros d.digits d.exponent 17

end Decimal

end Reformat

------------------------------------------------------------
-- Double Precision
------------------------------------------------------------

namespace Reformat

namespace Decimal

/- The absolute value of a finite double. -/
def Binary.ofFloat (x : Float) : Binary :=
  let bits : Nat := x.toBits.toNat
  let unit : Nat := 1 <<< 52
  let fraction : Nat := bits % unit
  let exponent : Nat := bits / unit % (1 <<< 11)
  if exponent = 0 then ⟨fraction, -1074, false⟩
  else
    ⟨unit + fraction, (exponent : Int) - 1075,
      fraction = 0 && exponent ≠ 1⟩

/- The sign bit of a double. -/
def isNegative (x : Float) : Bool :=
  1 <<< 63 ≤ x.toBits.toNat

/-
  How decimals are written: the powers of ten of the first
  digit for which no exponent is used.
-/
structure Form where
  leastPlain : Int
  mostPlain : Int

/- Digits with a point and no exponent. -/
def plain (d : Digits) : String :=
  let ds := Nat.toDigits 10 d.digits
  if 0 ≤ d.exponent then
    String.ofList
      (ds ++ List.replicate d.exponent.toNat '0') ++ ".0"
  else
    let places := (-d.exponent).toNat
    let padded :=
      List.replicate (places + 1 - ds.length) '0' ++ ds
    let whole := padded.length - places
    String.ofList (padded.take whole) ++ "." ++
      String.ofList (padded.drop whole)

/- Digits with a point after the first and an exponent. -/
def scientific
    (d : Digits)
    (power : Int) : String :=
  let ds := Nat.toDigits 10 d.digits
  let places := ds.drop 1
  String.ofList (ds.take 1) ++
    (if places.isEmpty then ""
      else "." ++ String.ofList places) ++
    "e" ++ (if 0 ≤ power then "+" else "-") ++
    toString power.natAbs

/- A finite double in its shortest decimal form. -/
def Form.write
    (form : Form)
    (x : Float) : String :=
  let d := shortest (.ofFloat x)
  let power :=
    d.exponent + (Nat.toDigits 10 d.digits).length - 1
  let sign := if isNegative x then "-" else ""
  let plainly :=
    form.leastPlain ≤ power && power ≤ form.mostPlain
  sign ++ (if plainly then plain d else scientific d power)

end Decimal

end Reformat
