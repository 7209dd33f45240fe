import Reformat.Text.Natural

/-
  Lengths of time, counted in nanoseconds.

  A duration is written in the largest unit that it holds at
  least once, with as many decimal places as it needs.

  Key definitions include:
    * `Duration`
    * `Duration.toText`
-/

------------------------------------------------------------
-- Durations
------------------------------------------------------------

namespace Reformat

/- A length of time. -/
structure Duration where
  nanoseconds : Nat
deriving DecidableEq, Inhabited

end Reformat

namespace Reformat.Duration

/- A number of thousandths of a second. -/
def ofMilliseconds (n : Nat) : Duration :=
  ⟨n * 1000000⟩

/- Whole seconds and a rest in nanoseconds. -/
def ofSeconds
    (seconds nanoseconds : Nat) : Duration :=
  ⟨seconds * 1000000000 + nanoseconds⟩

end Reformat.Duration

------------------------------------------------------------
-- Text
------------------------------------------------------------

namespace Reformat.Duration

/- A unit: how many decimal places of it are nanoseconds. -/
structure Scale where
  places : Nat
  suffix : String

/- The units, from the largest. -/
def scales : List Scale :=
  [⟨9, "s"⟩, ⟨6, "ms"⟩, ⟨3, "µs"⟩, ⟨0, "ns"⟩]

/- The largest unit that fits, or the smallest of all. -/
def scale (d : Duration) : Scale :=
  (scales.find? fun u =>
      Nat.pow 10 u.places ≤ d.nanoseconds).getD
    ⟨0, "ns"⟩

/- Decimal places without the zeros at their end. -/
def fraction
    (places rest : Nat) : List Char :=
  let digits := Text.Natural.digits rest
  let padded :=
    List.replicate (places - digits.length) '0' ++ digits
  (padded.reverse.dropWhile (· = '0')).reverse

/- A duration in words: a number and its unit. -/
def toText (d : Duration) : String :=
  let u := d.scale
  let unit := Nat.pow 10 u.places
  let whole := d.nanoseconds / unit
  let places := fraction u.places (d.nanoseconds % unit)
  let dot := if places.isEmpty then "" else "."
  Text.Natural.toText whole ++ dot ++
    String.ofList places ++ u.suffix

end Reformat.Duration
