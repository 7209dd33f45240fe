import Reformat.Word

/-
  Reading natural numbers below the word limit.

  A number is a run of ASCII digits, with a plus sign in front
  if one likes.  Digits are taken from the left, and the first
  one that breaks a rule names the fault.

  Key definitions include:
    * `Text.Natural.Fault`
    * `Text.Natural.ofDigits?`
    * `Text.Natural.read`
    * `Text.Natural.digits`
-/

------------------------------------------------------------
-- Faults
------------------------------------------------------------

namespace Reformat

namespace Text.Natural

/- Why a text is no number. -/
inductive Fault
  | empty
  | badDigit
  | tooLarge
deriving DecidableEq

/- The fault in words. -/
def Fault.message : Fault → String
  | .empty => "cannot parse integer from empty string"
  | .badDigit => "invalid digit found in string"
  | .tooLarge => "number too large to fit in target type"

end Text.Natural

end Reformat

------------------------------------------------------------
-- Digits
------------------------------------------------------------

namespace Reformat

namespace Text.Natural

/- The value of an ASCII digit. -/
def digitValue? (c : Char) : Option Nat :=
  if c.isDigit then some (c.toNat - '0'.toNat) else none

/- The value of a hexadecimal digit of either case. -/
def hexValue? (c : Char) : Option Nat :=
  if c.isDigit then some (c.toNat - '0'.toNat)
  else if 'a' ≤ c && c ≤ 'f' then
    some (c.toNat - 'a'.toNat + 10)
  else if 'A' ≤ c && c ≤ 'F' then
    some (c.toNat - 'A'.toNat + 10)
  else none

/- The number that digits of a base spell, of any size. -/
def ofDigits?
    (base : Nat)
    (value? : Char → Option Nat)
    (cs : List Char) : Option Nat :=
  cs.foldlM
    (fun n c => (value? c).map fun digit => n * base + digit)
    0

end Text.Natural

end Reformat

------------------------------------------------------------
-- Reading
------------------------------------------------------------

namespace Reformat

namespace Text.Natural

/- Take digits onto a value read so far. -/
def readDigits
    (value : Nat) :
    List Char → Except Fault Nat
  | [] => .ok value
  | c :: cs =>
      match digitValue? c with
      | none => .error .badDigit
      | some d =>
          if value * 10 + d < Word.limit then
            readDigits (value * 10 + d) cs
          else
            .error .tooLarge

/- Read a number that is the whole text. -/
def read : List Char → Except Fault Nat
  | [] => .error .empty
  | ['+'] => .error .badDigit
  | '+' :: cs => readDigits 0 cs
  | cs => readDigits 0 cs

/- Read a number that is the whole text. -/
def read? (s : String) : Option Nat :=
  (read s.toList).toOption

end Text.Natural

end Reformat

------------------------------------------------------------
-- Writing
------------------------------------------------------------

namespace Reformat

namespace Text.Natural

/- The decimal digits of a number, none left out. -/
def digits (n : Nat) : List Char :=
  Nat.toDigits 10 n

/- A number in decimal. -/
def toText (n : Nat) : String :=
  String.ofList (digits n)

/- Numbers read from digits stay below the limit. -/
theorem readDigits_lt
    {value n : Nat}
    {cs : List Char}
    (hValue : value < Word.limit)
    (h : readDigits value cs = .ok n) :
    n < Word.limit := by
  induction cs generalizing value with
  | nil =>
      simp only [readDigits, Except.ok.injEq] at h
      omega
  | cons c cs ih =>
      simp only [readDigits] at h
      split at h
      · simp at h
      · split at h
        · next hLt => exact ih hLt h
        · simp at h

/- Every number read is below the limit. -/
theorem read_lt
    {n : Nat}
    {cs : List Char}
    (h : read cs = .ok n) :
    n < Word.limit := by
  have hZero : 0 < Word.limit := by
    simp [Word.limit]
  unfold read at h
  split at h
  · simp at h
  · simp at h
  · exact readDigits_lt hZero h
  · exact readDigits_lt hZero h

end Text.Natural

end Reformat
