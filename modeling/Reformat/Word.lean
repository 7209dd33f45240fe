/-
  Arithmetic of 64-bit offsets.

  Offsets and lengths are natural numbers below `Word.limit`,
  and differences of sizes are integers of the signed range.
  Every operation says what happens at the limit: it fails,
  or stops there.

  Key definitions include:
    * `Word.limit`
    * `Word.add?`
    * `Word.addClamped`
    * `Word.shift?`
    * `Word.signed?`
-/

------------------------------------------------------------
-- Unsigned Words
------------------------------------------------------------

namespace Reformat

namespace Word

/- The first number that is no offset. -/
def limit : Nat := 1 <<< 64

/- The largest offset. -/
def largest : Nat := limit - 1

/- The sum of two words, if it is one. -/
def add?
    (a b : Nat) :
    Option Nat :=
  if a + b < limit then some (a + b) else none

/- The sum of two words, or the largest word. -/
def addClamped (a b : Nat) : Nat :=
  min (a + b) largest

/- A sum below the limit is the sum of the numbers. -/
theorem add?_eq_some_iff
    (a b c : Nat) :
    add? a b = some c ↔ a + b = c ∧ c < limit := by
  unfold add?
  split <;> simp <;> omega

end Word

end Reformat

------------------------------------------------------------
-- Signed Words
------------------------------------------------------------

namespace Reformat

namespace Word

/- The first number that is no size difference. -/
def signedLimit : Nat := 1 <<< 63

/- An integer of the signed range. -/
def IsSigned (d : Int) : Prop :=
  -(signedLimit : Int) ≤ d ∧ d < signedLimit

/- Signed range membership is decidable. -/
instance (d : Int) : Decidable (IsSigned d) := by
  unfold IsSigned
  infer_instance

/- A word as an integer of the signed range. -/
def signed? (n : Nat) : Option Int :=
  if n < signedLimit then some n else none

/- The sum of two signed words, if it is one. -/
def addSigned?
    (a b : Int) :
    Option Int :=
  if IsSigned (a + b) then some (a + b) else none

/- A word moved by a signed distance, if it stays one. -/
def shift?
    (a : Nat)
    (d : Int) :
    Option Nat :=
  let moved := (a : Int) + d
  if 0 ≤ moved ∧ moved < limit then
    some moved.toNat
  else
    none

/- A move succeeds exactly when it ends at a word. -/
theorem shift?_eq_some_iff
    (a : Nat)
    (d : Int)
    (b : Nat) :
    shift? a d = some b ↔ (a : Int) + d = b ∧ b < limit := by
  unfold shift?
  simp only
  split
  · simp
    omega
  · simp
    omega

end Word

end Reformat
