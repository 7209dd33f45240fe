import Reformat.Proofs.Text.Run
import Reformat.Text.Natural

/-
  How numbers are written, and that reading a number accepts
  just that.

  Key definitions include:
    * `Text.Natural.Spelled`

  Main statements:
    * `Text.Natural.read?_eq_some_iff`
    * `Text.Natural.spelled_digits`
    * `Text.Natural.ofDigits?_eq`
-/

------------------------------------------------------------
-- Numbers As They Are Written
------------------------------------------------------------

namespace Reformat

namespace Text.Natural

/- Some digits below the limit, with or without a plus. -/
inductive Spelled : List Char → Nat → Prop
  | intro
      {sign digits : List Char}
      (hSign : sign = [] ∨ sign = ['+'])
      (hSome : digits ≠ [])
      (hDigits : ∀ c ∈ digits, c.isDigit = true)
      (hLimit : Nat.ofDigitChars 10 digits 0 < Word.limit) :
      Spelled (sign ++ digits) (Nat.ofDigitChars 10 digits 0)

/- No blank is a digit. -/
theorem isDigit_of_isBlank :
    ∀ c, isBlank c = true → c.isDigit = false := by
  apply forall_inRanges
  decide +kernel

/- No digit is blank. -/
theorem isBlank_of_isDigit
    {c : Char}
    (h : c.isDigit = true) :
    isBlank c = false := by
  cases hBlank : isBlank c with
  | false => rfl
  | true =>
      rw [isDigit_of_isBlank c hBlank] at h
      exact absurd h Bool.false_ne_true

/- No number is written without a character. -/
theorem Spelled.ne_nil
    {cs : List Char}
    {n : Nat}
    (h : Spelled cs n) :
    cs ≠ [] := by
  cases h with
  | intro hSign hSome hDigits hLimit =>
      exact List.append_ne_nil_of_right_ne_nil _ hSome

/- No number is written with a blank. -/
theorem Spelled.isBlank_of_mem
    {cs : List Char}
    {n : Nat}
    (h : Spelled cs n) :
    ∀ c ∈ cs, isBlank c = false := by
  cases h with
  | intro hSign hSome hDigits hLimit =>
      intro c hc
      rcases List.mem_append.mp hc with hc | hc
      · rcases hSign with rfl | rfl
        · simp at hc
        · rw [List.mem_singleton.mp hc]
          rfl
      · exact isBlank_of_isDigit (hDigits c hc)

/- The digits of a number are digits. -/
theorem isDigit_of_mem_digits
    {n : Nat}
    {c : Char}
    (hMem : c ∈ digits n) :
    c.isDigit = true :=
  Nat.isDigit_of_mem_toDigits (by decide) (by decide) hMem

/- Nothing else is among the digits of a number. -/
theorem not_mem_digits
    {c : Char}
    (hDigit : c.isDigit = false)
    (n : Nat) :
    c ∉ digits n := by
  intro hMem
  have h := isDigit_of_mem_digits hMem
  rw [hDigit] at h
  exact Bool.false_ne_true h

/- The digits of a number spell it. -/
theorem spelled_digits
    {n : Nat}
    (hLimit : n < Word.limit) :
    Spelled (digits n) n := by
  have hValue : Nat.ofDigitChars 10 (digits n) 0 = n :=
    Nat.ofDigitChars_ten_toDigits
  have h :=
    @Spelled.intro [] (digits n) (Or.inl rfl)
      Nat.toDigits_ne_nil (fun _ => isDigit_of_mem_digits)
      (hValue.symm ▸ hLimit)
  rw [List.nil_append, hValue] at h
  exact h

end Text.Natural

end Reformat

------------------------------------------------------------
-- Reading Numbers
------------------------------------------------------------

namespace Reformat

namespace Text.Natural

/- Digits more make no value smaller. -/
theorem le_ofDigitChars
    (digits : List Char)
    (value : Nat) :
    value ≤ Nat.ofDigitChars 10 digits value := by
  induction digits generalizing value with
  | nil => simp
  | cons c digits ih =>
      rw [Nat.ofDigitChars_cons]
      have h := ih (10 * value + (c.toNat - '0'.toNat))
      omega

/- Digits in base ten have the value that they spell. -/
theorem ofDigits?_eq
    {cs : List Char}
    (hDigits : ∀ c ∈ cs, c.isDigit = true) :
    ofDigits? 10 digitValue? cs =
      some (Nat.ofDigitChars 10 cs 0) := by
  unfold ofDigits?
  generalize 0 = value
  induction cs generalizing value with
  | nil => rfl
  | cons c cs ih =>
      rcases List.forall_mem_cons.mp hDigits with
        ⟨hDigit, hOthers⟩
      have hValue :
          digitValue? c = some (c.toNat - '0'.toNat) := by
        unfold digitValue?
        rw [if_pos hDigit]
      rw [List.foldlM_cons, hValue, Nat.ofDigitChars_cons,
        Nat.mul_comm 10]
      exact ih hOthers _

/- Digits are read when they are digits and not too many. -/
theorem readDigits_eq_ok_iff
    {value n : Nat}
    {cs : List Char}
    (hValue : value < Word.limit) :
    readDigits value cs = .ok n ↔
      (∀ c ∈ cs, c.isDigit = true) ∧
        Nat.ofDigitChars 10 cs value = n ∧
          n < Word.limit := by
  induction cs generalizing value with
  | nil =>
      simp only [readDigits, Except.ok.injEq,
        Nat.ofDigitChars_nil, List.not_mem_nil,
        false_implies, implies_true, true_and]
      constructor
      · intro h
        exact ⟨h, h ▸ hValue⟩
      · exact fun h => h.1
  | cons c cs ih =>
      rw [List.forall_mem_cons, Nat.ofDigitChars_cons]
      by_cases hDigit : c.isDigit = true
      · simp only [readDigits, digitValue?, hDigit, if_true,
          true_and, Nat.mul_comm value 10]
        by_cases hStep :
            10 * value + (c.toNat - '0'.toNat) < Word.limit
        · rw [if_pos hStep, ih hStep]
        · -- The value read so far is never made smaller.
          rw [if_neg hStep]
          have hLe :=
            le_ofDigitChars cs
              (10 * value + (c.toNat - '0'.toNat))
          constructor
          · intro h
            cases h
          · rintro ⟨-, hEq, hLimit⟩
            omega
      · simp [readDigits, digitValue?, hDigit]

/- A plus sign is passed over when something follows it. -/
theorem read_plus
    {cs : List Char}
    (hSome : cs ≠ []) :
    read ('+' :: cs) = readDigits 0 cs := by
  cases cs with
  | nil => exact absurd rfl hSome
  | cons c cs => rfl

/- Without a plus sign all of a text is read as digits. -/
theorem read_of_head?_ne
    {cs : List Char}
    (hSome : cs ≠ [])
    (hPlus : cs.head? ≠ some '+') :
    read cs = readDigits 0 cs := by
  cases cs with
  | nil => exact absurd rfl hSome
  | cons c cs =>
      have hc : c ≠ '+' := by simpa using hPlus
      unfold read
      split
      · next h => exact absurd h (by simp)
      · next h => simp [hc] at h
      · next h => simp [hc] at h
      · rfl

/- Reading accepts just what is written as a number. -/
theorem read_eq_ok_iff
    (cs : List Char)
    (n : Nat) :
    read cs = .ok n ↔ Spelled cs n := by
  have hZero : 0 < Word.limit := by decide
  constructor
  · intro h
    by_cases hEmpty : cs = []
    · rw [hEmpty] at h
      cases h
    · by_cases hPlus : cs.head? = some '+'
      · rcases List.head?_eq_some_iff.mp hPlus with
          ⟨digits, rfl⟩
        have hSome : digits ≠ [] := by
          rintro rfl
          cases h
        rw [read_plus hSome, readDigits_eq_ok_iff hZero]
          at h
        rcases h with ⟨hDigits, rfl, hLimit⟩
        exact
          Spelled.intro (Or.inr rfl) hSome hDigits hLimit
      · rw [read_of_head?_ne hEmpty hPlus,
          readDigits_eq_ok_iff hZero] at h
        rcases h with ⟨hDigits, rfl, hLimit⟩
        exact
          Spelled.intro (Or.inl rfl) hEmpty hDigits hLimit
  · intro h
    cases h with
    | @intro sign digits hSign hSome hDigits hLimit =>
        have hRead :
            readDigits 0 digits =
              .ok (Nat.ofDigitChars 10 digits 0) :=
          (readDigits_eq_ok_iff hZero).mpr
            ⟨hDigits, rfl, hLimit⟩
        rcases hSign with rfl | rfl
        · have hPlus : digits.head? ≠ some '+' := by
            intro hHead
            have hDigit :=
              hDigits '+' (List.mem_of_head? hHead)
            exact absurd hDigit (by decide)
          rw [List.nil_append, read_of_head?_ne hSome hPlus]
          exact hRead
        · rw [List.singleton_append, read_plus hSome]
          exact hRead

/- Reading accepts just what is written as a number. -/
theorem read?_eq_some_iff
    (s : String)
    (n : Nat) :
    read? s = some n ↔ Spelled s.toList n := by
  rw [← read_eq_ok_iff]
  unfold read?
  cases read s.toList <;> simp [Except.toOption]

end Text.Natural

end Reformat
