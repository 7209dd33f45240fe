import Reformat.Json.Record
import Reformat.Proofs.Text.Natural

/-
  How the scalars of a record are written, and that they are
  read as such whatever follows them.

  Key definitions include:
    * `Json.isPlain`
    * `Json.EndsNumber`
    * `Json.ScalarWritten`

  Main statements:
    * `Json.stringRest_append`
    * `Json.number_append`
    * `Json.readScalar_append`
-/

------------------------------------------------------------
-- Space And Strings
------------------------------------------------------------

namespace Reformat

namespace Json

/- A character that stands for itself in a string. -/
def isPlain (c : Char) : Bool :=
  c ≠ '"' && c ≠ '\\' && ' ' ≤ c

/- Space in front of something else is passed over. -/
theorem skipSpace_append
    {gap rest : List Char}
    (hGap : gap.all isSpace = true)
    (hEnd : ∀ c ∈ rest.head?, isSpace c = false) :
    skipSpace (gap ++ rest) = rest :=
  Text.dropWhile_run (List.all_eq_true.mp hGap) hEnd

/- Plain characters are read up to the closing quote. -/
theorem stringFrom_append
    {plain : List Char}
    (hPlain : plain.all isPlain = true)
    (done rest : List Char) :
    stringFrom done (plain ++ '"' :: rest) =
      .ok (String.ofList (done.reverse ++ plain), rest) := by
  induction plain generalizing done with
  | nil =>
      rw [List.nil_append, stringFrom, if_pos rfl,
        List.append_nil]
  | cons c plain ih =>
      rw [List.all_cons, Bool.and_eq_true] at hPlain
      rcases hPlain with ⟨hc, hPlain⟩
      simp only [isPlain, Bool.and_eq_true,
        decide_eq_true_eq] at hc
      rcases hc with ⟨⟨hQuote, hEscape⟩, hControl⟩
      have hAllowed : ¬ c < ' ' := by
        intro hLess
        exact absurd hControl (Char.not_le.mpr hLess)
      rw [List.cons_append, stringFrom, if_neg hQuote,
        if_neg hEscape, if_neg hAllowed, ih hPlain,
        List.reverse_cons, List.append_assoc,
        List.singleton_append]

/- A plain string is read up to its closing quote. -/
theorem stringRest_append
    {plain : List Char}
    (hPlain : plain.all isPlain = true)
    (rest : List Char) :
    stringRest (plain ++ '"' :: rest) =
      .ok (String.ofList plain, rest) :=
  stringFrom_append hPlain [] rest

/- A fixed word is read when it is there. -/
theorem word_append
    (ws rest : List Char) :
    word ws (ws ++ rest) = .ok rest := by
  induction ws with
  | nil => rfl
  | cons w ws ih =>
      rw [List.cons_append, word, if_pos rfl, ih]

end Json

end Reformat

------------------------------------------------------------
-- Numbers
------------------------------------------------------------

namespace Reformat

namespace Text.Natural

/- No number but zero is written with a zero in front. -/
theorem head?_digits_ne
    {n : Nat}
    (hPositive : n ≠ 0) :
    (digits n).head? ≠ some '0' := by
  induction n using Nat.strongRecOn with
  | _ n ih =>
      unfold digits at ih ⊢
      rw [Nat.toDigits_eq_if (by decide)]
      split
      · next hLess =>
        have hDigit :
            ∀ d, d < 10 → d ≠ 0 → d.digitChar ≠ '0' := by
          decide
        intro hHead
        exact hDigit n hLess hPositive (by simpa using hHead)
      · have hFewer := ih (n / 10) (by omega) (by omega)
        rw [List.head?_append]
        cases hHead : (Nat.toDigits 10 (n / 10)).head? with
        | none =>
            have hNil := List.head?_eq_none_iff.mp hHead
            exact absurd hNil Nat.toDigits_ne_nil
        | some c =>
            rw [hHead] at hFewer
            exact hFewer

/- The digits of a number begin with a digit. -/
theorem exists_digits_eq_cons (n : Nat) :
    ∃ d ds, digits n = d :: ds ∧ d.isDigit = true := by
  cases hDigits : digits n with
  | nil => exact absurd hDigits Nat.toDigits_ne_nil
  | cons d ds =>
      have hMem : d ∈ digits n := by
        rw [hDigits]
        exact List.mem_cons_self
      exact ⟨d, ds, rfl, isDigit_of_mem_digits hMem⟩

end Text.Natural

namespace Json

/- What follows a number does not go on with it. -/
def EndsNumber (rest : List Char) : Prop :=
  ∀ c ∈ rest.head?,
    c.isDigit = false ∧ c ≠ '.' ∧ c ≠ 'e' ∧ c ≠ 'E'

/- Digits that make up a word are all taken. -/
theorem takeDigits_eq
    {value : Nat}
    {ds : List Char}
    (hLimit : Nat.ofDigitChars 10 ds value < Word.limit)
    (used : Nat) :
    takeDigits value used ds =
      ⟨Nat.ofDigitChars 10 ds value, used + ds.length,
        0⟩ := by
  induction ds generalizing value used with
  | nil => rfl
  | cons c ds ih =>
      rw [Nat.ofDigitChars_cons] at hLimit ⊢
      have hNext :
          value * 10 + digitValue c =
            10 * value + (c.toNat - '0'.toNat) := by
        unfold digitValue
        rw [Nat.mul_comm]
      have hLe :=
        Text.Natural.le_ofDigitChars ds
          (10 * value + (c.toNat - '0'.toNat))
      unfold takeDigits
      simp only [hNext]
      rw [if_pos (by omega), ih hLimit, List.length_cons]
      congr 1
      omega

/- A number that nothing goes on with is read as it is. -/
theorem numberTail_eq
    {rest : List Char}
    (hEnd : EndsNumber rest)
    (value used : Nat) :
    numberTail true ⟨value, used, 0⟩ rest =
      .ok (.natural value, rest) := by
  cases rest with
  | nil => rfl
  | cons c rest =>
      rcases hEnd c (by simp) with ⟨_, hPoint, hLower, hUpper⟩
      unfold numberTail
      split
      · next heq => exact absurd (List.cons.inj heq).1 hPoint
      · simp [hLower, hUpper, integer]

/- The digits of a word are read as that word. -/
theorem number_append
    {n : Nat}
    {rest : List Char}
    (hLimit : n < Word.limit)
    (hEnd : EndsNumber rest) :
    number (Text.Natural.digits n ++ rest) =
      .ok (.natural n, rest) := by
  have hDigits :
      ∀ c ∈ Text.Natural.digits n, c.isDigit = true :=
    fun _ => Text.Natural.isDigit_of_mem_digits
  have hRest : ∀ c ∈ rest.head?, c.isDigit = false :=
    fun c hc => (hEnd c hc).1
  have hSplit :
      digits (Text.Natural.digits n ++ rest) =
        (Text.Natural.digits n, rest) := by
    unfold digits
    rw [Text.takeWhile_run hDigits hRest,
      Text.dropWhile_run hDigits hRest]
  have hValue :
      Nat.ofDigitChars 10 (Text.Natural.digits n) 0 = n :=
    Nat.ofDigitChars_ten_toDigits
  rcases Text.Natural.exists_digits_eq_cons n with
    ⟨d, ds, hCases, hDigit⟩
  rw [hCases] at hSplit hValue ⊢
  have hSign : d ≠ '-' := by
    rintro rfl
    exact absurd hDigit (by decide)
  have hUnsigned :
      number (d :: ds ++ rest) =
        unsignedNumber true (d :: ds ++ rest) := by
    unfold number
    split
    · next heq =>
      exact absurd (List.cons.inj heq).1 hSign
    · rfl
  rw [hUnsigned]
  unfold unsignedNumber
  rw [hSplit]
  by_cases hZero : n = 0
  · subst hZero
    have hNil : d :: ds = ['0'] := hCases.symm
    rw [hNil]
    exact numberTail_eq hEnd 0 1
  · have hHead := Text.Natural.head?_digits_ne hZero
    rw [hCases] at hHead
    have hd : d ≠ '0' := by simpa using hHead
    have hTake := takeDigits_eq (hValue ▸ hLimit) 0
    split
    · next heq => cases heq
    · next heq => cases heq
    · next heq =>
      simp only [Prod.mk.injEq, List.cons.injEq] at heq
      exact absurd heq.1.1 hd
    · next heq =>
      simp only [Prod.mk.injEq, List.cons.injEq] at heq
      exact absurd heq.1.1 hd
    · next heq =>
      simp only [Prod.mk.injEq] at heq
      rcases heq with ⟨rfl, rfl⟩
      rw [hTake, hValue]
      exact numberTail_eq hEnd n _

end Json

end Reformat

------------------------------------------------------------
-- Scalars
------------------------------------------------------------

namespace Reformat

namespace Json

/- The kind of a scalar. -/
def Scalar.kind : Scalar → Kind
  | .word _ => .word
  | .boolean _ => .boolean
  | .text _ => .text

/- A word or a truth value as it is written. -/
inductive ScalarWritten : List Char → Scalar → Prop
  | word
      {n : Nat}
      (hLimit : n < Word.limit) :
      ScalarWritten (Text.Natural.digits n) (.word n)
  | boolean (b : Bool) :
      ScalarWritten (toString b).toList (.boolean b)

/- No digit is space. -/
theorem isSpace_of_isDigit
    {c : Char}
    (hDigit : c.isDigit = true) :
    isSpace c = false := by
  cases hSpace : isSpace c with
  | false => rfl
  | true =>
      simp only [isSpace, Bool.or_eq_true,
        decide_eq_true_eq] at hSpace
      rcases hSpace with ((rfl | rfl) | rfl) | rfl <;>
        exact absurd hDigit (by decide)

/- No scalar begins with space. -/
theorem ScalarWritten.isSpace_head
    {piece : List Char}
    {value : Scalar}
    (h : ScalarWritten piece value)
    (rest : List Char) :
    ∀ c ∈ (piece ++ rest).head?, isSpace c = false := by
  intro c hc
  cases h with
  | @word n hLimit =>
      rcases Text.Natural.exists_digits_eq_cons n with
        ⟨d, ds, hDigits, hDigit⟩
      rw [hDigits] at hc
      have hEq : d = c := by simpa using hc
      rw [← hEq]
      exact isSpace_of_isDigit hDigit
  | boolean b =>
      cases b with
      | false =>
          have hEq : 'f' = c := Option.some.inj hc
          rw [← hEq]
          rfl
      | true =>
          have hEq : 't' = c := Option.some.inj hc
          rw [← hEq]
          rfl

/- A scalar is read as it is written, after some space. -/
theorem readScalar_append
    {gap piece rest : List Char}
    {value : Scalar}
    (hGap : gap.all isSpace = true)
    (hScalar : ScalarWritten piece value)
    (hEnd : EndsNumber rest) :
    readScalar value.kind (gap ++ (piece ++ rest)) =
      .ok (value, rest) := by
  have hSpace :
      skipSpace (gap ++ (piece ++ rest)) = piece ++ rest :=
    skipSpace_append hGap (hScalar.isSpace_head rest)
  unfold readScalar
  rw [hSpace]
  cases hScalar with
  | @word n hLimit =>
      have hNumber := number_append hLimit hEnd
      rcases Text.Natural.exists_digits_eq_cons n with
        ⟨d, ds, hDigits, hDigit⟩
      rw [hDigits, List.cons_append] at hNumber ⊢
      have hStarts :
          startsNumber (d :: (ds ++ rest)) = true := by
        simp [startsNumber, hDigit]
      change
        (if startsNumber (d :: (ds ++ rest)) = true then
            readWord (d :: (ds ++ rest))
          else _) =
          _
      rw [if_pos hStarts]
      unfold readWord
      rw [hNumber]
  | boolean b =>
      cases b with
      | false =>
          change
            (word ['a', 'l', 's', 'e']
                  (['a', 'l', 's', 'e'] ++ rest)).map
                (Scalar.boolean false, ·) =
              _
          rw [word_append]
          rfl
      | true =>
          change
            (word ['r', 'u', 'e']
                  (['r', 'u', 'e'] ++ rest)).map
                (Scalar.boolean true, ·) =
              _
          rw [word_append]
          rfl

end Json

end Reformat
