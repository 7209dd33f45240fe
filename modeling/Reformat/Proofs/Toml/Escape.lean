import Reformat.Toml.Writer

/-
  Characters between double quotes are read as they were
  written, be it plainly or as escapes.

  Key definitions include:
    * `Toml.CharWritten`

  Main statements:
    * `Toml.charWritten_escaped`
    * `Toml.basicRest_charWritten`
    * `Toml.basicRest_basicBody`
-/

------------------------------------------------------------
-- Codes
------------------------------------------------------------

namespace Reformat

namespace Toml

/- A hexadecimal digit has the value that it was written for. -/
theorem hexValue?_hexDigit :
    ∀ n, n < 16 →
      Text.Natural.hexValue? (hexDigit n) = some n := by
  decide

/- Every control character has a code of seven bits. -/
theorem toNat_lt_of_isControl
    {c : Char}
    (hControl : isControl c = true) :
    c.toNat < 128 := by
  simp only [isControl, Bool.or_eq_true, Bool.and_eq_true,
    decide_eq_true_eq] at hControl
  rcases hControl with ⟨hLess, -⟩ | rfl
  · have hCode : c.toNat < ' '.toNat := hLess
    have hSpace : ' '.toNat = 32 := rfl
    omega
  · decide

/- Four digits of a code are read as its character. -/
theorem escape?_code
    {c : Char}
    (hCode : c.toNat < 256)
    (rest : List Char) :
    escape?
        ('u' :: '0' :: '0' :: hexDigit (c.toNat / 16) ::
          hexDigit (c.toNat % 16) :: rest) =
      some (c, rest) := by
  have hHigh :=
    hexValue?_hexDigit (c.toNat / 16) (by omega)
  have hLow :=
    hexValue?_hexDigit (c.toNat % 16) (by omega)
  have hZero : Text.Natural.hexValue? '0' = some 0 := rfl
  have hNat : c.toNat / 16 * 16 + c.toNat % 16 = c.toNat := by
    omega
  have hValue :
      Text.Natural.ofDigits? 16 Text.Natural.hexValue?
          ['0', '0', hexDigit (c.toNat / 16),
            hexDigit (c.toNat % 16)] =
        some c.toNat := by
    simp [Text.Natural.ofDigits?, hHigh, hLow, hZero, hNat]
  have hWidth : codeWidth? 'u' = some 4 := rfl
  have hValid : c.toNat.isValidChar := c.valid
  simp only [escape?, hWidth, codeEscape?, List.take_succ_cons,
    List.take_zero, List.length_cons, List.length_nil,
    List.drop_succ_cons, List.drop_zero, if_true, hValue,
    Option.bind_eq_bind, Option.bind_some, hValid,
    Char.ofNat_toNat]

end Toml

end Reformat

------------------------------------------------------------
-- Characters
------------------------------------------------------------

namespace Reformat

namespace Toml

/-
  A character that stands for itself, or an escape that is
  read as it.  No escape begins like the end of a line.
-/
inductive CharWritten : List Char → Char → Prop
  | plain
      {c : Char}
      (hEscape : c ≠ '\\')
      (hControl : isControl c = false) :
      CharWritten [c] c
  | escape
      {c mark : Char}
      {code : List Char}
      (hSpace : isSpace mark = false)
      (hBreak : mark ≠ '\n' ∧ mark ≠ '\r')
      (hRead :
        ∀ rest,
          escape? (mark :: (code ++ rest)) =
            some (c, rest)) :
      CharWritten ('\\' :: mark :: code) c

/- An escape of one letter is one way to write a character. -/
theorem CharWritten.short
    {c mark : Char}
    (hCode : codeWidth? mark = none)
    (hShort : shortEscape? mark = some c)
    (hSpace : isSpace mark = false)
    (hBreak : mark ≠ '\n' ∧ mark ≠ '\r') :
    CharWritten ['\\', mark] c := by
  apply CharWritten.escape hSpace hBreak
  intro rest
  rw [List.nil_append, escape?]
  simp only [hCode, hShort, Option.map_some]

/- A quote is written as an escape. -/
theorem charWritten_quote :
    CharWritten ['\\', '"'] '"' :=
  CharWritten.short rfl rfl rfl (by decide)

/- Every character is written so that it is read. -/
theorem charWritten_escaped (c : Char) :
    CharWritten (escaped c) c := by
  by_cases hShort :
      c ∈ ['\\', '\x08', '\t', '\n', '\x0c', '\r']
  · simp only [List.mem_cons, List.not_mem_nil,
      or_false] at hShort
    rcases hShort with rfl | rfl | rfl | rfl | rfl | rfl <;>
      exact CharWritten.short rfl rfl rfl (by decide)
  · simp only [List.mem_cons, List.not_mem_nil, or_false,
      not_or] at hShort
    rcases hShort with
      ⟨hEscape, hBack, hTab, hLine, hPage, hReturn⟩
    unfold escaped
    rw [if_neg hEscape, if_neg hBack, if_neg hTab,
      if_neg hLine, if_neg hPage, if_neg hReturn]
    by_cases hControl : isControl c = true
    · have hSeven := toNat_lt_of_isControl hControl
      rw [if_pos hControl]
      apply CharWritten.escape rfl (by decide)
      exact escape?_code (by omega)
    · rw [if_neg hControl]
      apply CharWritten.plain hEscape
      simpa using hControl

/- Only a quote could be written as a quote alone. -/
theorem escaped_ne_quote
    {c : Char}
    (hQuote : c ≠ '"') :
    escaped c ≠ ['"'] := by
  intro hAlone
  have hWritten := charWritten_escaped c
  rw [hAlone] at hWritten
  cases hWritten
  exact hQuote rfl

end Toml

end Reformat

------------------------------------------------------------
-- Texts On A Line
------------------------------------------------------------

namespace Reformat

namespace Toml

/- A closing quote ends a text. -/
theorem basicRest_quote (done rest : List Char) :
    basicRest done ('"' :: rest) =
      some (String.ofList done.reverse, rest) := by
  rw [basicRest, if_pos rfl]

/- A written character is read, and then the rest. -/
theorem basicRest_charWritten
    {piece : List Char}
    {c : Char}
    (hPiece : CharWritten piece c)
    (hQuote : piece ≠ ['"'])
    (done rest : List Char) :
    basicRest done (piece ++ rest) =
      basicRest (c :: done) rest := by
  cases hPiece with
  | plain hEscape hControl =>
      have hPlain : c ≠ '"' := by
        rintro rfl
        exact hQuote rfl
      rw [List.singleton_append, basicRest, if_neg hPlain,
        if_neg hEscape, hControl,
        if_neg Bool.false_ne_true]
  | @escape _ mark code hSpace hBreak hRead =>
      rw [List.cons_append, List.cons_append, basicRest,
        if_neg (by decide), if_pos rfl]
      split
      · next hNone =>
        rw [hRead] at hNone
        cases hNone
      · next hSome =>
        rw [hRead] at hSome
        cases hSome
        rfl

/- A text on a line is read up to its closing quote. -/
theorem basicRest_basicBody
    (cs done rest : List Char) :
    basicRest done (basicBody cs ++ '"' :: rest) =
      some (String.ofList (done.reverse ++ cs), rest) := by
  induction cs generalizing done with
  | nil =>
      have hNone : basicBody [] = [] := rfl
      rw [hNone, List.nil_append, basicRest_quote,
        List.append_nil]
  | cons c cs ih =>
      have hBody :
          basicBody (c :: cs) =
            (if c = '"' then ['\\', '"'] else escaped c) ++
              basicBody cs := by
        unfold basicBody
        rw [List.flatMap_cons]
      have hStep :
          basicRest done
              ((if c = '"' then ['\\', '"'] else escaped c) ++
                (basicBody cs ++ '"' :: rest)) =
            basicRest (c :: done)
              (basicBody cs ++ '"' :: rest) := by
        by_cases hQuote : c = '"'
        · subst hQuote
          rw [if_pos rfl]
          exact
            basicRest_charWritten charWritten_quote
              (by decide) done _
        · rw [if_neg hQuote]
          exact
            basicRest_charWritten (charWritten_escaped c)
              (escaped_ne_quote hQuote) done _
      rw [hBody, List.append_assoc, hStep, ih,
        List.reverse_cons, List.append_assoc,
        List.singleton_append]

end Toml

end Reformat
