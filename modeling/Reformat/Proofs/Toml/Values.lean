import Reformat.Proofs.Json.Scalar
import Reformat.Proofs.Toml.Strings
import Reformat.Toml.Reader

/-
  Values in settings files are read as they were written, when
  what follows them ends a value.

  Key definitions include:
    * `Toml.EndsValue`
    * `Toml.arrayLines`
    * `Toml.ValueWritten`

  Main statements:
    * `Toml.valueWritten_writeString`
    * `Toml.valueWritten_writeBoolean`
    * `Toml.valueWritten_toText`
    * `Toml.valueWritten_writeStrings`
-/

------------------------------------------------------------
-- Ends Of Values
------------------------------------------------------------

namespace Reformat

namespace Toml

/- The end of a line, of an element or of an array, or of the
  file. -/
def EndsValue (rest : List Char) : Prop :=
  ∀ c ∈ rest.head?, c = '\n' ∨ c = ',' ∨ c = ']'

/- What ends a value is no given other character. -/
theorem EndsValue.head?_ne
    {rest : List Char}
    (hRest : EndsValue rest)
    {c : Char}
    (hOther : ¬ (c = '\n' ∨ c = ',' ∨ c = ']')) :
    rest.head? ≠ some c := by
  intro hHead
  exact hOther (hRest c hHead)

/- A value without brackets is read at any depth. -/
theorem valueWithin?_plain
    (depth : Nat)
    {c : Char}
    {cs : List Char}
    (hArray : c ≠ '[')
    (hTable : c ≠ '\x7b') :
    valueWithin? depth (c :: cs) = plain? (c :: cs) := by
  cases depth with
  | zero => rfl
  | succ depth =>
      unfold valueWithin?
      split
      · next heq => cases heq
      · next heq => exact absurd (List.cons.inj heq).1 hArray
      · next heq => exact absurd (List.cons.inj heq).1 hTable
      · next heq => rfl

end Toml

end Reformat

------------------------------------------------------------
-- Strings
------------------------------------------------------------

namespace Reformat

namespace Toml

/- A string is written with a quote in front. -/
theorem writeString_eq_cons (s : String) :
    ∃ quote more,
      (writeString s).toList = quote :: more ∧
        (quote = '"' ∨ quote = '\'') := by
  unfold writeString
  rw [String.toList_ofList]
  cases Form.of s.toList with
  | basic => exact ⟨_, _, rfl, Or.inl rfl⟩
  | literal => exact ⟨_, _, rfl, Or.inr rfl⟩
  | basicLines => exact ⟨_, _, rfl, Or.inl rfl⟩
  | literalLines => exact ⟨_, _, rfl, Or.inr rfl⟩

/- What a quote begins is a string. -/
theorem valueWithin?_quote
    (depth : Nat)
    {quote : Char}
    (hQuote : quote = '"' ∨ quote = '\'')
    (cs : List Char) :
    valueWithin? depth (quote :: cs) =
      (string? (quote :: cs)).map fun found =>
        (.string found.1, found.2) := by
  rcases hQuote with rfl | rfl
  · exact valueWithin?_plain depth (by simp) (by simp)
  · exact valueWithin?_plain depth (by simp) (by simp)

/- A string is read as a value. -/
theorem valueWithin?_writeString
    (depth : Nat)
    (s : String)
    {rest : List Char}
    (hRest : EndsValue rest) :
    valueWithin? depth ((writeString s).toList ++ rest) =
      some (.string s, rest) := by
  have hRead :=
    string?_writeString s (hRest.head?_ne (by simp))
      (hRest.head?_ne (by simp))
  rcases writeString_eq_cons s with
    ⟨quote, more, hText, hQuote⟩
  rw [hText, List.cons_append] at hRead ⊢
  rw [valueWithin?_quote depth hQuote, hRead]
  rfl

end Toml

end Reformat

------------------------------------------------------------
-- Scalars
------------------------------------------------------------

namespace Reformat

namespace Toml

/- What ends a value ends a scalar. -/
theorem EndsValue.endsScalar
    {rest : List Char}
    (hRest : EndsValue rest) :
    ∀ c ∈ rest.head?, (!endsScalar c) = false := by
  intro c hc
  rcases hRest c hc with rfl | rfl | rfl <;> rfl

/- A scalar is read up to the end of the value. -/
theorem valueWithin?_scalar
    (depth : Nat)
    {run rest : List Char}
    {v : Value}
    (hSome : run ≠ [])
    (hRun : ∀ c ∈ run, (!endsScalar c) = true)
    (hRest : EndsValue rest)
    (hValue : scalarOf? run = some v) :
    valueWithin? depth (run ++ rest) = some (v, rest) := by
  have hScalar : scalar? (run ++ rest) = some (v, rest) := by
    unfold scalar?
    simp only [Text.takeWhile_run hRun hRest.endsScalar,
      Text.dropWhile_run hRun hRest.endsScalar, hValue]
    split
    · exact absurd rfl (hRest.head?_ne (by simp))
    · rfl
  cases run with
  | nil => exact absurd rfl hSome
  | cons c run =>
      have hc := hRun c List.mem_cons_self
      have hNe :
          ∀ mark, endsScalar mark = true → c ≠ mark := by
        rintro mark hMark rfl
        rw [hMark] at hc
        cases hc
      rw [List.cons_append] at hScalar ⊢
      rw [valueWithin?_plain _ (hNe _ rfl) (hNe _ rfl),
        ← hScalar]
      unfold plain?
      split
      · next heq =>
        exact absurd (List.cons.inj heq).1 (hNe _ rfl)
      · next heq =>
        exact absurd (List.cons.inj heq).1 (hNe _ rfl)
      · rfl

/- A truth value is read as a value. -/
theorem valueWithin?_writeBoolean
    (depth : Nat)
    (b : Bool)
    {rest : List Char}
    (hRest : EndsValue rest) :
    valueWithin? depth ((writeBoolean b).toList ++ rest) =
      some (.boolean b, rest) := by
  cases b with
  | false =>
      apply valueWithin?_scalar depth _ _ hRest rfl
      · simp [writeBoolean]
      · simp [writeBoolean, endsScalar]
  | true =>
      apply valueWithin?_scalar depth _ _ hRest rfl
      · simp [writeBoolean]
      · simp [writeBoolean, endsScalar]

end Toml

end Reformat

------------------------------------------------------------
-- Numbers
------------------------------------------------------------

namespace Reformat

namespace Toml

/- The digits of a number are read as that number. -/
theorem decimal?_digits (n : Nat) :
    decimal? (Text.Natural.digits n) = some n := by
  have hGrouped :
      grouped? 10 Text.Natural.digitValue?
          (Text.Natural.digits n) =
        some n := by
    have hValue :
        Nat.ofDigitChars 10 (Text.Natural.digits n) 0 = n :=
      Nat.ofDigitChars_ten_toDigits
    have hSome : Text.Natural.digits n ≠ [] :=
      Nat.toDigits_ne_nil
    unfold grouped?
    rw [Text.splitOn_of_not_mem '_' _
      (Text.Natural.not_mem_digits rfl n)]
    simp [hSome, hValue,
      Text.Natural.ofDigits?_eq
        (fun _ => Text.Natural.isDigit_of_mem_digits)]
  by_cases hZero : n = 0
  · subst hZero
    rfl
  · have hHead := Text.Natural.head?_digits_ne hZero
    unfold decimal?
    split
    · next heq =>
      rw [heq] at hHead
      exact absurd rfl hHead
    · exact hGrouped

/- The digits of a number are read without a sign. -/
theorem anyInteger?_digits (n : Nat) :
    anyInteger? (Text.Natural.digits n) = some (n : Int) := by
  have hNot :
      ∀ mark ∈ ['x', 'o', 'b', '-', '+'],
        mark ∉ Text.Natural.digits n := by
    intro mark hMark
    apply Text.Natural.not_mem_digits
    simp only [List.mem_cons, List.not_mem_nil,
      or_false] at hMark
    rcases hMark with rfl | rfl | rfl | rfl | rfl <;> rfl
  have hDecimal := decimal?_digits n
  unfold anyInteger?
  split
  · next heq =>
    exact absurd (by simp [heq]) (hNot 'x' (by simp))
  · next heq =>
    exact absurd (by simp [heq]) (hNot 'o' (by simp))
  · next heq =>
    exact absurd (by simp [heq]) (hNot 'b' (by simp))
  · next heq =>
    exact absurd (by simp [heq]) (hNot '-' (by simp))
  · next heq =>
    exact absurd (by simp [heq]) (hNot '+' (by simp))
  · rw [hDecimal]
    rfl

/- A word is read as a whole number. -/
theorem integer?_digits
    {n : Nat}
    (hLimit : n < Word.limit) :
    integer? (Text.Natural.digits n) = some (n : Int) := by
  have hWord : Word.limit ≤ 1 <<< 128 := by decide
  have hLow : -Int.ofNat (1 <<< 127) ≤ (n : Int) :=
    Int.le_trans (Int.neg_nonpos_of_nonneg (by decide))
      (Int.natCast_nonneg n)
  have hHigh : (n : Int) < Int.ofNat (1 <<< 128) :=
    Int.ofNat_lt.mpr (Nat.lt_of_lt_of_le hLimit hWord)
  unfold integer?
  simp only [anyInteger?_digits, if_pos (And.intro hLow hHigh)]

/- No character of a number ends a value. -/
theorem endsScalar_of_isDigit
    {c : Char}
    (hDigit : c.isDigit = true) :
    (!endsScalar c) = true := by
  cases hEnds : endsScalar c with
  | false => rfl
  | true =>
      simp only [endsScalar, List.contains_eq_mem,
        List.mem_cons, List.not_mem_nil, or_false,
        decide_eq_true_eq] at hEnds
      rcases hEnds with
        rfl | rfl | rfl | rfl | rfl | rfl | rfl | rfl |
          rfl | rfl | rfl | rfl | rfl <;>
        cases hDigit

/- A word is the value of its digits. -/
theorem scalarOf?_digits
    {n : Nat}
    (hLimit : n < Word.limit) :
    scalarOf? (Text.Natural.digits n) =
      some (.integer n) := by
  have hNot : 'e' ∉ Text.Natural.digits n :=
    Text.Natural.not_mem_digits rfl n
  have hTrue :
      Text.Natural.digits n ≠ ['t', 'r', 'u', 'e'] := by
    intro hEq
    exact hNot (by simp [hEq])
  have hFalse :
      Text.Natural.digits n ≠ ['f', 'a', 'l', 's', 'e'] := by
    intro hEq
    exact hNot (by simp [hEq])
  unfold scalarOf?
  rw [if_neg hTrue, if_neg hFalse, integer?_digits hLimit]

/- A word is read as a value. -/
theorem valueWithin?_toText
    (depth : Nat)
    {n : Nat}
    (hLimit : n < Word.limit)
    {rest : List Char}
    (hRest : EndsValue rest) :
    valueWithin? depth
        ((Text.Natural.toText n).toList ++ rest) =
      some (.integer n, rest) := by
  unfold Text.Natural.toText
  rw [String.toList_ofList]
  apply valueWithin?_scalar depth _ _ hRest
  · exact scalarOf?_digits hLimit
  · exact Nat.toDigits_ne_nil
  · intro c hc
    exact
      endsScalar_of_isDigit
        (Text.Natural.isDigit_of_mem_digits hc)

end Toml

end Reformat

------------------------------------------------------------
-- Gaps
------------------------------------------------------------

namespace Reformat

namespace Toml

/- There is no gap in front of a mark. -/
theorem skipGap?_of_mark
    {c : Char}
    (hSpace : isSpace c = false)
    (hComment : c ≠ '#')
    (hBreak : c ≠ '\n' ∧ c ≠ '\r')
    (cs : List Char) :
    skipGap? (c :: cs) = some (c :: cs) := by
  have hSkip : skipSpace (c :: cs) = c :: cs := by
    simp [skipSpace, hSpace]
  have hNone : skipComment? (c :: cs) = some (c :: cs) := by
    simp [skipComment?, hComment]
  have hLine : lineBreak? (c :: cs) = none := by
    simp [lineBreak?, hBreak.1, hBreak.2]
  rw [skipGap?]
  split
  · next hComment' =>
    rw [hSkip, hNone] at hComment'
    cases hComment'
  · next hComment' =>
    rw [hSkip, hNone] at hComment'
    cases hComment'
    split
    · rfl
    · next hBreak' =>
      rw [hLine] at hBreak'
      cases hBreak'

/- There is no gap in front of a comma. -/
theorem skipGap?_comma (cs : List Char) :
    skipGap? (',' :: cs) = some (',' :: cs) :=
  skipGap?_of_mark rfl (by simp) (by simp) cs

/- There is no gap in front of a bracket. -/
theorem skipGap?_bracket (cs : List Char) :
    skipGap? (']' :: cs) = some (']' :: cs) :=
  skipGap?_of_mark rfl (by simp) (by simp) cs

/- A line feed is passed over. -/
theorem skipGap?_feed (cs : List Char) :
    skipGap? ('\n' :: cs) = skipGap? cs := by
  rw [skipGap?]
  rfl

/- A space is passed over. -/
theorem skipGap?_space (cs : List Char) :
    skipGap? (' ' :: cs) = skipGap? cs := by
  rw [skipGap?, skipGap?.eq_def cs]
  rfl

end Toml

end Reformat

------------------------------------------------------------
-- Arrays
------------------------------------------------------------

namespace Reformat

namespace Toml

/- Each string on a line of its own. -/
def arrayLines (ss : List String) : List Char :=
  ss.flatMap fun s =>
    "    ".toList ++ (writeString s).toList ++ ",\n".toList

/- Each line has a character at least. -/
theorem length_le_arrayLines (ss : List String) :
    ss.length ≤ (arrayLines ss).length := by
  induction ss with
  | nil => simp
  | cons s ss ih =>
      unfold arrayLines at ih ⊢
      rw [List.flatMap_cons, List.length_append,
        List.length_cons]
      simp only [List.length_append]
      have hSpace : "    ".toList.length = 4 := rfl
      omega

/- There is no gap in front of a string. -/
theorem skipGap?_writeString
    (s : String)
    (rest : List Char) :
    skipGap? ((writeString s).toList ++ rest) =
      some ((writeString s).toList ++ rest) := by
  rcases writeString_eq_cons s with
    ⟨quote, more, hText, hQuote⟩
  rw [hText, List.cons_append]
  apply skipGap?_of_mark
  · rcases hQuote with rfl | rfl <;> rfl
  · rcases hQuote with rfl | rfl <;> simp
  · rcases hQuote with rfl | rfl <;> simp

/- No string looks like the end of its array. -/
theorem writeString_append_ne
    (s : String)
    (rest cs : List Char) :
    (writeString s).toList ++ rest ≠ ']' :: cs := by
  rcases writeString_eq_cons s with
    ⟨quote, more, hText, hQuote⟩
  rw [hText, List.cons_append]
  rcases hQuote with rfl | rfl <;> simp

section Elements

variable {value? : ValueReader}

/- No element is left where the array ends. -/
theorem elements?_nil
    {cs rest : List Char}
    (hGap : skipGap? cs = some (']' :: rest))
    (size : Nat) :
    elements? value? (size + 1) cs = some ([], rest) := by
  rw [elements?, hGap]
  rfl

variable
  (hValue :
    ∀ s rest,
      EndsValue rest →
        value? ((writeString s).toList ++ rest) =
          some (.string s, rest))

include hValue

/- A string with a comma behind it is followed by others. -/
theorem elements?_comma
    {s : String}
    {cs rest : List Char}
    (hGap :
      skipGap? cs =
        some ((writeString s).toList ++ ',' :: rest))
    (size : Nat) :
    elements? value? (size + 1) cs =
      (elements? value? size rest).map fun found =>
        (.string s :: found.1, found.2) := by
  have hRead := hValue s (',' :: rest) (by simp [EndsValue])
  have hOpen := writeString_append_ne s (',' :: rest)
  -- Only the second case of each match is left.
  rw [elements?, hGap]
  simp only [Option.bind_eq_bind, Option.bind_some, hRead,
    skipGap?_comma]
  cases elements? value? size rest with
  | none => rfl
  | some found => rfl

/- A string with a bracket behind it is the last one. -/
theorem elements?_bracket
    {s : String}
    {cs rest : List Char}
    (hGap :
      skipGap? cs =
        some ((writeString s).toList ++ ']' :: rest))
    (size : Nat) :
    elements? value? (size + 1) cs =
      some ([.string s], rest) := by
  have hRead := hValue s (']' :: rest) (by simp [EndsValue])
  have hOpen := writeString_append_ne s (']' :: rest)
  rw [elements?, hGap]
  simp only [Option.bind_eq_bind, Option.bind_some, hRead,
    skipGap?_bracket]
  rfl

/- Strings on lines are read up to the end of their array. -/
theorem elements?_arrayLines
    (ss : List String)
    {size : Nat}
    (hSize : ss.length < size)
    (rest : List Char) :
    elements? value? size
        ('\n' :: (arrayLines ss ++ ']' :: rest)) =
      some (ss.map .string, rest) := by
  induction ss generalizing size with
  | nil =>
      rcases Nat.exists_eq_add_one.mpr hSize with
        ⟨size, rfl⟩
      exact
        elements?_nil
          ((skipGap?_feed _).trans (skipGap?_bracket rest))
          size
  | cons s ss ih =>
      rcases Nat.exists_eq_add_one.mpr
          (Nat.zero_lt_of_lt hSize) with
        ⟨size, rfl⟩
      have hGap :
          skipGap?
              ('\n' :: (arrayLines (s :: ss) ++
                ']' :: rest)) =
            some
              ((writeString s).toList ++
                ',' :: '\n' ::
                  (arrayLines ss ++ ']' :: rest)) := by
        have hLines :
            '\n' :: (arrayLines (s :: ss) ++ ']' :: rest) =
              '\n' :: ' ' :: ' ' :: ' ' :: ' ' ::
                ((writeString s).toList ++
                  ',' :: '\n' ::
                    (arrayLines ss ++ ']' :: rest)) := by
          simp [arrayLines]
        rw [hLines, skipGap?_feed, skipGap?_space,
          skipGap?_space, skipGap?_space, skipGap?_space,
          skipGap?_writeString]
      have hFew : ss.length < size := by
        rw [List.length_cons] at hSize
        omega
      rw [elements?_comma hValue hGap, ih hFew]
      rfl

end Elements

/- A single string stands on the line of its brackets. -/
theorem toList_writeStrings_singleton (s : String) :
    (writeStrings [s]).toList =
      '[' :: ((writeString s).toList ++ [']']) := by
  simp [writeStrings]

/- Several strings stand on lines between their brackets. -/
theorem toList_writeStrings_cons_cons
    (s t : String)
    (ss : List String) :
    (writeStrings (s :: t :: ss)).toList =
      '[' :: '\n' ::
        (arrayLines (s :: t :: ss) ++ [']']) := by
  simp [writeStrings, arrayLines, String.toList_join,
    List.flatMap_map]

/- What stands in brackets is read as an array. -/
theorem valueWithin?_array
    {depth : Nat}
    {cs rest : List Char}
    {vs : List Value}
    (hElements :
      elements? (valueWithin? depth) (cs.length + 1) cs =
        some (vs, rest)) :
    valueWithin? (depth + 1) ('[' :: cs) =
      some (.array vs, rest) := by
  rw [valueWithin?, hElements]
  rfl

/- Strings are read as an array. -/
theorem valueWithin?_writeStrings
    (depth : Nat)
    (ss : List String)
    (rest : List Char) :
    valueWithin? (depth + 1)
        ((writeStrings ss).toList ++ rest) =
      some (.array (ss.map .string), rest) := by
  have hValue :
      ∀ s rest,
        EndsValue rest →
          valueWithin? depth ((writeString s).toList ++ rest) =
            some (.string s, rest) :=
    fun s _ => valueWithin?_writeString depth s
  match ss with
  | [] =>
      exact
        valueWithin?_array
          (elements?_nil (skipGap?_bracket rest) _)
  | [s] =>
      have hGap := skipGap?_writeString s (']' :: rest)
      rw [toList_writeStrings_singleton, List.cons_append,
        List.append_assoc, List.singleton_append]
      apply valueWithin?_array
      exact elements?_bracket hValue hGap _
  | s :: t :: ss =>
      have hSize :
          (s :: t :: ss).length <
            ('\n' ::
                (arrayLines (s :: t :: ss) ++
                  ']' :: rest)).length + 1 := by
        have hLines := length_le_arrayLines (s :: t :: ss)
        simp only [List.length_cons,
          List.length_append] at hLines ⊢
        omega
      rw [toList_writeStrings_cons_cons, List.cons_append,
        List.cons_append, List.append_assoc,
        List.singleton_append]
      apply valueWithin?_array
      exact elements?_arrayLines hValue _ hSize rest

end Toml

end Reformat

------------------------------------------------------------
-- Values
------------------------------------------------------------

namespace Reformat

namespace Toml

/- A text is read as a value, and no space is in front. -/
structure ValueWritten
    (text : String)
    (v : Value) : Prop where
  head :
    ∃ first more,
      text.toList = first :: more ∧ isSpace first = false
  read :
    ∀ rest,
      EndsValue rest →
        value? (text.toList ++ rest) = some (v, rest)

/- Strings are written as values. -/
theorem valueWritten_writeString (s : String) :
    ValueWritten (writeString s) (.string s) where
  head := by
    rcases writeString_eq_cons s with
      ⟨quote, more, hText, rfl | rfl⟩
    · exact ⟨_, more, hText, rfl⟩
    · exact ⟨_, more, hText, rfl⟩
  read := fun _ hRest =>
    valueWithin?_writeString maxDepth s hRest

/- Truth values are written as values. -/
theorem valueWritten_writeBoolean (b : Bool) :
    ValueWritten (writeBoolean b) (.boolean b) where
  head := by
    cases b with
    | false => exact ⟨_, _, rfl, rfl⟩
    | true => exact ⟨_, _, rfl, rfl⟩
  read := fun _ hRest =>
    valueWithin?_writeBoolean maxDepth b hRest

/- Words are written as values. -/
theorem valueWritten_toText
    {n : Nat}
    (hLimit : n < Word.limit) :
    ValueWritten (Text.Natural.toText n) (.integer n) where
  head := by
    rcases Text.Natural.exists_digits_eq_cons n with
      ⟨d, ds, hDigits, hDigit⟩
    refine ⟨d, ds, ?_, ?_⟩
    · unfold Text.Natural.toText
      rw [String.toList_ofList, hDigits]
    · cases hSpace : isSpace d with
      | false => rfl
      | true =>
          simp only [isSpace, Bool.or_eq_true,
            decide_eq_true_eq] at hSpace
          rcases hSpace with rfl | rfl
          · cases hDigit
          · cases hDigit
  read := fun _ hRest =>
    valueWithin?_toText maxDepth hLimit hRest

/- Arrays of strings are written as values. -/
theorem valueWritten_writeStrings (ss : List String) :
    ValueWritten (writeStrings ss)
      (.array (ss.map .string)) where
  head := by
    match ss with
    | [] => exact ⟨_, _, rfl, rfl⟩
    | [s] =>
        exact ⟨_, _, toList_writeStrings_singleton s, rfl⟩
    | s :: t :: ss =>
        exact
          ⟨_, _, toList_writeStrings_cons_cons s t ss, rfl⟩
  read := fun rest _ => valueWithin?_writeStrings 79 ss rest

end Toml

end Reformat
