import Reformat.Proofs.Text.Run
import Reformat.Proofs.Toml.Escape

/-
  Texts in three quotes are read as they were written.

  One or two quotes of a text are no end of it, for something
  else follows them; but where they stand right before the end
  the first three quotes there are not the last ones.  So the
  quotes read last are carried along until it is known what
  follows them.

  Key definitions include:
    * `Toml.EndsAtQuotes`
    * `Toml.LineWritten`

  Main statements:
    * `Toml.EndsAtQuotes.read_quotes`
    * `Toml.EndsAtQuotes.read_end`
    * `Toml.basicLinesRest_body`
    * `Toml.literalLinesRest_body`
-/

------------------------------------------------------------
-- Runs Of Quotes
------------------------------------------------------------

namespace Reformat

namespace Toml

/-
  A reader takes three quotes as the end of a text, and a quote
  that two more do not follow as a part of it.
-/
structure EndsAtQuotes
    (quote : Char)
    (read :
      List Char →
        List Char → Option (String × List Char)) : Prop where
  atEnd :
    ∀ done cs,
      read done (quote :: quote :: quote :: cs) =
        some (lastQuotes quote done cs)
  before :
    ∀ done cs,
      ¬ [quote, quote] <+: cs →
        read done (quote :: cs) = read (quote :: done) cs

/- One more of equal characters may stand behind them. -/
theorem replicate_append_cons
    (count : Nat)
    (c : Char)
    (cs : List Char) :
    List.replicate count c ++ c :: cs =
      List.replicate (count + 1) c ++ cs := by
  rw [List.replicate_succ', List.append_assoc,
    List.singleton_append]

/- One more of equal characters may stand in front of them. -/
theorem replicate_append_cons_eq_cons
    (count : Nat)
    (c : Char)
    (cs : List Char) :
    List.replicate count c ++ c :: cs =
      c :: (List.replicate count c ++ cs) := by
  rw [replicate_append_cons, List.replicate_succ,
    List.cons_append]

namespace EndsAtQuotes

variable {quote : Char}
variable
  {read :
    List Char → List Char → Option (String × List Char)}

/- Up to two quotes in front of something else are text. -/
theorem read_quotes
    (hRead : EndsAtQuotes quote read)
    {count : Nat}
    (hFew : count ≤ 2)
    {c : Char}
    (hOther : c ≠ quote)
    (done cs : List Char) :
    read done (List.replicate count quote ++ c :: cs) =
      read (List.replicate count quote ++ done) (c :: cs) := by
  induction count generalizing done with
  | zero => rfl
  | succ count ih =>
      have hBefore :
          ¬ [quote, quote] <+:
            List.replicate count quote ++ c :: cs := by
        -- There is at most one more quote in front of `c`.
        rcases Nat.le_one_iff_eq_zero_or_eq_one.mp
            (Nat.le_of_succ_le_succ hFew) with rfl | rfl
        · simp [hOther.symm]
        · simp [hOther.symm]
      rw [List.replicate_succ, List.cons_append,
        hRead.before _ _ hBefore, ih (by omega),
        replicate_append_cons_eq_cons, List.cons_append]

/- Up to two quotes right before the end are text. -/
theorem read_end
    (hRead : EndsAtQuotes quote read)
    {count : Nat}
    (hFew : count ≤ 2)
    {rest : List Char}
    (hRest : rest.head? ≠ some quote)
    (done : List Char) :
    read done
        (List.replicate count quote ++
          quote :: quote :: quote :: rest) =
      some
        (String.ofList
            (done.reverse ++ List.replicate count quote),
          rest) := by
  have hQuotes :
      (List.replicate count quote ++ rest).takeWhile
          (· = quote) =
        List.replicate count quote := by
    apply Text.takeWhile_run
    · intro c hc
      simpa using List.eq_of_mem_replicate hc
    · intro c hc
      have hNe : c ≠ quote := by
        rintro rfl
        exact hRest hc
      simpa using hNe
  have hTake :
      (List.replicate count quote).take 2 =
        List.replicate count quote := by
    apply List.take_of_length_le
    rw [List.length_replicate]
    exact hFew
  simp only [replicate_append_cons_eq_cons]
  rw [hRead.atEnd]
  unfold lastQuotes
  simp only [hQuotes, hTake, List.drop_left]

end EndsAtQuotes

end Toml

end Reformat

------------------------------------------------------------
-- Double Quotes
------------------------------------------------------------

namespace Reformat

namespace Toml

/- Controls other than the line feed have no place in lines. -/
theorem isControl_and_ne_feed
    {c : Char}
    (hPlain : isControl c = false ∨ c = '\n') :
    (isControl c && decide (c ≠ '\n')) = false := by
  rcases hPlain with hPlain | rfl
  · rw [hPlain, Bool.false_and]
  · rfl

/- A character that is no escape stands for itself. -/
theorem basicLinesRest_plain
    {c : Char}
    (hEscape : c ≠ '\\')
    (hPlain : isControl c = false ∨ c = '\n')
    {done cs : List Char}
    (hQuotes : c = '"' → ¬ ['"', '"'] <+: cs) :
    basicLinesRest done (c :: cs) =
      basicLinesRest (c :: done) cs := by
  rw [basicLinesRest, if_neg hEscape,
    isControl_and_ne_feed hPlain, if_neg Bool.false_ne_true]
  · rintro tail rfl rfl
    exact hQuotes rfl (List.prefix_append ['"', '"'] tail)
  · rintro tail rfl -
    rcases hPlain with hPlain | hPlain
    · cases hPlain
    · cases hPlain

/- Texts with escapes end at three double quotes. -/
theorem endsAtQuotes_basicLinesRest :
    EndsAtQuotes '"' basicLinesRest where
  atEnd := by
    intro done cs
    rw [basicLinesRest]
  before := by
    intro done cs hBefore
    rw [basicLinesRest_plain (by simp) (.inl rfl)]
    intro _ hQuotes
    exact hBefore hQuotes

/-
  A written character other than a quote that stands for
  itself, or a line feed.
-/
inductive LineWritten : List Char → Char → Prop
  | char
      {piece : List Char}
      {c : Char}
      (hPiece : CharWritten piece c)
      (hQuote : piece ≠ ['"']) :
      LineWritten piece c
  | feed : LineWritten ['\n'] '\n'

/-
  It begins with something else than a quote, and with a
  control character only if it is a line feed.
-/
theorem LineWritten.exists_cons
    {piece : List Char}
    {c : Char}
    (h : LineWritten piece c) :
    ∃ first more,
      piece = first :: more ∧
        first ≠ '"' ∧
          (isControl first = false ∨ c = '\n') := by
  cases h with
  | char hPiece hQuote =>
      cases hPiece with
      | plain hEscape hControl =>
          refine ⟨c, [], rfl, ?_, Or.inl hControl⟩
          rintro rfl
          exact hQuote rfl
      | @escape _ mark code hSpace hBreak hRead =>
          exact
            ⟨'\\', mark :: code, rfl, by simp, Or.inl rfl⟩
  | feed => exact ⟨'\n', [], rfl, by simp, Or.inr rfl⟩

/- An escape is no end of a line. -/
theorem lineEnd?_eq_none
    {mark : Char}
    {cs : List Char}
    (hSpace : isSpace mark = false)
    (hBreak : mark ≠ '\n' ∧ mark ≠ '\r') :
    lineEnd? (mark :: cs) = none := by
  have hSkip :
      (mark :: cs).dropWhile isSpace = mark :: cs := by
    rw [List.dropWhile_cons, hSpace,
      if_neg Bool.false_ne_true]
  have hNone : lineBreak? (mark :: cs) = none := by
    simp [lineBreak?, hBreak.1, hBreak.2]
  unfold lineEnd?
  rw [hSkip, hNone]

/- A piece of a line is read, and then the rest. -/
theorem basicLinesRest_lineWritten
    {piece : List Char}
    {c : Char}
    (h : LineWritten piece c)
    (done rest : List Char) :
    basicLinesRest done (piece ++ rest) =
      basicLinesRest (c :: done) rest := by
  cases h with
  | char hPiece hQuote =>
      cases hPiece with
      | plain hEscape hControl =>
          apply basicLinesRest_plain hEscape (.inl hControl)
          rintro rfl
          exact absurd rfl hQuote
      | @escape _ mark code hSpace hBreak hRead =>
          rw [List.cons_append, List.cons_append,
            basicLinesRest, if_pos rfl]
          · split
            · next hEnd =>
              rw [lineEnd?_eq_none hSpace hBreak] at hEnd
              cases hEnd
            · split
              · next hNone =>
                rw [hRead] at hNone
                cases hNone
              · next hSome =>
                rw [hRead] at hSome
                cases hSome
                rfl
          · simp
          · simp
  | feed =>
      exact basicLinesRest_plain (by simp) (.inr rfl) (by simp)

/-
  What is written first: a quote as it is, if it makes no
  third one, or else a piece of a line.
-/
theorem basicLinesBody_cons
    (count : Nat)
    (c : Char)
    (cs : List Char) :
    (c = '"' ∧ count < 2 ∧
        basicLinesBody count (c :: cs) =
          '"' :: basicLinesBody (count + 1) cs) ∨
      ∃ piece,
        LineWritten piece c ∧
          basicLinesBody count (c :: cs) =
            piece ++ basicLinesBody 0 cs := by
  rw [basicLinesBody]
  by_cases hQuote : c = '"'
  · rw [if_pos hQuote]
    by_cases hLess : count < 2
    · rw [if_pos hLess]
      exact Or.inl ⟨hQuote, hLess, rfl⟩
    · rw [if_neg hLess, hQuote]
      exact
        Or.inr ⟨['\\', '"'], .char charWritten_quote (by simp),
          rfl⟩
  · rw [if_neg hQuote]
    by_cases hFeed : c = '\n'
    · rw [if_pos hFeed, hFeed]
      exact Or.inr ⟨['\n'], .feed, rfl⟩
    · rw [if_neg hFeed]
      exact
        Or.inr ⟨escaped c,
          .char (charWritten_escaped c)
            (escaped_ne_quote hQuote),
          rfl⟩

/- A text with escapes is read up to the quotes after it. -/
theorem basicLinesRest_body
    {count : Nat}
    (hFew : count ≤ 2)
    {rest : List Char}
    (hRest : rest.head? ≠ some '"')
    (cs done : List Char) :
    basicLinesRest done
        (List.replicate count '"' ++
          (basicLinesBody count cs ++
            '"' :: '"' :: '"' :: rest)) =
      some
        (String.ofList
            (done.reverse ++ List.replicate count '"' ++ cs),
          rest) := by
  have hEnds := endsAtQuotes_basicLinesRest
  -- The quotes read last are those that may end the text.
  induction cs generalizing count done with
  | nil =>
      rw [basicLinesBody, List.nil_append, List.append_nil]
      exact hEnds.read_end hFew hRest done
  | cons c cs ih =>
      rcases basicLinesBody_cons count c cs with
        ⟨rfl, hLess, hBody⟩ | ⟨piece, hPiece, hBody⟩
      · rw [hBody, List.append_assoc done.reverse,
          List.cons_append, replicate_append_cons,
          replicate_append_cons,
          ← List.append_assoc done.reverse]
        exact ih (Nat.succ_le_of_lt hLess) done
      · rcases hPiece.exists_cons with
          ⟨first, more, hFirst, hOther, -⟩
        have hStep := basicLinesRest_lineWritten hPiece
        have hNext := ih (Nat.zero_le 2)
        rw [hFirst] at hStep hBody
        rw [hBody, List.append_assoc, List.cons_append,
          hEnds.read_quotes hFew hOther, ← List.cons_append,
          hStep]
        simpa using
          hNext (c :: (List.replicate count '"' ++ done))

end Toml

end Reformat

------------------------------------------------------------
-- Single Quotes
------------------------------------------------------------

namespace Reformat

namespace Toml

/- A character stands for itself. -/
theorem literalLinesRest_plain
    {c : Char}
    (hPlain : isControl c = false ∨ c = '\n')
    {done cs : List Char}
    (hQuotes : c = '\'' → ¬ ['\'', '\''] <+: cs) :
    literalLinesRest done (c :: cs) =
      literalLinesRest (c :: done) cs := by
  rw [literalLinesRest, isControl_and_ne_feed hPlain,
    if_neg Bool.false_ne_true]
  · rintro tail rfl rfl
    exact hQuotes rfl (List.prefix_append ['\'', '\''] tail)
  · rintro tail rfl -
    rcases hPlain with hPlain | hPlain
    · cases hPlain
    · cases hPlain

/- Texts without escapes end at three single quotes. -/
theorem endsAtQuotes_literalLinesRest :
    EndsAtQuotes '\'' literalLinesRest where
  atEnd := by
    intro done cs
    rw [literalLinesRest]
  before := by
    intro done cs hBefore
    rw [literalLinesRest_plain (.inl rfl)]
    intro _ hQuotes
    exact hBefore hQuotes

/- Where no three quotes stand, no three stand in front. -/
theorem le_two_of_not_infix
    {count : Nat}
    {c : Char}
    {cs : List Char}
    (hInfix :
      ¬ List.replicate 3 c <:+:
        List.replicate count c ++ cs) :
    count ≤ 2 := by
  apply Nat.le_of_not_lt
  intro hMany
  apply hInfix
  have hPrefix :
      List.replicate 3 c <+: List.replicate count c := by
    rw [List.prefix_replicate_iff, List.length_replicate]
    exact ⟨hMany, rfl⟩
  exact (hPrefix.trans (List.prefix_append _ _)).isInfix

/- A text without escapes is read up to the quotes after it. -/
theorem literalLinesRest_body
    {count : Nat}
    {rest : List Char}
    (hRest : rest.head? ≠ some '\'')
    {cs : List Char}
    (hPlain : ∀ c ∈ cs, isControl c = false ∨ c = '\n')
    (hQuotes :
      ¬ List.replicate 3 '\'' <:+:
        List.replicate count '\'' ++ cs)
    (done : List Char) :
    literalLinesRest done
        (List.replicate count '\'' ++
          (cs ++ '\'' :: '\'' :: '\'' :: rest)) =
      some
        (String.ofList
            (done.reverse ++ List.replicate count '\'' ++ cs),
          rest) := by
  have hEnds := endsAtQuotes_literalLinesRest
  induction cs generalizing count done with
  | nil =>
      have hFew := le_two_of_not_infix hQuotes
      rw [List.nil_append, List.append_nil]
      exact hEnds.read_end hFew hRest done
  | cons c cs ih =>
      rcases List.forall_mem_cons.mp hPlain with
        ⟨hFirst, hOthers⟩
      by_cases hQuote : c = '\''
      · subst hQuote
        rw [replicate_append_cons] at hQuotes
        rw [List.append_assoc done.reverse,
          List.cons_append, replicate_append_cons,
          replicate_append_cons,
          ← List.append_assoc done.reverse]
        exact ih hOthers hQuotes done
      · have hFew := le_two_of_not_infix hQuotes
        have hNone :
            ¬ List.replicate 3 '\'' <:+:
              List.replicate 0 '\'' ++ cs := by
          intro hInfix
          apply hQuotes
          apply hInfix.trans
          apply List.IsSuffix.isInfix
          exact
            (List.suffix_cons c cs).trans
              (List.suffix_append _ _)
        rw [List.cons_append, hEnds.read_quotes hFew hQuote,
          literalLinesRest_plain hFirst
            (fun hEq => absurd hEq hQuote)]
        simpa using
          ih hOthers hNone
            (c :: (List.replicate count '\'' ++ done))

end Toml

end Reformat
