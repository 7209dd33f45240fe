import Reformat.Proofs.Toml.Quotes
import Reformat.Toml.Writer

/-
  Strings in settings files are read as they were written, in
  whatever form they stand.

  Main statements:
    * `Toml.Form.cases_of`
    * `Toml.dropFirstBreak_append`
    * `Toml.string?_writeString`
-/

------------------------------------------------------------
-- Forms
------------------------------------------------------------

namespace Reformat

namespace Toml

namespace Form

/- A form without escapes is taken only where it holds. -/
theorem holds_of
    {cs : List Char}
    (hPlain : of cs = .literal ∨ of cs = .literalLines) :
    holds (of cs) cs = true := by
  cases hFind : all.find? (holds · cs) with
  | some form =>
      have hForm : of cs = form := by
        unfold of
        rw [hFind]
      have hHolds := List.find?_some hFind
      rw [hForm]
      exact hHolds
  | none =>
      have hForm :
          of cs =
            if cs.contains '\n' then .basicLines
            else .basic := by
        unfold of
        rw [hFind]
      rw [hForm] at hPlain
      split at hPlain
      · rcases hPlain with h | h <;> cases h
      · rcases hPlain with h | h <;> cases h

/- The empty text takes no single quotes. -/
theorem ne_nil_of_literal
    {cs : List Char}
    (hForm : of cs = .literal) :
    cs ≠ [] := by
  rintro rfl
  cases hForm

end Form

/- A text without three quotes has no run of three. -/
theorem not_infix_of_hasThree
    {quote : Char}
    {cs : List Char}
    (hThree : hasThree quote cs = false) :
    ¬ List.replicate 3 quote <:+: cs := by
  intro hInfix
  have hFound :=
    (Text.isSome_splitOnce?_iff _ _).mpr hInfix
  exact Bool.false_ne_true (hThree.symm.trans hFound)

end Toml

end Reformat

------------------------------------------------------------
-- Texts On A Line
------------------------------------------------------------

namespace Reformat

namespace Toml

/- A double quote that two more do not follow opens a line. -/
theorem string?_basic
    {cs : List Char}
    (hQuotes : ¬ ['"', '"'] <+: cs) :
    string? ('"' :: cs) = basicRest [] cs := by
  rw [string?]
  rintro tail rfl
  exact hQuotes (List.prefix_append ['"', '"'] tail)

/- A single quote that two more do not follow opens a line. -/
theorem string?_literal
    {cs : List Char}
    (hQuotes : ¬ ['\'', '\''] <+: cs) :
    string? ('\'' :: cs) = literalRest [] cs := by
  rw [string?]
  rintro tail rfl
  exact hQuotes (List.prefix_append ['\'', '\''] tail)

/- No text with escapes begins with a quote. -/
theorem head?_basicBody_ne (cs : List Char) :
    (basicBody cs).head? ≠ some '"' := by
  cases cs with
  | nil => simp [basicBody]
  | cons c cs =>
      by_cases hQuote : c = '"'
      · simp [basicBody, hQuote]
      · have hPiece :=
          LineWritten.char (charWritten_escaped c)
            (escaped_ne_quote hQuote)
        rcases hPiece.exists_cons with
          ⟨first, more, hFirst, hOther, -⟩
        simp [basicBody, hQuote, hFirst, hOther]

/- A text in single quotes is read up to the last one. -/
theorem literalRest_append
    {cs : List Char}
    (hPlain :
      ∀ c ∈ cs, isControl c = false ∧ c ≠ '\'')
    (done rest : List Char) :
    literalRest done (cs ++ '\'' :: rest) =
      some (String.ofList (done.reverse ++ cs), rest) := by
  induction cs generalizing done with
  | nil =>
      rw [List.nil_append, literalRest, if_pos rfl,
        List.append_nil]
  | cons c cs ih =>
      rcases List.forall_mem_cons.mp hPlain with
        ⟨⟨hControl, hQuote⟩, hOthers⟩
      rw [List.cons_append, literalRest, if_neg hQuote,
        hControl, if_neg Bool.false_ne_true, ih hOthers,
        List.reverse_cons, List.append_assoc,
        List.singleton_append]

end Toml

end Reformat

------------------------------------------------------------
-- First Line Feeds
------------------------------------------------------------

namespace Reformat

namespace Toml

/- Where no control character stands, no line ends. -/
theorem lineBreak?_eq_none
    {cs : List Char}
    (hHead : ∀ c ∈ cs.head?, isControl c = false) :
    lineBreak? cs = none := by
  unfold lineBreak?
  split
  · cases hHead '\n' rfl
  · cases hHead '\r' rfl
  · rfl

/-
  A line feed is put in front of a text of several lines, and
  it is the only one that is dropped.
-/
theorem dropFirstBreak_append
    {cs body : List Char}
    (hHead :
      '\n' ∉ cs → ∀ c ∈ body.head?, isControl c = false) :
    dropFirstBreak
        ((if cs.contains '\n' then ['\n'] else []) ++ body) =
      body := by
  by_cases hFeed : '\n' ∈ cs
  · rw [if_pos (by simpa using hFeed)]
    rfl
  · rw [if_neg (by simpa using hFeed), List.nil_append]
    unfold dropFirstBreak
    rw [lineBreak?_eq_none (hHead hFeed)]
    rfl

/- A text on one line begins with no control character. -/
theorem isControl_head_basicLinesBody
    {cs : List Char}
    (hFeed : '\n' ∉ cs)
    (rest : List Char) :
    ∀ c ∈ (basicLinesBody 0 cs ++ '"' :: rest).head?,
      isControl c = false := by
  cases cs with
  | nil =>
      rintro c ⟨⟩
      rfl
  | cons first cs =>
      rcases basicLinesBody_cons 0 first cs with
        ⟨-, -, hBody⟩ | ⟨piece, hPiece, hBody⟩
      · rw [hBody]
        rintro c ⟨⟩
        rfl
      · rcases hPiece.exists_cons with
          ⟨mark, more, rfl, -, hControl | rfl⟩
        · rw [hBody]
          rintro c ⟨⟩
          exact hControl
        · exact absurd List.mem_cons_self hFeed

end Toml

end Reformat

------------------------------------------------------------
-- Strings
------------------------------------------------------------

namespace Reformat

namespace Toml

variable {cs rest : List Char}

/- A text with escapes is read on one line. -/
theorem string?_basic_form
    (hRest : rest.head? ≠ some '"') :
    string?
        (Form.basic.quotes ++ Form.basic.body cs ++
          Form.basic.quotes ++ rest) =
      some (String.ofList cs, rest) := by
  have hQuotes :
      ¬ ['"', '"'] <+: basicBody cs ++ '"' :: rest := by
    have hHead := head?_basicBody_ne cs
    rintro ⟨tail, hTail⟩
    cases hBody : basicBody cs with
    | nil =>
        rw [hBody] at hTail
        apply hRest
        rw [← (List.cons.inj hTail).2]
        rfl
    | cons first more =>
        rw [hBody] at hTail hHead
        apply hHead
        rw [← (List.cons.inj hTail).1]
        rfl
  have hText :
      Form.basic.quotes ++ Form.basic.body cs ++
          Form.basic.quotes ++ rest =
        '"' :: (basicBody cs ++ '"' :: rest) := by
    simp [Form.quotes, Form.body]
  rw [hText, string?_basic hQuotes, basicRest_basicBody]
  rfl

/- A text without escapes is read on one line. -/
theorem string?_literal_form
    (hForm : Form.of cs = .literal) :
    string?
        (Form.literal.quotes ++ Form.literal.body cs ++
          Form.literal.quotes ++ rest) =
      some (String.ofList cs, rest) := by
  have hHolds := Form.holds_of (Or.inl hForm)
  rw [hForm] at hHolds
  have hPlain :
      ∀ c ∈ cs, isControl c = false ∧ c ≠ '\'' := by
    simp only [Form.holds, Bool.and_eq_true, List.all_eq_true,
      Bool.not_eq_true', List.contains_eq_mem,
      decide_eq_false_iff_not] at hHolds
    intro c hc
    refine ⟨hHolds.1 c hc, ?_⟩
    rintro rfl
    exact hHolds.2 hc
  have hQuotes :
      ¬ ['\'', '\''] <+: cs ++ '\'' :: rest := by
    rintro ⟨tail, hTail⟩
    cases cs with
    | nil => exact Form.ne_nil_of_literal hForm rfl
    | cons first more =>
        apply (hPlain first List.mem_cons_self).2
        exact (List.cons.inj hTail).1.symm
  have hText :
      Form.literal.quotes ++ Form.literal.body cs ++
          Form.literal.quotes ++ rest =
        '\'' :: (cs ++ '\'' :: rest) := by
    simp [Form.quotes, Form.body]
  rw [hText, string?_literal hQuotes,
    literalRest_append hPlain]
  rfl

/- A text with escapes is read on several lines. -/
theorem string?_basicLines_form
    (hRest : rest.head? ≠ some '"') :
    string?
        (Form.basicLines.quotes ++ Form.basicLines.body cs ++
          Form.basicLines.quotes ++ rest) =
      some (String.ofList cs, rest) := by
  have hText :
      Form.basicLines.quotes ++ Form.basicLines.body cs ++
          Form.basicLines.quotes ++ rest =
        '"' :: '"' :: '"' ::
          ((if cs.contains '\n' then ['\n'] else []) ++
            (basicLinesBody 0 cs ++
              '"' :: '"' :: '"' :: rest)) := by
    simp [Form.quotes, Form.body]
  have hBody :=
    basicLinesRest_body (Nat.zero_le 2) hRest cs []
  rw [hText, string?,
    dropFirstBreak_append
      (fun hFeed => isControl_head_basicLinesBody hFeed _)]
  exact hBody

/- A text without escapes is read on several lines. -/
theorem string?_literalLines_form
    (hForm : Form.of cs = .literalLines)
    (hRest : rest.head? ≠ some '\'') :
    string?
        (Form.literalLines.quotes ++
          Form.literalLines.body cs ++
            Form.literalLines.quotes ++ rest) =
      some (String.ofList cs, rest) := by
  have hHolds := Form.holds_of (Or.inr hForm)
  rw [hForm] at hHolds
  simp only [Form.holds, Bool.and_eq_true, List.all_eq_true,
    Bool.not_eq_true', Bool.or_eq_true,
    decide_eq_true_eq] at hHolds
  rcases hHolds with ⟨hPlain, hThree⟩
  have hHead :
      '\n' ∉ cs →
        ∀ c ∈ (cs ++ '\'' :: '\'' :: '\'' :: rest).head?,
          isControl c = false := by
    intro hFeed
    cases cs with
    | nil =>
        rintro c ⟨⟩
        rfl
    | cons first more =>
        rintro c ⟨⟩
        rcases hPlain first List.mem_cons_self with hc | rfl
        · exact hc
        · exact absurd List.mem_cons_self hFeed
  have hText :
      Form.literalLines.quotes ++
          Form.literalLines.body cs ++
            Form.literalLines.quotes ++ rest =
        '\'' :: '\'' :: '\'' ::
          ((if cs.contains '\n' then ['\n'] else []) ++
            (cs ++ '\'' :: '\'' :: '\'' :: rest)) := by
    simp [Form.quotes, Form.body]
  have hQuotes := not_infix_of_hasThree hThree
  have hBody :=
    @literalLinesRest_body 0 rest hRest cs hPlain hQuotes []
  rw [hText, string?, dropFirstBreak_append hHead]
  exact hBody

/- A string is read as it is written, whatever follows it. -/
theorem string?_writeString
    (s : String)
    (hDouble : rest.head? ≠ some '"')
    (hSingle : rest.head? ≠ some '\'') :
    string? ((writeString s).toList ++ rest) =
      some (s, rest) := by
  unfold writeString
  rw [String.toList_ofList]
  cases hForm : Form.of s.toList with
  | basic =>
      rw [string?_basic_form hDouble, String.ofList_toList]
  | literal =>
      rw [string?_literal_form hForm, String.ofList_toList]
  | basicLines =>
      rw [string?_basicLines_form hDouble,
        String.ofList_toList]
  | literalLines =>
      rw [string?_literalLines_form hForm hSingle,
        String.ofList_toList]

end Toml

end Reformat
