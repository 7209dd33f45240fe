import Reformat.Proofs.Markup.Root

/-
  Documents as the parts between the signs that open tags.

  A cut that lies before the end of the last part leaves the
  front of the parts.  There is a root element in it only when
  one of the parts closes the document or is an empty root.

  Key definitions include:
    * `Markup.opened`
    * `Markup.Continues`
    * `Markup.Apart`

  Main statements:
    * `Markup.exists_part`
    * `Markup.root?_eq_none_of_cut`
-/

------------------------------------------------------------
-- Parts
------------------------------------------------------------

namespace Reformat

namespace Markup

/- Parts, each with the sign that opens a tag before it. -/
def opened (parts : List (List Char)) : List Char :=
  parts.flatMap ('<' :: ·)

/- A part more is its sign and the part in front. -/
@[simp]
theorem opened_cons
    (part : List Char)
    (parts : List (List Char)) :
    opened (part :: parts) = '<' :: (part ++ opened parts) :=
  rfl

/- Parts may be opened in two goes. -/
@[simp]
theorem opened_append (parts more : List (List Char)) :
    opened (parts ++ more) = opened parts ++ opened more :=
  List.flatMap_append

/- What opened parts begin with is the sign. -/
theorem head_opened
    {parts : List (List Char)}
    {c : Char}
    {cs : List Char}
    (h : opened parts = c :: cs) :
    c = '<' := by
  cases parts with
  | nil => cases h
  | cons part parts =>
      rw [opened_cons] at h
      exact (List.cons.inj h).1.symm

/-
  What follows a sign in the front of opened parts begins with
  one of the parts, or ends within it.
-/
theorem exists_part
    {parts : List (List Char)}
    {before after : List Char}
    (hParts : ∀ part ∈ parts, '<' ∉ part)
    (h : before ++ '<' :: after <+: opened parts) :
    ∃ part ∈ parts, ∃ more,
      after <+: part ++ opened more := by
  induction parts generalizing before with
  | nil =>
      have hNil := List.prefix_nil.mp h
      simp at hNil
  | cons part parts ih =>
      rw [List.forall_mem_cons] at hParts
      rcases hParts with ⟨hPart, hParts⟩
      have hLater :
          ∀ {front},
            front ++ '<' :: after <+: opened parts →
              ∃ p ∈ part :: parts, ∃ more,
                after <+: p ++ opened more := by
        intro front hFront
        rcases ih hParts hFront with ⟨p, hp, hMore⟩
        exact ⟨p, List.mem_cons_of_mem part hp, hMore⟩
      rw [opened_cons] at h
      cases before with
      | nil =>
          rw [List.nil_append, List.cons_prefix_cons] at h
          exact ⟨part, List.mem_cons_self, parts, h.2⟩
      | cons c before =>
          rw [List.cons_append, List.cons_prefix_cons] at h
          rcases h with ⟨-, tail, hTail⟩
          rw [List.append_assoc] at hTail
          -- The sign stands after the first part, as it is
          -- in none of them.
          rcases List.append_eq_append_iff.mp hTail with
            ⟨between, hBetween, hRest⟩ |
              ⟨between, hBefore, hRest⟩
          · cases between with
            | nil =>
                exact
                  @hLater [] ⟨tail, by simpa using hRest⟩
            | cons d between =>
                have hSign : '<' = d :=
                  (List.cons.inj hRest).1
                apply absurd _ hPart
                rw [hBetween, hSign]
                simp
          · apply hLater
            exact ⟨tail, by rw [hRest, List.append_assoc]⟩

/- A word without the sign stands within one part. -/
theorem exists_append_of_opened
    {word after part : List Char}
    {more : List (List Char)}
    (hWord : '<' ∉ word)
    (h : word ++ after <+: part ++ opened more) :
    ∃ rest,
      part = word ++ rest ∧ after <+: rest ++ opened more := by
  rcases h with ⟨tail, hTail⟩
  rw [List.append_assoc] at hTail
  rcases List.append_eq_append_iff.mp hTail with
    ⟨between, hPart, hRest⟩ | ⟨between, hBefore, hRest⟩
  · exact ⟨between, hPart, tail, hRest⟩
  · cases between with
    | nil =>
        refine ⟨[], by simpa using hBefore.symm, tail, ?_⟩
        simpa using hRest.symm
    | cons c between =>
        have hSign : c = '<' := head_opened hRest
        apply absurd _ hWord
        rw [hBefore, hSign]
        simp

end Markup

end Reformat

------------------------------------------------------------
-- Roots Of Cut Documents
------------------------------------------------------------

namespace Reformat

namespace Markup

/- A text with a root has a tag that opens it and an end. -/
theorem exists_append_of_root?
    {cs : List Char}
    {root : Root}
    (h : root? cs = some root) :
    ∃ before inside rest,
      cs =
          before ++
            ("<replacements".toList ++
              (inside ++ '>' :: rest)) ∧
        '>' ∉ inside ∧
          ((∃ front, inside = front ++ ['/']) ∨
            ∃ body after,
              rest =
                body ++ ("</replacements>".toList ++ after)) := by
  have hFront := Text.takeWhile_append_dropBlanks cs
  rcases exists_append_skipDeclaration (Text.dropBlanks cs)
    with ⟨declaration, -, hText⟩
  simp only [root?, Option.bind_eq_bind,
    Option.bind_eq_some_iff, Prod.exists,
    openTag?_eq_some_iff] at h
  rcases h with ⟨inside, rest, ⟨-, hTag, hOpen⟩, h⟩
  have hEq :
      cs =
        cs.takeWhile Text.isBlank ++ declaration ++
          ("<replacements".toList ++
            (inside ++ '>' :: rest)) := by
    rw [← hOpen, List.append_assoc, ← hText, hFront]
  refine ⟨_, inside, rest, hEq, hTag, ?_⟩
  split at h
  · left
    simp only [Option.bind_eq_some_iff] at h
    rcases h with ⟨front, hSlash, -⟩
    exact ⟨front, (Text.before?_eq_some_iff _ _ _).mp hSlash⟩
  · right
    simp only [Option.bind_eq_some_iff] at h
    rcases h with ⟨body, hBody, -⟩
    rw [Text.before?_eq_some_iff] at hBody
    have hTrimmed :
        (Text.dropBlanks rest.reverse).reverse <+: rest := by
      have hSuffix :
          Text.dropBlanks rest.reverse <:+ rest.reverse :=
        List.dropWhile_suffix Text.isBlank
      simpa using List.reverse_prefix.mpr hSuffix
    rw [hBody] at hTrimmed
    rcases hTrimmed with ⟨after, hAfter⟩
    exact ⟨body, after, by rw [← hAfter, List.append_assoc]⟩

/-
  A part after which a document is not complete: it does not
  close the root, and if it opens the root, that has a body.
-/
structure Continues (part : List Char) : Prop where
  plain : '<' ∉ part
  not_closing : ¬ "/replacements>".toList <+: part
  has_body :
    ∀ rest, part = "replacements".toList ++ rest →
      ∃ inside after,
        rest = inside ++ '>' :: after ∧
          '>' ∉ inside ∧ ∀ front, inside ≠ front ++ ['/']

/- Words of which neither begins with the other. -/
def Apart (a b : List Char) : Prop :=
  ¬ a <+: b ∧ ¬ b <+: a

/- Whether words are apart is decided by looking at both. -/
instance (a b : List Char) : Decidable (Apart a b) :=
  inferInstanceAs (Decidable (_ ∧ _))

/- Texts that begin with words that are apart differ. -/
theorem Apart.append_ne
    {a b : List Char}
    (h : Apart a b)
    (x y : List Char) :
    a ++ x ≠ b ++ y := by
  intro hEq
  have ha : a <+: b ++ y := ⟨x, hEq⟩
  have hb : b <+: b ++ y := List.prefix_append b y
  rcases List.prefix_or_prefix_of_prefix ha hb with
    hFirst | hSecond
  · exact h.1 hFirst
  · exact h.2 hSecond

/- A part that begins in another way than roots and ends. -/
theorem continues_append
    {front rest : List Char}
    (hPlain : '<' ∉ front ++ rest)
    (hClosing : Apart front "/replacements>".toList)
    (hRoot : Apart front "replacements".toList) :
    Continues (front ++ rest) where
  plain := hPlain
  not_closing := by
    intro h
    rcases h with ⟨more, hEq⟩
    exact hClosing.append_ne rest more hEq.symm
  has_body := by
    intro more hEq
    exact absurd hEq (hRoot.append_ne rest more)

/- There is no end of a root among parts that continue. -/
theorem not_closed_of_cut
    {parts : List (List Char)}
    {before after : List Char}
    (hParts : ∀ part ∈ parts, Continues part) :
    ¬ before ++ ("</replacements>".toList ++ after) <+:
        opened parts := by
  intro h
  rcases exists_part (fun p hp => (hParts p hp).plain) h with
    ⟨part, hPart, more, hMore⟩
  rcases @exists_append_of_opened "/replacements>".toList
      after part more (by decide) hMore with
    ⟨rest, hEq, -⟩
  exact (hParts part hPart).not_closing ⟨rest, hEq.symm⟩

/- There is no root in the front of parts that continue. -/
theorem root?_eq_none_of_cut
    {parts : List (List Char)}
    {cs : List Char}
    (hParts : ∀ part ∈ parts, Continues part)
    (hFront : cs <+: opened parts) :
    root? cs = none := by
  apply Option.eq_none_iff_forall_ne_some.mpr
  intro root hRoot
  rcases exists_append_of_root? hRoot with
    ⟨before, inside, rest, rfl, hTag, hEnd⟩
  rcases hEnd with ⟨front, hSlash⟩ | ⟨body, after, rfl⟩
  · rcases exists_part (fun p hp => (hParts p hp).plain)
        hFront with
      ⟨part, hPart, more, hMore⟩
    rcases @exists_append_of_opened "replacements".toList
        (inside ++ '>' :: rest) part more (by decide)
        hMore with
      ⟨written, hEq, tail, hWritten⟩
    rcases (hParts part hPart).has_body written hEq with
      ⟨inside', after, rfl, hTag', hBody⟩
    -- Both tags end with the first sign that closes one.
    have hSame : inside = inside' := by
      have hStretch := congrArg (Text.stretch '>') hWritten
      simp only [List.append_assoc, List.cons_append]
        at hStretch
      rw [Text.stretch_run hTag, Text.stretch_run hTag']
        at hStretch
      exact (Prod.mk.inj hStretch).1
    exact hBody front (hSame ▸ hSlash)
  · have hClosed :=
      @not_closed_of_cut parts
        (before ++
          ("<replacements".toList ++ (inside ++ '>' :: body)))
        after hParts
    apply hClosed
    simpa only [List.append_assoc, List.cons_append]
      using hFront

end Markup

end Reformat
