import Reformat.Markup.Element
import Reformat.Proofs.Markup.Spaced
import Reformat.Proofs.Text.Run

/-
  How the elements of a body are written, and that the reader
  of elements recognises just that.

  The attributes and the content are kept as they are written.

  Key definitions include:
    * `Markup.ElementWritten`

  Main statements:
    * `Markup.openTag?_eq_some_iff`
    * `Markup.elementReader_reads`
-/

------------------------------------------------------------
-- Elements As They Are Written
------------------------------------------------------------

namespace Reformat

namespace Markup

/- An element as it is written. -/
inductive ElementWritten : List Char → Element → Prop
  | cursor
      {content : List Char}
      (hContent : '<' ∉ content) :
      ElementWritten
        ("<cursor>".toList ++
          (content ++ "</cursor>".toList))
        (.cursor content)
  | empty
      {inside : List Char}
      (hWord : Text.endsWord inside = true)
      (hTag : '>' ∉ inside) :
      ElementWritten
        ("<replacement".toList ++ (inside ++ "/>".toList))
        (.replacement inside [])
  | paired
      {inside content : List Char}
      (hWord : Text.endsWord inside = true)
      (hTag : '>' ∉ inside)
      (hSlash : ∀ c ∈ inside.getLast?, c ≠ '/')
      (hContent : '<' ∉ content) :
      ElementWritten
        ("<replacement".toList ++
          (inside ++
            '>' :: (content ++ "</replacement>".toList)))
        (.replacement inside content)

end Markup

end Reformat

------------------------------------------------------------
-- Start Tags
------------------------------------------------------------

namespace Reformat

namespace Text

/- What follows a text matters to its end only when empty. -/
theorem endsWord_append
    {c : Char}
    (hEnd : isWordChar c = false)
    (front rest : List Char) :
    endsWord (front ++ c :: rest) = endsWord front := by
  cases front with
  | nil => simp [endsWord, hEnd]
  | cons d front => rfl

end Text

namespace Markup

/- A start tag goes up to the first end of a tag. -/
theorem openTag?_eq_some_iff
    {name : String}
    {cs inside rest : List Char} :
    openTag? name cs = some (inside, rest) ↔
      Text.endsWord inside = true ∧
        '>' ∉ inside ∧
          cs = name.toList ++ (inside ++ '>' :: rest) := by
  have hEnds :=
    Text.endsWord_append (c := '>') (by decide +kernel)
  simp only [openTag?, Option.bind_eq_bind,
    Option.bind_eq_some_iff, Text.after?_eq_some_iff]
  constructor
  · intro h
    rcases h with ⟨cs', hName, h⟩
    split at h
    · next hWord =>
      split at h
      · next inside' c rest' hStretch =>
        rcases Text.eq_of_stretch hStretch with ⟨hEq, hTag⟩
        rw [Option.some.injEq, Prod.mk.injEq] at h
        rcases h with ⟨rfl, rfl⟩
        rw [hEq, hEnds] at hWord
        exact ⟨hWord, hTag, by rw [hName, hEq]⟩
      · cases h
    · cases h
  · intro h
    rcases h with ⟨hWord, hTag, hText⟩
    refine ⟨inside ++ '>' :: rest, hText, ?_⟩
    rw [hEnds, if_pos hWord, Text.stretch_run hTag]

/- A text that ends in no slash has nothing before one. -/
theorem before?_slash_eq_none_iff
    (cs : List Char) :
    Text.before? "/" cs = none ↔
      ∀ c ∈ cs.getLast?, c ≠ '/' := by
  constructor
  · intro hNone c hc hEq
    rcases List.getLast?_eq_some_iff.mp hc with
      ⟨front, hFront⟩
    have hSome : Text.before? "/" cs = some front := by
      rw [Text.before?_eq_some_iff, hFront, hEq]
      rfl
    rw [hNone] at hSome
    cases hSome
  · intro hSlash
    cases hBefore : Text.before? "/" cs with
    | none => rfl
    | some front =>
        rw [Text.before?_eq_some_iff] at hBefore
        have hLast : cs.getLast? = some '/' := by
          rw [hBefore]
          exact List.getLast?_concat
        exact absurd rfl (hSlash '/' hLast)

end Markup

end Reformat

------------------------------------------------------------
-- Reading Elements
------------------------------------------------------------

namespace Reformat

namespace Markup

/- The content of an element ends where its end tag begins. -/
theorem content_iff
    {ending : String}
    {tag cs content rest : List Char}
    (hEnding : ending.toList = '<' :: tag) :
    (Text.stretch '<' cs).1 = content ∧
        Text.after? ending (Text.stretch '<' cs).2 =
          some rest ↔
      '<' ∉ content ∧
        cs = content ++ (ending.toList ++ rest) := by
  rw [Text.after?_eq_some_iff]
  constructor
  · intro h
    rcases h with ⟨hContent, hRest⟩
    rw [hEnding, List.cons_append] at hRest
    rcases Text.eq_of_stretch (Prod.ext hContent hRest) with
      ⟨hText, hNot⟩
    rw [hEnding, List.cons_append]
    exact ⟨hNot, hText⟩
  · intro h
    rcases h with ⟨hNot, hText⟩
    rw [hEnding, List.cons_append] at hText ⊢
    rw [hText, Text.stretch_run hNot]
    exact ⟨rfl, rfl⟩

/- A cursor element is read as it is written. -/
theorem cursorElement?_eq_some_iff
    {cs rest : List Char}
    {e : Element} :
    cursorElement? cs = some (e, rest) ↔
      ∃ content,
        '<' ∉ content ∧
          e = .cursor content ∧
            cs =
              "<cursor>".toList ++
                (content ++ ("</cursor>".toList ++ rest)) := by
  have hEnding :
      "</cursor>".toList = '<' :: "/cursor>".toList := rfl
  simp only [cursorElement?, Option.bind_eq_bind,
    Option.bind_eq_some_iff, Option.pure_def,
    Option.some.injEq, Prod.mk.injEq]
  constructor
  · intro h
    rcases h with ⟨cs', hOpen, rest', hClose, rfl, rfl⟩
    rcases (content_iff hEnding).mp ⟨rfl, hClose⟩ with
      ⟨hNot, hText⟩
    rw [Text.after?_eq_some_iff] at hOpen
    exact ⟨_, hNot, rfl, hOpen.trans (congrArg _ hText)⟩
  · intro h
    rcases h with ⟨content, hNot, rfl, hText⟩
    rcases (content_iff hEnding).mpr ⟨hNot, rfl⟩ with
      ⟨hContent, hClose⟩
    exact
      ⟨_, (Text.after?_eq_some_iff _ _ _).mpr hText, rest,
        hClose, congrArg _ hContent, rfl⟩

/- A tag that ends in a slash is an element by itself. -/
theorem replacementElement?_empty
    {inside : List Char}
    (hWord : Text.endsWord inside = true)
    (hTag : '>' ∉ inside)
    (rest : List Char) :
    replacementElement?
        ("<replacement".toList ++
          (inside ++ ("/>".toList ++ rest))) =
      some (.replacement inside [], rest) := by
  have hOpen :
      openTag? "<replacement"
          ("<replacement".toList ++
            (inside ++ ("/>".toList ++ rest))) =
        some (inside ++ "/".toList, rest) := by
    refine openTag?_eq_some_iff.mpr ⟨?_, ?_, ?_⟩
    · exact
        (Text.endsWord_append (by decide +kernel) _ _).trans
          hWord
    · intro hMem
      rcases List.mem_append.mp hMem with hMem | hMem
      · exact hTag hMem
      · exact absurd hMem (by decide)
    · rw [List.append_assoc]
      rfl
  have hSlash :
      Text.before? "/" (inside ++ "/".toList) =
        some inside :=
    (Text.before?_eq_some_iff _ _ _).mpr rfl
  simp only [replacementElement?, hOpen, Option.bind_eq_bind,
    Option.bind_some, hSlash, Option.pure_def]

/- Any other tag has its content up to its end tag. -/
theorem replacementElement?_paired
    {inside content : List Char}
    (hWord : Text.endsWord inside = true)
    (hTag : '>' ∉ inside)
    (hSlash : ∀ c ∈ inside.getLast?, c ≠ '/')
    (hContent : '<' ∉ content)
    (rest : List Char) :
    replacementElement?
        ("<replacement".toList ++
          (inside ++
            '>' ::
              (content ++
                ("</replacement>".toList ++ rest)))) =
      some (.replacement inside content, rest) := by
  have hOpen :=
    openTag?_eq_some_iff.mpr
      ⟨hWord, hTag,
        Eq.refl
          ("<replacement".toList ++
            (inside ++
              '>' ::
                (content ++
                  ("</replacement>".toList ++ rest))))⟩
  have hEnding :
      "</replacement>".toList =
        '<' :: "/replacement>".toList := rfl
  rcases (content_iff hEnding).mpr
      ⟨hContent,
        Eq.refl
          (content ++ ("</replacement>".toList ++ rest))⟩
    with ⟨hValue, hClose⟩
  simp only [replacementElement?, hOpen, Option.bind_eq_bind,
    Option.bind_some, (before?_slash_eq_none_iff _).mpr hSlash,
    hValue, hClose, Option.pure_def]

/- What is read as a replacement element is written as one. -/
theorem written_of_replacementElement?
    {cs rest : List Char}
    {e : Element}
    (h : replacementElement? cs = some (e, rest)) :
    ∃ piece, cs = piece ++ rest ∧ ElementWritten piece e := by
  have hEnding :
      "</replacement>".toList =
        '<' :: "/replacement>".toList := rfl
  simp only [replacementElement?, Option.bind_eq_bind,
    Option.bind_eq_some_iff, Prod.exists,
    openTag?_eq_some_iff] at h
  rcases h with ⟨inside, cs', ⟨hWord, hTag, hText⟩, h⟩
  split at h
  · next attributes hSlash =>
    simp only [Option.pure_def, Option.some.injEq,
      Prod.mk.injEq] at h
    rcases h with ⟨rfl, rfl⟩
    rw [Text.before?_eq_some_iff] at hSlash
    have hAttributes : '>' ∉ attributes := by
      intro hMem
      exact hTag (hSlash ▸ List.mem_append_left _ hMem)
    have hEnds : Text.endsWord attributes = true := by
      rw [hSlash] at hWord
      rw [← hWord]
      exact
        (Text.endsWord_append (by decide +kernel) _ _).symm
    refine ⟨_, ?_, ElementWritten.empty hEnds hAttributes⟩
    rw [hText, hSlash]
    simp only [List.append_assoc]
    rfl
  · next hSlash =>
    simp only [Option.bind_eq_some_iff, Option.pure_def,
      Option.some.injEq, Prod.mk.injEq] at h
    rcases h with ⟨rest', hClose, rfl, rfl⟩
    rcases (content_iff hEnding).mp ⟨rfl, hClose⟩ with
      ⟨hContent, hRest⟩
    refine
      ⟨_, ?_,
        ElementWritten.paired hWord hTag
          ((before?_slash_eq_none_iff _).mp hSlash) hContent⟩
    rw [hText]
    simp only [List.append_assoc, List.cons_append]
    rw [← hRest]

end Markup

end Reformat

------------------------------------------------------------
-- The Reader Of Elements
------------------------------------------------------------

namespace Reformat

namespace Markup

/- No replacement element is read as a cursor element. -/
theorem cursorElement?_replacement
    (cs : List Char) :
    cursorElement? ("<replacement".toList ++ cs) = none :=
  rfl

/- The element at the front is read as it is written. -/
theorem element?_append
    {piece : List Char}
    {e : Element}
    (h : ElementWritten piece e)
    (rest : List Char) :
    element? (piece ++ rest) = some (e, rest) := by
  unfold element?
  cases h with
  | @cursor content hContent =>
      have hRead :=
        cursorElement?_eq_some_iff.mpr
          ⟨content, hContent, rfl,
            Eq.refl
              ("<cursor>".toList ++
                (content ++ ("</cursor>".toList ++ rest)))⟩
      simp only [List.append_assoc, hRead]
  | @empty inside hWord hTag =>
      simp only [List.append_assoc,
        cursorElement?_replacement,
        replacementElement?_empty hWord hTag]
  | @paired inside content hWord hTag hSlash hContent =>
      simp only [List.append_assoc, List.cons_append,
        cursorElement?_replacement,
        replacementElement?_paired hWord hTag hSlash hContent]

/- What is read as an element is written as one. -/
theorem written_of_element?
    {cs rest : List Char}
    {e : Element}
    (h : element? cs = some (e, rest)) :
    ∃ piece, cs = piece ++ rest ∧ ElementWritten piece e := by
  unfold element? at h
  split at h
  · next found hCursor =>
    rw [Option.some.injEq] at h
    rw [h, cursorElement?_eq_some_iff] at hCursor
    rcases hCursor with ⟨content, hContent, rfl, hText⟩
    refine ⟨_, ?_, ElementWritten.cursor hContent⟩
    rw [hText]
    simp only [List.append_assoc]
  · exact written_of_replacementElement? h

/- The reader of elements reads what is written as one. -/
theorem elementReader_reads :
    elementReader.Reads ElementWritten where
  complete rest h := element?_append h rest
  sound := written_of_element?
  blank {c cs} hBlank := by
    have hOpen : c ≠ '<' := Text.ne_of_isBlank hBlank rfl
    cases hRead : elementReader.read? (c :: cs) with
    | none => rfl
    | some next =>
        rcases next with ⟨e, rest⟩
        rcases written_of_element? hRead with
          ⟨piece, hText, hPiece⟩
        cases hPiece <;>
          exact absurd (List.cons.inj hText).1 hOpen

end Markup

end Reformat
