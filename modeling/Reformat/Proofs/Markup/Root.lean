import Reformat.Proofs.Markup.Element

/-
  How a whole document is written: blanks, a declaration if
  one likes, and the root element with its body.

  Key definitions include:
    * `Markup.DeclarationWritten`
    * `Markup.RootWritten`

  Main statements:
    * `Markup.root?_of_written`
    * `Markup.written_of_root?`
-/

------------------------------------------------------------
-- Documents As They Are Written
------------------------------------------------------------

namespace Reformat

namespace Markup

/- A declaration with blanks after it, or none. -/
inductive DeclarationWritten : List Char → Prop
  | none : DeclarationWritten []
  | some
      {inside gap : List Char}
      (hInside : '>' ∉ inside)
      (hGap : gap.all Text.isBlank = true) :
      DeclarationWritten
        ("<?xml".toList ++
          (inside ++ ("?>".toList ++ gap)))

/- A document with a root element that has a body. -/
inductive RootWritten : List Char → Root → Prop
  | intro
      {before declaration inside body after : List Char}
      (hBefore : before.all Text.isBlank = true)
      (hDeclaration : DeclarationWritten declaration)
      (hWord : Text.endsWord inside = true)
      (hTag : '>' ∉ inside)
      (hAfter : after.all Text.isBlank = true) :
      RootWritten
        (before ++
          (declaration ++
            ("<replacements".toList ++
              (inside ++
                '>' ::
                  (body ++
                    ("</replacements>".toList ++ after))))))
        ⟨inside, body⟩

end Markup

end Reformat

------------------------------------------------------------
-- Declarations
------------------------------------------------------------

namespace Reformat

namespace Markup

/- A declaration in front of the root is passed over. -/
theorem skipDeclaration_append
    {declaration : List Char}
    (h : DeclarationWritten declaration)
    (rest : List Char) :
    skipDeclaration
        (declaration ++ ("<replacements".toList ++ rest)) =
      "<replacements".toList ++ rest := by
  cases h with
  | none => rfl
  | @some inside gap hInside hGap =>
      let root := "<replacements".toList ++ rest
      have hOpen :
          Text.after? "<?xml"
              ("<?xml".toList ++
                (inside ++ ("?>".toList ++ gap)) ++ root) =
            some
              (inside ++ "?".toList ++ '>' :: (gap ++ root)) := by
        rw [Text.after?_eq_some_iff]
        simp only [List.append_assoc]
        rfl
      have hInside' : '>' ∉ inside ++ "?".toList := by
        intro hMem
        rcases List.mem_append.mp hMem with hMem | hMem
        · exact hInside hMem
        · exact absurd hMem (by decide)
      have hMark :
          Text.before? "?" (inside ++ "?".toList) =
            some inside :=
        (Text.before?_eq_some_iff _ _ _).mpr rfl
      have hRoot : Text.dropBlanks (gap ++ root) = root := by
        apply Text.dropBlanks_run hGap
        intro c hc
        have hEq : '<' = c := by simpa [root] using hc
        rw [← hEq]
        rfl
      simp only [skipDeclaration, hOpen,
        Text.stretch_run hInside', hMark, Option.isSome_some,
        if_true, hRoot, root]

/- What is passed over is a declaration. -/
theorem exists_append_skipDeclaration (cs : List Char) :
    ∃ declaration,
      DeclarationWritten declaration ∧
        cs = declaration ++ skipDeclaration cs := by
  have hNone :
      ∃ declaration,
        DeclarationWritten declaration ∧
          cs = declaration ++ cs :=
    ⟨[], DeclarationWritten.none, rfl⟩
  unfold skipDeclaration
  split
  · exact hNone
  · next inside hOpen =>
    split
    · next declaration c rest hStretch =>
      split
      · next hMark =>
        rcases Option.isSome_iff_exists.mp hMark with
          ⟨front, hFront⟩
        rcases Text.eq_of_stretch hStretch with
          ⟨hEq, hNot⟩
        rw [Text.after?_eq_some_iff] at hOpen
        rw [Text.before?_eq_some_iff] at hFront
        have hInside : '>' ∉ front := by
          intro hMem
          exact hNot (hFront ▸ List.mem_append_left _ hMem)
        have hGap :
            (rest.takeWhile Text.isBlank).all Text.isBlank =
              true :=
          List.all_takeWhile
        refine
          ⟨_, DeclarationWritten.some hInside hGap, ?_⟩
        rw [hOpen, hEq, hFront]
        conv =>
          lhs
          rw [← Text.takeWhile_append_dropBlanks rest]
        simp only [List.append_assoc]
        rfl
      · exact hNone
    · exact hNone

end Markup

end Reformat

------------------------------------------------------------
-- Reading Documents
------------------------------------------------------------

namespace Reformat

namespace Markup

/- A root element is found as it is written. -/
theorem root?_of_written
    {cs : List Char}
    {root : Root}
    (h : RootWritten cs root) :
    root? cs = some root := by
  cases h with
  | @intro before declaration inside body after hBefore
      hDeclaration hWord hTag hAfter =>
      let rest :=
        body ++ ("</replacements>".toList ++ after)
      let opened :=
        "<replacements".toList ++ (inside ++ '>' :: rest)
      have hFront :
          Text.dropBlanks
              (before ++ (declaration ++ opened)) =
            declaration ++ opened := by
        apply Text.dropBlanks_run hBefore
        intro c hc
        have hEq : '<' = c := by
          cases hDeclaration <;> simpa [opened] using hc
        rw [← hEq]
        rfl
      have hOpen :
          openTag? "<replacements" opened =
            some (inside, rest) :=
        openTag?_eq_some_iff.mpr ⟨hWord, hTag, rfl⟩
      have hBlank : rest.all Text.isBlank = false := by
        have hMem : '<' ∈ rest := by simp [rest]
        cases hAll : rest.all Text.isBlank with
        | false => rfl
        | true =>
            have h := List.all_eq_true.mp hAll '<' hMem
            exact absurd h (by decide)
      have hTrimmed :
          (Text.dropBlanks rest.reverse).reverse =
            body ++ "</replacements>".toList := by
        have hReverse :
            rest.reverse =
              after.reverse ++
                (body ++ "</replacements>".toList).reverse := by
          rw [← List.reverse_append, List.append_assoc]
        rw [hReverse, Text.dropBlanks_run,
          List.reverse_reverse]
        · rw [List.all_reverse]
          exact hAfter
        · intro c hc
          have hEq : '>' = c := by simpa using hc
          rw [← hEq]
          rfl
      have hBody :
          Text.before? "</replacements>"
              (body ++ "</replacements>".toList) =
            some body :=
        (Text.before?_eq_some_iff _ _ _).mpr rfl
      change root? (before ++ (declaration ++ opened)) = _
      simp only [root?, hFront]
      rw [skipDeclaration_append hDeclaration]
      change
        (openTag? "<replacements" opened).bind _ = _
      rw [hOpen, Option.bind_some]
      simp only [hBlank, hTrimmed, hBody,
        Bool.false_eq_true, if_false, Option.bind_eq_bind,
        Option.bind_some, Option.pure_def]

/- A root element with a body is written as one. -/
theorem written_of_root?
    {cs : List Char}
    {root : Root}
    (h : root? cs = some root) :
    root.body = [] ∨ RootWritten cs root := by
  let text := Text.dropBlanks cs
  have hFront := Text.takeWhile_append_dropBlanks cs
  rcases exists_append_skipDeclaration text with
    ⟨declaration, hDeclaration, hText⟩
  simp only [root?, Option.bind_eq_bind,
    Option.bind_eq_some_iff, Prod.exists,
    openTag?_eq_some_iff] at h
  rcases h with ⟨inside, rest, ⟨hWord, hTag, hOpen⟩, h⟩
  split at h
  · simp only [Option.bind_eq_some_iff, Option.pure_def,
      Option.some.injEq] at h
    rcases h with ⟨attributes, -, rfl⟩
    exact Or.inl rfl
  · simp only [Option.bind_eq_some_iff, Option.pure_def,
      Option.some.injEq] at h
    rcases h with ⟨body, hBody, rfl⟩
    rw [Text.before?_eq_some_iff] at hBody
    have hEnd :=
      congrArg List.reverse
        (Text.takeWhile_append_dropBlanks rest.reverse)
    rw [List.reverse_append, List.reverse_reverse, hBody]
      at hEnd
    let after := (rest.reverse.takeWhile Text.isBlank).reverse
    have hAfter : after.all Text.isBlank = true := by
      rw [List.all_reverse]
      exact List.all_takeWhile
    have hBefore :
        (cs.takeWhile Text.isBlank).all Text.isBlank = true :=
      List.all_takeWhile
    right
    rw [← hFront]
    change
      RootWritten (cs.takeWhile Text.isBlank ++ text) _
    rw [hText, hOpen, ← hEnd, List.append_assoc]
    exact
      RootWritten.intro hBefore hDeclaration hWord hTag hAfter

end Markup

end Reformat
