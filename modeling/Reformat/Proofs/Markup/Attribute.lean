import Reformat.Markup.Attribute
import Reformat.Proofs.Markup.Spaced
import Reformat.Proofs.Text.Run

/-
  How attributes are written, and that the reader of
  attributes recognises just that.

  Key definitions include:
    * `Markup.AttributeWritten`
    * `Markup.AttributeList`

  Main statements:
    * `Markup.attributeReader_reads`
    * `Markup.attributeList_iff`
-/

------------------------------------------------------------
-- Attributes As They Are Written
------------------------------------------------------------

namespace Reformat

namespace Markup

/-
  An attribute as it is written: a name, an equals sign with
  blanks around it, and a value in quotes, all of whose
  characters are allowed.
-/
inductive AttributeWritten
    (Allowed : Char → Prop) :
    List Char → Attribute → Prop
  | intro
      {first quote : Char}
      {name before after value : List Char}
      (hFirst : startsName first = true)
      (hName : ∀ c ∈ name, continuesName c = true)
      (hBefore : before.all Text.isBlank = true)
      (hAfter : after.all Text.isBlank = true)
      (hQuote : quote = '\'' ∨ quote = '"')
      (hValue : quote ∉ value)
      (hAllowed : ∀ c ∈ value, Allowed c) :
      AttributeWritten Allowed
        (first :: name ++ before ++
          '=' :: (after ++ quote :: (value ++ [quote])))
        ⟨String.ofList (first :: name), decodeText value⟩

/- The attributes inside a tag, without its end in a value. -/
def AttributeList :
    List Char → List Attribute → Prop :=
  Spaced (AttributeWritten (· ≠ '>'))

/- No blank is part of a name. -/
theorem continuesName_of_isBlank
    {c : Char}
    (h : Text.isBlank c = true) :
    continuesName c = false := by
  have hWord := Text.isWordChar_of_isBlank c h
  have hColon : c ≠ ':' := Text.ne_of_isBlank h rfl
  have hDot : c ≠ '.' := Text.ne_of_isBlank h rfl
  have hDash : c ≠ '-' := Text.ne_of_isBlank h rfl
  simp [continuesName, hWord, hColon, hDot, hDash]

/- No blank begins a name. -/
theorem startsName_of_isBlank :
    ∀ c, Text.isBlank c = true → startsName c = false := by
  apply Text.forall_inRanges
  decide +kernel

end Markup

end Reformat

------------------------------------------------------------
-- Reading Attributes
------------------------------------------------------------

namespace Reformat

namespace Markup

/- A value in quotes is read up to the second quote. -/
theorem quotedValue?_append
    {quote : Char}
    {value : List Char}
    (hQuote : quote = '\'' ∨ quote = '"')
    (hValue : quote ∉ value)
    (rest : List Char) :
    quotedValue? (quote :: (value ++ quote :: rest)) =
      some (value, rest) := by
  simp [quotedValue?, hQuote, Text.stretch_run hValue]

/- What is read as a value stands in quotes. -/
theorem eq_of_quotedValue?
    {cs value rest : List Char}
    (h : quotedValue? cs = some (value, rest)) :
    ∃ quote : Char,
      (quote = '\'' ∨ quote = '"') ∧
        quote ∉ value ∧
          cs = quote :: (value ++ quote :: rest) := by
  cases cs with
  | nil => simp [quotedValue?] at h
  | cons quote cs =>
      simp only [quotedValue?] at h
      split at h
      · next hQuote =>
        split at h
        · next front c tail hStretch =>
          rcases Text.eq_of_stretch hStretch with
            ⟨hEq, hNot⟩
          rw [Option.some.injEq, Prod.mk.injEq] at h
          rcases h with ⟨rfl, rfl⟩
          refine ⟨quote, by simpa using hQuote, hNot, ?_⟩
          rw [hEq]
        · simp at h
      · simp at h

/- The attribute at the front is read as it is written. -/
theorem attribute?_append
    {Allowed : Char → Prop}
    {piece : List Char}
    {a : Attribute}
    (h : AttributeWritten Allowed piece a)
    (rest : List Char) :
    attribute? (piece ++ rest) = some (a, rest) := by
  cases h with
  | @intro first quote name before after value hFirst hName
      hBefore hAfter hQuote hValue hAllowed =>
      let tail := quote :: (value ++ quote :: rest)
      have hText :
          first :: name ++ before ++
                '=' :: (after ++ quote :: (value ++ [quote])) ++
              rest =
            first ::
              (name ++ (before ++ '=' :: (after ++ tail))) := by
        simp [tail]
      have hNameEnd :
          ∀ c ∈ (before ++ '=' :: (after ++ tail)).head?,
            continuesName c = false := by
        intro c hc
        cases before with
        | nil =>
            have hEq : '=' = c := by simpa using hc
            rw [← hEq]
            decide +kernel
        | cons b before =>
            have hEq : b = c := by simpa using hc
            have hBlank : Text.isBlank b = true := by
              simpa using List.all_eq_true.mp hBefore b (by simp)
            rw [← hEq]
            exact continuesName_of_isBlank hBlank
      have hGap :
          Text.dropBlanks (before ++ '=' :: (after ++ tail)) =
            '=' :: (after ++ tail) := by
        apply Text.dropBlanks_run hBefore
        intro c hc
        have hEq : '=' = c := by simpa using hc
        rw [← hEq]
        rfl
      have hQuoteGap :
          Text.dropBlanks (after ++ tail) = tail := by
        apply Text.dropBlanks_run hAfter
        intro c hc
        have hEq : quote = c := by simpa [tail] using hc
        rw [← hEq]
        rcases hQuote with hEq | hEq <;> rw [hEq] <;> rfl
      rw [hText]
      simp only [attribute?, hFirst, if_true,
        Text.dropWhile_run hName hNameEnd,
        Text.takeWhile_run hName hNameEnd, hGap, hQuoteGap,
        tail, quotedValue?_append hQuote hValue,
        Option.map_some]

/- What is read as an attribute is written as one. -/
theorem written_of_attribute?
    {cs rest : List Char}
    {a : Attribute}
    (h : attribute? cs = some (a, rest)) :
    ∃ piece,
      cs = piece ++ rest ∧
        AttributeWritten (fun _ => True) piece a := by
  cases cs with
  | nil => simp [attribute?] at h
  | cons first cs =>
      simp only [attribute?] at h
      split at h
      · next hFirst =>
        split at h
        · next cs' hSign =>
          rcases Option.map_eq_some_iff.mp h with
            ⟨⟨value, tail⟩, hQuoted, hEq⟩
          simp only [Prod.mk.injEq] at hEq
          rcases hEq with ⟨rfl, rfl⟩
          rcases eq_of_quotedValue? hQuoted with
            ⟨quote, hQuote, hValue, hTail⟩
          let name := cs.takeWhile continuesName
          let afterName := cs.dropWhile continuesName
          let before := afterName.takeWhile Text.isBlank
          let after := cs'.takeWhile Text.isBlank
          have hText :
              cs =
                name ++
                  (before ++
                    '=' ::
                      (after ++
                        quote :: (value ++ quote :: tail))) := by
            rw [← hTail, Text.takeWhile_append_dropBlanks cs',
              ← hSign,
              Text.takeWhile_append_dropBlanks afterName]
            exact List.takeWhile_append_dropWhile.symm
          have hName : ∀ c ∈ name, continuesName c = true :=
            Text.forall_mem_takeWhile continuesName cs
          have hBefore : before.all Text.isBlank = true :=
            List.all_takeWhile
          have hAfter : after.all Text.isBlank = true :=
            List.all_takeWhile
          refine
            ⟨first :: name ++ before ++
                '=' :: (after ++ quote :: (value ++ [quote])),
              ?_,
              AttributeWritten.intro hFirst hName hBefore
                hAfter hQuote hValue (fun _ _ => trivial)⟩
          refine (congrArg (first :: ·) hText).trans ?_
          simp only [List.cons_append, List.append_assoc,
            List.nil_append]
        · simp at h
      · simp at h

/- The reader of attributes reads what is written as one. -/
theorem attributeReader_reads :
    attributeReader.Reads
      (AttributeWritten fun _ => True) where
  complete rest h := attribute?_append h rest
  sound := written_of_attribute?
  blank hBlank := by
    simp [attributeReader, attribute?,
      startsName_of_isBlank _ hBlank]

end Markup

end Reformat

------------------------------------------------------------
-- Attribute Lists
------------------------------------------------------------

namespace Reformat

namespace Markup

/- Every character of an attribute but of its value. -/
theorem AttributeWritten.forall_mem
    {P : Char → Prop}
    {piece : List Char}
    {a : Attribute}
    (h : AttributeWritten P piece a)
    (hBlank : ∀ c, Text.isBlank c = true → P c)
    (hName : ∀ c, continuesName c = true → P c)
    (hFirst : ∀ c, startsName c = true → P c)
    (hSigns : ∀ c ∈ ['=', '\'', '"'], P c) :
    ∀ c ∈ piece, P c := by
  cases h with
  | @intro first quote name before after value hStart hNames
      hBefore hAfter hQuote hValue hAllowed =>
      have hQuoteAllowed : P quote := by
        apply hSigns
        rcases hQuote with hEq | hEq <;> simp [hEq]
      intro c hc
      simp only [List.mem_append, List.mem_cons,
        List.not_mem_nil, or_false] at hc
      rcases hc with ((rfl | hc) | hc) | rfl | hc | rfl |
        hc | rfl
      · exact hFirst _ hStart
      · exact hName _ (hNames _ hc)
      · exact hBlank _ (List.all_eq_true.mp hBefore _ hc)
      · exact hSigns _ (by simp)
      · exact hBlank _ (List.all_eq_true.mp hAfter _ hc)
      · exact hQuoteAllowed
      · exact hAllowed _ hc
      · exact hQuoteAllowed

/- A value that allows less is allowed by what it holds. -/
theorem AttributeWritten.of_forall_mem
    {P Q : Char → Prop}
    {piece : List Char}
    {a : Attribute}
    (h : AttributeWritten P piece a)
    (hAll : ∀ c ∈ piece, Q c) :
    AttributeWritten Q piece a := by
  cases h with
  | intro hFirst hName hBefore hAfter hQuote hValue _ =>
      refine
        AttributeWritten.intro hFirst hName hBefore hAfter
          hQuote hValue ?_
      intro c hc
      exact hAll c (by simp [hc])

/- Outside values nothing ends a tag. -/
theorem attributeList_iff
    (cs : List Char)
    (as : List Attribute) :
    AttributeList cs as ↔
      Spaced (AttributeWritten fun _ => True) cs as ∧
        '>' ∉ cs := by
  constructor
  · intro h
    refine ⟨?_, ?_⟩
    · apply h.imp_of_forall_mem (fun _ _ => trivial)
      intro piece a hPiece hTrue
      exact hPiece.of_forall_mem hTrue
    · have hBlank :
          ∀ c, Text.isBlank c = true → c ≠ '>' :=
        fun c hc => Text.ne_of_isBlank hc rfl
      have hAll : ∀ c ∈ cs, c ≠ '>' := by
        apply h.forall_mem hBlank
        intro piece a hPiece
        apply hPiece.forall_mem hBlank
        · intro c hc hEq
          rw [hEq] at hc
          exact absurd hc (by decide +kernel)
        · intro c hc hEq
          rw [hEq] at hc
          exact absurd hc (by decide)
        · simp
      exact fun hMem => hAll _ hMem rfl
  · intro h
    rcases h with ⟨hSpaced, hNot⟩
    have hAll : ∀ c ∈ cs, c ≠ '>' := by
      intro c hc hEq
      exact hNot (hEq ▸ hc)
    apply hSpaced.imp_of_forall_mem hAll
    intro piece a hPiece hPieceAll
    exact hPiece.of_forall_mem hPieceAll

/- No list of attributes ends in a slash. -/
theorem AttributeList.getLast?_ne
    {cs : List Char}
    {as : List Attribute}
    (h : AttributeList cs as) :
    ∀ c ∈ cs.getLast?, c ≠ '/' := by
  have hGaps :
      ∀ gap : List Char,
        gap.all Text.isBlank = true →
          ∀ c ∈ gap.getLast?, c ≠ '/' := by
    intro gap hGap c hc
    have hMem := List.mem_of_getLast? hc
    exact
      Text.ne_of_isBlank (List.all_eq_true.mp hGap c hMem)
        rfl
  induction h with
  | nil hGap => exact hGaps _ hGap
  | @cons gap piece rest a as hGap hPiece hRest ih =>
      intro c hc
      rw [List.getLast?_append] at hc
      cases hLast : rest.getLast? with
      | some d =>
          rw [hLast, Option.some_or] at hc
          have hEq : d = c := by simpa using hc
          rw [← hEq]
          exact ih d hLast
      | none =>
          rw [hLast, Option.none_or,
            List.getLast?_append] at hc
          cases hPiece with
          | @intro _ quote _ _ _ _ _ _ _ _ hQuote _ _ =>
              have hEq : quote = c := by
                simpa [List.getLast?_cons,
                  List.getLast?_append] using hc
              rw [← hEq]
              rcases hQuote with hQ | hQ <;> rw [hQ] <;>
                decide

end Markup

end Reformat
