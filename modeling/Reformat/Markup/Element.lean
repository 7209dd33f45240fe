import Reformat.Markup.Scan
import Reformat.Text.Affix
import Reformat.Text.Blank
import Reformat.Text.WordChar

/-
  Replacement documents as markup: a root element whose body
  holds cursor and replacement elements.

  The attributes and the content of an element are kept as
  they are written; they are read where their meaning is known.

  Key definitions include:
    * `Markup.Element`
    * `Markup.element?`
    * `Markup.elements`
    * `Markup.Root`
    * `Markup.root?`
-/

------------------------------------------------------------
-- Elements
------------------------------------------------------------

namespace Reformat

namespace Markup

/- An element of the body. -/
inductive Element
  | cursor (content : List Char)
  | replacement (attributes content : List Char)
deriving DecidableEq

/- The text from the start tag `name` up to its end. -/
def openTag?
    (name : String)
    (cs : List Char) :
    Option (List Char × List Char) := do
  let cs ← Text.after? name cs
  if Text.endsWord cs then
    match Text.stretch '>' cs with
    | (inside, _ :: rest) => some (inside, rest)
    | (_, []) => none
  else
    none

/- The cursor element at the front, and what follows. -/
def cursorElement?
    (cs : List Char) :
    Option (Element × List Char) := do
  let cs ← Text.after? "<cursor>" cs
  let (content, cs) := Text.stretch '<' cs
  let rest ← Text.after? "</cursor>" cs
  pure (.cursor content, rest)

/-
  The replacement element at the front, and what follows.  A
  tag that ends in a slash has no content.
-/
def replacementElement?
    (cs : List Char) :
    Option (Element × List Char) := do
  let (inside, cs) ← openTag? "<replacement" cs
  match Text.before? "/" inside with
  | some attributes =>
      pure (.replacement attributes [], cs)
  | none =>
      let (content, cs) := Text.stretch '<' cs
      let rest ← Text.after? "</replacement>" cs
      pure (.replacement inside content, rest)

/- The element at the front, and what follows. -/
def element?
    (cs : List Char) :
    Option (Element × List Char) :=
  match cursorElement? cs with
  | some found => some found
  | none => replacementElement? cs

/- What follows a start tag is shorter. -/
theorem length_openTag?
    {name : String}
    {cs inside rest : List Char}
    (h : openTag? name cs = some (inside, rest)) :
    rest.length < cs.length := by
  simp only [openTag?, Option.bind_eq_bind,
    Option.bind_eq_some_iff] at h
  obtain ⟨cs', hAfter, h⟩ := h
  have hLength := Text.length_after? hAfter
  have hLe := Text.length_stretch_snd_le '>' cs'
  split at h
  · split at h
    · next heq =>
      rw [heq] at hLe
      simp only [Option.some.injEq, Prod.mk.injEq] at h
      simp only [List.length_cons, h.2] at hLe
      omega
    · simp at h
  · simp at h

/- What follows an element is shorter. -/
theorem length_element?
    {cs : List Char}
    {e : Element}
    {rest : List Char}
    (h : element? cs = some (e, rest)) :
    rest.length < cs.length := by
  unfold element? at h
  split at h
  · next found heq =>
    simp only [cursorElement?, Option.bind_eq_bind,
      Option.bind_eq_some_iff, Option.pure_def,
      Option.some.injEq] at heq
    obtain ⟨cs₁, h₁, cs₂, h₂, rfl⟩ := heq
    simp only [Option.some.injEq, Prod.mk.injEq] at h
    have hLe := Text.length_stretch_snd_le '<' cs₁
    have l₁ := Text.length_after? h₁
    have l₂ := Text.length_after? h₂
    have hTag : "<cursor>".toList.length = 8 := by decide
    rw [← h.2]
    omega
  · simp only [replacementElement?, Option.bind_eq_bind,
      Option.bind_eq_some_iff, Prod.exists] at h
    obtain ⟨inside, cs₁, hOpen, h⟩ := h
    have hLt := length_openTag? hOpen
    split at h
    · simp only [Option.pure_def, Option.some.injEq,
        Prod.mk.injEq] at h
      rw [← h.2]
      exact hLt
    · simp only [Option.bind_eq_some_iff, Option.pure_def,
        Option.some.injEq, Prod.mk.injEq] at h
      obtain ⟨cs₂, h₂, -, rfl⟩ := h
      have hLe := Text.length_stretch_snd_le '<' cs₁
      have l₂ := Text.length_after? h₂
      omega

/- The reader of elements. -/
def elementReader : PieceReader Element where
  read? := element?
  shorter := length_element?

/- The elements of a body, with what stands between. -/
def elements (cs : List Char) : Pieces Element :=
  scan elementReader cs

end Markup

end Reformat

------------------------------------------------------------
-- Documents
------------------------------------------------------------

namespace Reformat

namespace Markup

/- The root element as it is written. -/
structure Root where
  attributes : List Char
  body : List Char
deriving DecidableEq

/- The text after a declaration and blanks, if there is one. -/
def skipDeclaration (cs : List Char) : List Char :=
  match Text.after? "<?xml" cs with
  | none => cs
  | some inside =>
      match Text.stretch '>' inside with
      | (declaration, _ :: rest) =>
          if (Text.before? "?" declaration).isSome then
            Text.dropBlanks rest
          else cs
      | (_, []) => cs

/-
  The root element that makes up a text, blanks at either end
  and a declaration apart.
-/
def root? (cs : List Char) : Option Root := do
  let cs := skipDeclaration (Text.dropBlanks cs)
  let (inside, rest) ← openTag? "<replacements" cs
  if rest.all Text.isBlank then
    let attributes ← Text.before? "/" inside
    pure ⟨attributes, []⟩
  else
    let trimmed := (Text.dropBlanks rest.reverse).reverse
    let body ← Text.before? "</replacements>" trimmed
    pure ⟨inside, body⟩

end Markup

end Reformat
