import Reformat.Markup.Entity
import Reformat.Markup.Scan
import Reformat.Text.Affix
import Reformat.Text.Blank
import Reformat.Text.WordChar

/-
  Attributes of a tag.

  An attribute is a name, an equals sign and a value in single
  or double quotes, with blanks around the sign if one likes.

  Key definitions include:
    * `Markup.Attribute`
    * `Markup.attribute?`
    * `Markup.attributes`
-/

------------------------------------------------------------
-- Names And Values
------------------------------------------------------------

namespace Reformat

namespace Markup

/- A name and its value, references decoded. -/
structure Attribute where
  name : String
  value : String
deriving DecidableEq

/- A character that a name may begin with. -/
def startsName (c : Char) : Bool :=
  c.isAlpha || c = '_'

/- A character that a name may go on with. -/
def continuesName (c : Char) : Bool :=
  Text.isWordChar c || c = ':' || c = '.' || c = '-'

/- The text in quotes at the front, and what follows. -/
def quotedValue? :
    List Char → Option (List Char × List Char)
  | [] => none
  | quote :: cs =>
      if quote = '\'' || quote = '"' then
        match Text.stretch quote cs with
        | (value, _ :: rest) => some (value, rest)
        | (_, []) => none
      else
        none

/- The attribute at the front, and what follows. -/
def attribute? :
    List Char → Option (Attribute × List Char)
  | [] => none
  | c :: cs =>
      if startsName c then
        match
          Text.dropBlanks (cs.dropWhile continuesName)
        with
        | '=' :: cs' =>
            (quotedValue? (Text.dropBlanks cs')).map
              fun (value, rest) =>
                (⟨String.ofList
                    (c :: cs.takeWhile continuesName),
                  decodeText value⟩, rest)
        | _ => none
      else
        none

end Markup

end Reformat

------------------------------------------------------------
-- Attribute Lists
------------------------------------------------------------

namespace Reformat

namespace Markup

/- Dropping a beginning makes no text longer. -/
theorem length_dropWhile_le
    {α : Type}
    (p : α → Bool)
    (cs : List α) :
    (cs.dropWhile p).length ≤ cs.length :=
  (List.dropWhile_suffix p).length_le

/- What follows a value in quotes is shorter. -/
theorem length_quotedValue?
    {cs value rest : List Char}
    (h : quotedValue? cs = some (value, rest)) :
    rest.length < cs.length := by
  cases cs with
  | nil => simp [quotedValue?] at h
  | cons quote cs =>
      simp only [quotedValue?] at h
      split at h
      · have hLe := Text.length_stretch_snd_le quote cs
        split at h
        · next heq =>
          simp only [Option.some.injEq,
            Prod.mk.injEq] at h
          rw [heq] at hLe
          simp only [List.length_cons, h.2] at hLe ⊢
          omega
        · simp at h
      · simp at h

/- What follows an attribute is shorter. -/
theorem length_attribute?
    {cs : List Char}
    {a : Attribute}
    {rest : List Char}
    (h : attribute? cs = some (a, rest)) :
    rest.length < cs.length := by
  cases cs with
  | nil => simp [attribute?] at h
  | cons c cs =>
      simp only [attribute?] at h
      split at h
      · split at h
        · next cs' heq =>
          simp only [Option.map_eq_some_iff,
            Prod.mk.injEq, Prod.exists] at h
          obtain ⟨value, rest', hValue, -, rfl⟩ := h
          have h₁ := length_quotedValue? hValue
          have h₂ := length_dropWhile_le Text.isBlank cs'
          have h₃ := length_dropWhile_le Text.isBlank
            (cs.dropWhile continuesName)
          have h₄ := length_dropWhile_le continuesName cs
          unfold Text.dropBlanks at heq h₁
          rw [heq] at h₃
          simp only [List.length_cons] at h₃ ⊢
          omega
        · simp at h
      · simp at h

/- The reader of attributes. -/
def attributeReader : PieceReader Attribute where
  read? := attribute?
  shorter := length_attribute?

/- The attributes in a tag, with what stands between. -/
def attributes (cs : List Char) : Pieces Attribute :=
  scan attributeReader cs

end Markup

end Reformat
