import Reformat.Proofs.Markup.Attribute
import Reformat.Proofs.Markup.Root
import Reformat.Proofs.Text.Natural
import Reformat.Reply.Edits

/-
  The grammar of replacement documents.

  A document is a root element whose body is a row of items
  with blanks around them: one cursor, at any place, and any
  number of replacements.

  Key definitions include:
    * `Reply.NumberWritten`
    * `Reply.FieldWritten`
    * `Reply.ItemWritten`
    * `Reply.BodyWritten`
    * `Reply.DocumentWritten`

  Main statements:
    * `Reply.readNumber_eq_ok_iff`
    * `Reply.itemWritten_iff`
-/

------------------------------------------------------------
-- Numbers And Fields
------------------------------------------------------------

namespace Reformat

namespace Reply

/- A number with blanks around it. -/
inductive NumberWritten : List Char → Nat → Prop
  | intro
      {before word after : List Char}
      {n : Nat}
      (hBefore : before.all Text.isBlank = true)
      (hWord : Text.Natural.Spelled word n)
      (hAfter : after.all Text.isBlank = true) :
      NumberWritten (before ++ word ++ after) n

/- The first attribute of a name has a number as its value. -/
inductive FieldWritten
    (field : NumberField)
    (n : Nat) :
    List Markup.Attribute → Prop
  | intro
      {others later : List Markup.Attribute}
      {a : Markup.Attribute}
      (hOthers : ∀ b ∈ others, b.name ≠ field.name)
      (hName : a.name = field.name)
      (hValue : NumberWritten a.value.toList n) :
      FieldWritten field n (others ++ a :: later)

end Reply

end Reformat

------------------------------------------------------------
-- Items
------------------------------------------------------------

namespace Reformat

namespace Reply

/- What an element of a body says. -/
inductive Item
  | cursor (n : Nat)
  | replacement (r : Replacement)

/- The place of the caret, if an item says it. -/
def Item.cursor? : Item → Option Nat
  | .cursor n => some n
  | .replacement _ => none

/- The replacement that an item is, if it is one. -/
def Item.replacement? : Item → Option Replacement
  | .cursor _ => none
  | .replacement r => some r

/- An item as it is written. -/
inductive ItemWritten : List Char → Item → Prop
  | cursor
      {content : List Char}
      {n : Nat}
      (hNumber : NumberWritten content n) :
      ItemWritten
        ("<cursor>".toList ++
          (content ++ "</cursor>".toList))
        (.cursor n)
  | empty
      {inside : List Char}
      {as : List Markup.Attribute}
      {offset length : Nat}
      (hWord : Text.endsWord inside = true)
      (hList : Markup.AttributeList inside as)
      (hOffset : FieldWritten .offset offset as)
      (hLength : FieldWritten .length length as) :
      ItemWritten
        ("<replacement".toList ++ (inside ++ "/>".toList))
        (.replacement ⟨offset, length, ""⟩)
  | paired
      {inside content : List Char}
      {as : List Markup.Attribute}
      {offset length : Nat}
      (hWord : Text.endsWord inside = true)
      (hList : Markup.AttributeList inside as)
      (hOffset : FieldWritten .offset offset as)
      (hLength : FieldWritten .length length as)
      (hContent : '<' ∉ content) :
      ItemWritten
        ("<replacement".toList ++
          (inside ++
            '>' :: (content ++ "</replacement>".toList)))
        (.replacement
          ⟨offset, length, Markup.decodeText content⟩)

end Reply

end Reformat

------------------------------------------------------------
-- Documents
------------------------------------------------------------

namespace Reformat

namespace Reply

/-
  A body: items in a row, exactly one of which is a cursor.
-/
inductive BodyWritten
    (cursor : Nat)
    (rs : List Replacement) :
    List Char → Prop
  | intro
      {body : List Char}
      {items : List Item}
      (hItems : Markup.Spaced ItemWritten body items)
      (hCursor : items.filterMap Item.cursor? = [cursor])
      (hReplacements :
        items.filterMap Item.replacement? = rs) :
      BodyWritten cursor rs body

/- A document, with the attributes of its root. -/
inductive DocumentWritten
    (as : List Markup.Attribute)
    (cursor : Nat)
    (rs : List Replacement) :
    List Char → Prop
  | intro
      {before declaration inside body after : List Char}
      (hBefore : before.all Text.isBlank = true)
      (hDeclaration : Markup.DeclarationWritten declaration)
      (hWord : Text.endsWord inside = true)
      (hList : Markup.AttributeList inside as)
      (hBody : BodyWritten cursor rs body)
      (hAfter : after.all Text.isBlank = true) :
      DocumentWritten as cursor rs
        (before ++
          (declaration ++
            ("<replacements".toList ++
              (inside ++
                '>' ::
                  (body ++
                    ("</replacements>".toList ++ after))))))

end Reply

end Reformat

------------------------------------------------------------
-- Reading Numbers And Fields
------------------------------------------------------------

namespace Reformat

namespace Reply

/- Just what is written as a number is read as one. -/
theorem readNumber_eq_ok_iff
    (field : NumberField)
    (value : String)
    (n : Nat) :
    readNumber field value = .ok n ↔
      NumberWritten value.toList n := by
  have hRead :
      readNumber field value = .ok n ↔
        Text.Natural.Spelled
          (Text.trimChars value.toList) n := by
    have hTrim :
        (Text.trim value).toList =
          Text.trimChars value.toList := by
      simp [Text.trim]
    rw [← hTrim, ← Text.Natural.read?_eq_some_iff]
    unfold readNumber
    cases Text.Natural.read? (Text.trim value) <;> simp
  rw [hRead]
  constructor
  · intro h
    rcases Text.exists_append_trimChars value.toList with
      ⟨before, after, hBefore, hAfter, hText⟩
    rw [hText]
    exact NumberWritten.intro hBefore h hAfter
  · intro h
    generalize value.toList = cs at h
    cases h with
    | intro hBefore hWord hAfter =>
        rw [Text.trimChars_append hBefore hAfter
          hWord.ne_nil hWord.isBlank_of_mem]
        exact hWord

/- The first attribute of a name is read as a number. -/
theorem numberAttribute_eq_ok_iff
    (as : List Markup.Attribute)
    (field : NumberField)
    (n : Nat) :
    numberAttribute as field = .ok n ↔
      FieldWritten field n as := by
  constructor
  · intro h
    unfold numberAttribute at h
    split at h
    · next a hFind =>
      rw [readNumber_eq_ok_iff] at h
      rcases List.find?_eq_some_iff_append.mp hFind with
        ⟨hName, others, later, hList, hOthers⟩
      rw [hList]
      apply FieldWritten.intro _ (by simpa using hName) h
      intro b hb
      simpa using hOthers b hb
    · cases h
  · intro h
    cases h with
    | @intro others later a hOthers hName hValue =>
        have hFind :
            (others ++ a :: later).find?
                (·.name == field.name) =
              some a := by
          rw [List.find?_eq_some_iff_append]
          refine ⟨by simpa using hName, others, later, rfl, ?_⟩
          intro b hb
          simpa using hOthers b hb
        unfold numberAttribute
        rw [hFind]
        exact (readNumber_eq_ok_iff _ _ _).mpr hValue

end Reply

end Reformat
