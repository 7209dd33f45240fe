import Reformat.Proofs.Markup.Entity
import Reformat.Proofs.Reply.Edits
import Reformat.Reply.Read

/-
  Reading undoes writing: the document that a formatter
  writes for a cursor and some replacements is read as those,
  whatever the values are and however they are escaped.

  Key definitions include:
    * `Reply.EntryEncoded`
    * `Reply.Encoded`

  Main statements:
    * `Reply.documentWritten_of_encoded`
    * `Reply.read_eq_of_encoded`
    * `Reply.read_of_encoded`
-/

------------------------------------------------------------
-- Documents As A Formatter Writes Them
------------------------------------------------------------

namespace Reformat

namespace Reply

/- The element of a replacement, on a line of its own. -/
inductive EntryEncoded : Replacement → List Char → Prop
  | intro
      {r : Replacement}
      {value : List Char}
      (hValue : Markup.Escaped r.value.toList value) :
      EntryEncoded r
        ("<replacement offset='".toList ++
          Text.Natural.digits r.offset ++
          "' length='".toList ++
          Text.Natural.digits r.length ++
          "'>".toList ++ value ++
          "</replacement>\n".toList)

/- The elements of some replacements, one after the other. -/
inductive EntriesEncoded :
    List Replacement → List Char → Prop
  | nil : EntriesEncoded [] []
  | cons
      {r : Replacement}
      {rs : List Replacement}
      {entry entries : List Char}
      (hEntry : EntryEncoded r entry)
      (hEntries : EntriesEncoded rs entries) :
      EntriesEncoded (r :: rs) (entry ++ entries)

/-
  The document for a cursor and some replacements, with or
  without a line feed at its end.
-/
inductive Encoded
    (cursor : Nat)
    (incomplete : Bool)
    (rs : List Replacement) :
    List Char → Prop
  | intro
      {entries ending : List Char}
      (hEntries : EntriesEncoded rs entries)
      (hEnding : ending = [] ∨ ending = ['\n']) :
      Encoded cursor incomplete rs
        ("<?xml version='1.0'?>\n".toList ++
          "<replacements xml:space='preserve'".toList ++
          " incomplete_format='".toList ++
          (toString incomplete).toList ++ "'>\n".toList ++
          "<cursor>".toList ++
          Text.Natural.digits cursor ++
          "</cursor>\n".toList ++ entries ++
          "</replacements>".toList ++ ending)

end Reply

end Reformat

------------------------------------------------------------
-- Attributes
------------------------------------------------------------

namespace Reformat

namespace Reply

/- The digits of a number, written as such. -/
theorem numberWritten_digits
    {n : Nat}
    (hLimit : n < Word.limit) :
    NumberWritten (Text.Natural.digits n) n := by
  have h :=
    @NumberWritten.intro [] _ [] n List.all_nil
      (Text.Natural.spelled_digits hLimit) List.all_nil
  rw [List.nil_append, List.append_nil] at h
  exact h

/- An attribute with a value in single quotes. -/
theorem attributeWritten_quoted
    {name : String}
    {value : List Char}
    (hFirst :
      name.toList.head?.any Markup.startsName = true)
    (hRest :
      name.toList.tail.all Markup.continuesName = true)
    (hQuote : '\'' ∉ value)
    (hTag : '>' ∉ value)
    (hReference : '&' ∉ value) :
    Markup.AttributeWritten (· ≠ '>')
      (name.toList ++ "='".toList ++ value ++ ['\''])
      ⟨name, String.ofList value⟩ := by
  have hAllowed : ∀ c ∈ value, c ≠ '>' := by
    intro c hc hEq
    exact hTag (hEq ▸ hc)
  have hValue :
      Markup.decodeText value = String.ofList value :=
    congrArg String.ofList
      (Markup.decode_of_not_mem value hReference)
  have hName : name = String.ofList name.toList := by simp
  rw [hName]
  simp only [String.toList_ofList]
  cases hCases : name.toList with
  | nil =>
      rw [hCases] at hFirst
      exact absurd hFirst Bool.false_ne_true
  | cons first rest =>
      rw [hCases] at hFirst hRest
      have h :=
        @Markup.AttributeWritten.intro (· ≠ '>') first '\''
          rest [] [] value hFirst
          (List.all_eq_true.mp hRest) List.all_nil
          List.all_nil (Or.inl rfl) hQuote hAllowed
      rw [hValue] at h
      simpa using h

/- The attributes that place a replacement. -/
def placeAttributes
    (offset length : Nat) : List Markup.Attribute :=
  [⟨"offset", Text.Natural.toText offset⟩,
    ⟨"length", Text.Natural.toText length⟩]

/- The place of a replacement as it is written. -/
theorem attributeList_place
    (offset length : Nat) :
    Markup.AttributeList
      (" offset='".toList ++ Text.Natural.digits offset ++
        "' length='".toList ++ Text.Natural.digits length ++
        ['\''])
      (placeAttributes offset length) := by
  have hBlank : [' '].all Text.isBlank = true := by decide
  have hDigits :
      ∀ {name : String} (n : Nat),
        name.toList.head?.any Markup.startsName = true →
          name.toList.tail.all Markup.continuesName = true →
            Markup.AttributeWritten (· ≠ '>')
              (name.toList ++ "='".toList ++
                Text.Natural.digits n ++ ['\''])
              ⟨name, Text.Natural.toText n⟩ := by
    intro name n hFirst hRest
    apply attributeWritten_quoted hFirst hRest
    · exact Text.Natural.not_mem_digits rfl n
    · exact Text.Natural.not_mem_digits rfl n
    · exact Text.Natural.not_mem_digits rfl n
  have hRow :=
    Markup.Spaced.cons hBlank
      (@hDigits "offset" offset (by decide)
        (by decide +kernel))
      (Markup.Spaced.cons hBlank
        (@hDigits "length" length (by decide)
          (by decide +kernel))
        (Markup.Spaced.nil List.all_nil))
  simpa [Markup.AttributeList, placeAttributes] using hRow

/- The attributes of the root. -/
def rootAttributes
    (incomplete : Bool) : List Markup.Attribute :=
  [⟨"xml:space", "preserve"⟩,
    ⟨"incomplete_format", toString incomplete⟩]

/- The attributes of the root as they are written. -/
theorem attributeList_root (incomplete : Bool) :
    Markup.AttributeList
      (" xml:space='preserve'".toList ++
        " incomplete_format='".toList ++
        (toString incomplete).toList ++ ['\''])
      (rootAttributes incomplete) := by
  have hBlank : [' '].all Text.isBlank = true := by decide
  have hSpace :=
    @attributeWritten_quoted "xml:space" "preserve".toList
      (by decide) (by decide +kernel) (by decide)
      (by decide) (by decide)
  have hFlag :=
    @attributeWritten_quoted "incomplete_format"
      (toString incomplete).toList (by decide)
      (by decide +kernel) (by cases incomplete <;> decide)
      (by cases incomplete <;> decide)
      (by cases incomplete <;> decide)
  have hRow :=
    Markup.Spaced.cons hBlank hSpace
      (Markup.Spaced.cons hBlank hFlag
        (Markup.Spaced.nil List.all_nil))
  simpa [Markup.AttributeList, rootAttributes] using hRow

/- Just the flag marks a format as incomplete. -/
theorem any_rootAttributes (incomplete : Bool) :
    (rootAttributes incomplete).any isIncompleteMark =
      incomplete := by
  cases incomplete <;> decide

end Reply

end Reformat

------------------------------------------------------------
-- Items
------------------------------------------------------------

namespace Reformat

namespace Reply

/- The offset is the first attribute of its name. -/
theorem fieldWritten_offset
    {offset : Nat}
    (length : Nat)
    (hLimit : offset < Word.limit) :
    FieldWritten .offset offset
      (placeAttributes offset length) := by
  have hValue :
      NumberWritten (Text.Natural.toText offset).toList
        offset := by
    simpa [Text.Natural.toText]
      using numberWritten_digits hLimit
  exact
    @FieldWritten.intro .offset offset []
      [⟨"length", Text.Natural.toText length⟩]
      ⟨"offset", Text.Natural.toText offset⟩
      (by simp) rfl hValue

/- The length is the first attribute of its name. -/
theorem fieldWritten_length
    {length : Nat}
    (offset : Nat)
    (hLimit : length < Word.limit) :
    FieldWritten .length length
      (placeAttributes offset length) := by
  have hValue :
      NumberWritten (Text.Natural.toText length).toList
        length := by
    simpa [Text.Natural.toText]
      using numberWritten_digits hLimit
  have hOthers :
      ∀ b ∈ [(⟨"offset", Text.Natural.toText offset⟩ :
          Markup.Attribute)],
        b.name ≠ NumberField.length.name := by
    intro b hb
    rw [List.mem_singleton.mp hb]
    change "offset" ≠ "length"
    decide
  exact
    @FieldWritten.intro .length length
      [⟨"offset", Text.Natural.toText offset⟩] []
      ⟨"length", Text.Natural.toText length⟩ hOthers rfl
      hValue

/- The element of a replacement is written as its item. -/
theorem itemWritten_of_entryEncoded
    {r : Replacement}
    {entry : List Char}
    (hEntry : EntryEncoded r entry)
    (hOffset : r.offset < Word.limit)
    (hLength : r.length < Word.limit) :
    ∃ piece,
      entry = piece ++ ['\n'] ∧
        ItemWritten piece (.replacement r) := by
  cases hEntry with
  | @intro value hValue =>
      have hDecoded :
          Markup.decodeText value = r.value := by
        unfold Markup.decodeText
        rw [Markup.decode_of_escaped hValue,
          String.ofList_toList]
      have hItem :=
        ItemWritten.paired rfl
          (attributeList_place r.offset r.length)
          (fieldWritten_offset r.length hOffset)
          (fieldWritten_length r.offset hLength)
          hValue.not_mem
      rw [hDecoded] at hItem
      refine ⟨_, ?_, hItem⟩
      simp

end Reply

end Reformat

------------------------------------------------------------
-- Documents
------------------------------------------------------------

namespace Reformat

namespace Reply

/- The elements of replacements are a row of their items. -/
theorem spaced_of_entriesEncoded
    {rs : List Replacement}
    {entries : List Char}
    (hEntries : EntriesEncoded rs entries)
    (hLimits :
      ∀ r ∈ rs,
        r.offset < Word.limit ∧ r.length < Word.limit) :
    Markup.Spaced ItemWritten ('\n' :: entries)
      (rs.map Item.replacement) := by
  have hBlank : ['\n'].all Text.isBlank = true := by decide
  induction hEntries with
  | nil => exact Markup.Spaced.nil hBlank
  | cons hEntry hRest ih =>
      rw [List.forall_mem_cons] at hLimits
      rcases hLimits with ⟨⟨hOffset, hLength⟩, hLimits⟩
      rcases itemWritten_of_entryEncoded hEntry hOffset
          hLength with
        ⟨piece, rfl, hItem⟩
      have hRow :=
        Markup.Spaced.cons hBlank hItem (ih hLimits)
      simpa using hRow

/- A cursor and replacements are just those items. -/
theorem filterMap_items
    (cursor : Nat)
    (rs : List Replacement) :
    (Item.cursor cursor :: rs.map Item.replacement).filterMap
          Item.cursor? =
        [cursor] ∧
      (Item.cursor cursor ::
            rs.map Item.replacement).filterMap
          Item.replacement? =
        rs := by
  induction rs with
  | nil => exact ⟨rfl, rfl⟩
  | cons r rs ih =>
      simp only [List.filterMap_cons, Item.cursor?,
        Item.replacement?, List.map_cons] at ih ⊢
      exact ⟨ih.1, congrArg _ ih.2⟩

/- The body of a document is written as a body. -/
theorem bodyWritten_of_entriesEncoded
    {cursor : Nat}
    {rs : List Replacement}
    {entries : List Char}
    (hEntries : EntriesEncoded rs entries)
    (hCursor : cursor < Word.limit)
    (hLimits :
      ∀ r ∈ rs,
        r.offset < Word.limit ∧ r.length < Word.limit) :
    BodyWritten cursor rs
      ("\n<cursor>".toList ++ Text.Natural.digits cursor ++
        "</cursor>\n".toList ++ entries) := by
  have hBlank : ['\n'].all Text.isBlank = true := by decide
  have hRow :=
    Markup.Spaced.cons hBlank
      (ItemWritten.cursor (numberWritten_digits hCursor))
      (spaced_of_entriesEncoded hEntries hLimits)
  rcases filterMap_items cursor rs with ⟨hOne, hAll⟩
  have hBody := BodyWritten.intro hRow hOne hAll
  simpa using hBody

/- What a formatter writes is a document of the grammar. -/
theorem documentWritten_of_encoded
    {cursor : Nat}
    {incomplete : Bool}
    {rs : List Replacement}
    {text : List Char}
    (hEncoded : Encoded cursor incomplete rs text)
    (hCursor : cursor < Word.limit)
    (hLimits :
      ∀ r ∈ rs,
        r.offset < Word.limit ∧ r.length < Word.limit) :
    DocumentWritten (rootAttributes incomplete) cursor rs
      text := by
  cases hEncoded with
  | @intro entries ending hEntries hEnding =>
      have hBlank : ending.all Text.isBlank = true := by
        rcases hEnding with rfl | rfl <;> decide
      have hDeclaration :=
        @Markup.DeclarationWritten.some
          " version='1.0'".toList "\n".toList (by decide)
          (by decide)
      have hDocument :=
        @DocumentWritten.intro _ _ _ [] _ _ _ _ List.all_nil
          hDeclaration rfl (attributeList_root incomplete)
          (bodyWritten_of_entriesEncoded hEntries hCursor
            hLimits)
          hBlank
      simpa using hDocument

/- A document is read as what it was written for. -/
theorem read_eq_of_encoded
    {cursor : Nat}
    {incomplete : Bool}
    {rs : List Replacement}
    {text : String}
    (hEncoded : Encoded cursor incomplete rs text.toList)
    (hCursor : cursor < Word.limit)
    (hLimits :
      ∀ r ∈ rs,
        r.offset < Word.limit ∧ r.length < Word.limit) :
    read .replacements text.toByteArray =
      ⟨.ok (.edits cursor rs), incomplete⟩ := by
  unfold read
  rw [Text.Utf8.decode_toByteArray]
  change readEdits text.toList = _
  rw [readEdits_of_written
      (documentWritten_of_encoded hEncoded hCursor hLimits),
    any_rootAttributes]

/-
  Whatever the values are and however they are escaped, the
  reply is the cursor and the replacements, and there is a
  notice just when the format is incomplete.
-/
theorem read_of_encoded
    {cursor : Nat}
    {incomplete : Bool}
    {rs : List Replacement}
    {text : String}
    (hEncoded : Encoded cursor incomplete rs text.toList)
    (hCursor : cursor < Word.limit)
    (hLimits :
      ∀ r ∈ rs,
        r.offset < Word.limit ∧ r.length < Word.limit) :
    (read .replacements text.toByteArray).result =
        .ok (.edits cursor rs) ∧
      (read .replacements text.toByteArray).notices =
        if incomplete then [.incompleteFormat] else [] := by
  rw [read_eq_of_encoded hEncoded hCursor hLimits]
  exact ⟨rfl, rfl⟩

/- A document with a value that looks like a reference. -/
def sampleDocument : String :=
  String.ofList
    ("<?xml version='1.0'?>\n".toList ++
      "<replacements xml:space='preserve'".toList ++
      " incomplete_format='".toList ++ "true".toList ++
      "'>\n".toList ++ "<cursor>".toList ++ ['7'] ++
      "</cursor>\n".toList ++
      ("<replacement offset='".toList ++ ['2'] ++
        "' length='".toList ++ ['0'] ++ "'>".toList ++
        "&amp;lt;&#10;>".toList ++
        "</replacement>\n".toList) ++
      "</replacements>".toList ++ ['\n'])

/- The sample is such a document. -/
theorem encoded_sampleDocument :
    Encoded 7 true [⟨2, 0, "&lt;\n>"⟩]
      sampleDocument.toList := by
  have hAmp : ('&', "amp".toList) ∈ Markup.escapes := by
    decide
  have hLine : ('\n', "#10".toList) ∈ Markup.escapes := by
    decide
  have hLiteral :
      ∀ c ∈ ['l', 't', ';', '>'],
        Markup.CharEscaped c [c] := by
    intro c hc
    apply Markup.CharEscaped.literal
    · rintro rfl
      exact absurd hc (by decide)
    · rintro rfl
      exact absurd hc (by decide)
  have hValue :
      Markup.Escaped "&lt;\n>".toList
        "&amp;lt;&#10;>".toList :=
    .cons (.reference hAmp)
      (.cons (hLiteral 'l' (by decide))
        (.cons (hLiteral 't' (by decide))
          (.cons (hLiteral ';' (by decide))
            (.cons (.reference hLine)
              (.cons (hLiteral '>' (by decide)) .nil)))))
  have h :=
    @Encoded.intro 7 true [⟨2, 0, "&lt;\n>"⟩] _ ['\n']
      (.cons (.intro hValue) .nil) (Or.inr rfl)
  rw [List.append_nil] at h
  unfold sampleDocument
  rw [String.toList_ofList]
  exact h

/- A value that looks like a reference is read as it was. -/
theorem read_of_encoded_sample :
    Encoded 7 true [⟨2, 0, "&lt;\n>"⟩]
        sampleDocument.toList ∧
      (read .replacements sampleDocument.toByteArray).result =
          .ok (.edits 7 [⟨2, 0, "&lt;\n>"⟩]) ∧
        (read .replacements
              sampleDocument.toByteArray).notices =
          [.incompleteFormat] := by
  have hLimits :
      ∀ r ∈ [(⟨2, 0, "&lt;\n>"⟩ : Replacement)],
        r.offset < Word.limit ∧ r.length < Word.limit := by
    rw [List.forall_mem_singleton]
    decide
  rcases read_of_encoded encoded_sampleDocument (by decide)
      hLimits with
    ⟨hResult, hNotices⟩
  exact ⟨encoded_sampleDocument, hResult, hNotices⟩

end Reply

end Reformat
