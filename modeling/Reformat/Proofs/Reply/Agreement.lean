import Reformat.Proofs.Edit.Commit
import Reformat.Proofs.Reply.Encoding
import Reformat.Proofs.Reply.Header

/-
  The two protocols agree.

  A formatter may answer with a document of replacements or
  with a header line and the text that those replacements
  make.  Reading either answer and making its edits in a
  transaction ends in the same document.

  Main statements:
    * `Reply.read_fullTextOutput`
    * `Reply.transact_replacements_eq_fullText`
-/

------------------------------------------------------------
-- Answers In Both Forms
------------------------------------------------------------

namespace Reformat

namespace Reply

/- The output with a header line and a whole text. -/
def fullTextOutput
    (h : Header)
    (text : String) : String :=
  String.ofList (headerText h ++ '\n' :: text.toList)

/- An output with a header line is read as it was written. -/
theorem read_fullTextOutput
    {h : Header}
    (hCursor : h.cursor < Word.limit)
    (text : String) :
    read .fullText (fullTextOutput h text).toByteArray =
      ⟨.ok (.fullText h.cursor text), h.incomplete⟩ := by
  unfold read
  rw [Text.Utf8.decode_toByteArray]
  change readFullText (fullTextOutput h text).toList = _
  unfold fullTextOutput
  rw [String.toList_ofList, readFullText_headerText hCursor,
    String.ofList_toList]

/- Replacements that fit a small text are made of words. -/
theorem forall_lt_limit_of_fits
    {original : String}
    {rs : List Replacement}
    (hSigned : Edit.StaysSigned original rs)
    (hFits : ∀ r ∈ rs, Edit.Fits original r) :
    ∀ r ∈ rs,
      r.offset < Word.limit ∧ r.length < Word.limit := by
  intro r hr
  have hSize : Text.size original < Word.signedLimit := by
    have hNone := hSigned [] List.nil_prefix (by simp)
    simpa [Edit.splice, Edit.spliceFrom] using hNone
  have hStop : r.stop ≤ Text.size original := (hFits r hr).1
  have hStopEq : r.stop = r.offset + r.length := rfl
  have hLimits : Word.signedLimit < Word.limit := by decide
  omega

/-
  The document of ascending replacements that fit a text and
  the output with the text they make are both read, both
  committed, and leave the same text and caret; when there are
  replacements they leave the same version.
-/
theorem transact_replacements_eq_fullText
    {d : Document}
    {cursor : Nat}
    {incomplete : Bool}
    {rs : List Replacement}
    {document : String}
    (hCursor : cursor < Word.limit)
    (hAscends : Edit.Ascends rs)
    (hFits : ∀ r ∈ rs, Edit.Fits d.text r)
    (hSigned : Edit.StaysSigned d.text rs)
    (hEncoded :
      Encoded cursor incomplete rs document.toList) :
    ∃ edits whole patch patch' d₁ d₂,
      (read .replacements document.toByteArray).result =
          .ok edits ∧
        (read .fullText
              (fullTextOutput ⟨cursor, false⟩
                (Edit.splice d.text rs)).toByteArray).result =
          .ok whole ∧
        d.transact (Edit.applyReply · edits) =
          (d₁, .ok patch) ∧
        d.transact (Edit.applyReply · whole) =
          (d₂, .ok patch') ∧
        d₁.text = Edit.splice d.text rs ∧
        d₂.text = d₁.text ∧
        d₁.selection = Span.caret (min cursor d₁.size) ∧
        d₂.selection = d₁.selection ∧
        (rs ≠ [] → d₂.version = d₁.version) := by
  have hLimits := forall_lt_limit_of_fits hSigned hFits
  have hEdits := read_eq_of_encoded hEncoded hCursor hLimits
  have hWhole :=
    @read_fullTextOutput ⟨cursor, false⟩ hCursor
      (Edit.splice d.text rs)
  rcases Document.transact_edits cursor hAscends hSigned hFits
    with ⟨patch, hFirst⟩
  rcases Document.transact_fullText d cursor
      (Edit.splice d.text rs) with
    ⟨patch', hSecond⟩
  rw [hEdits, hWhole]
  refine
    ⟨_, _, patch, patch', _, _, rfl, rfl, hFirst, hSecond,
      rfl, rfl, rfl, rfl, ?_⟩
  intro hSome
  exact (if_neg hSome).symm

/- A value put between two characters of several bytes. -/
theorem transact_replacements_eq_fullText_sample :
    let d : Document := ⟨"é→", ⟨2, 5⟩, 3⟩
    let rs : List Replacement := [⟨2, 0, "&lt;\n>"⟩]
    Edit.Ascends rs ∧
      (∀ r ∈ rs, Edit.Fits d.text r) ∧
        Edit.StaysSigned d.text rs ∧
          ∃ edits whole patch patch' d₁ d₂,
            (read .replacements
                  sampleDocument.toByteArray).result =
                .ok edits ∧
              (read .fullText
                    (fullTextOutput ⟨7, false⟩
                      (Edit.splice d.text
                        rs)).toByteArray).result =
                .ok whole ∧
              d.transact (Edit.applyReply · edits) =
                (d₁, .ok patch) ∧
              d.transact (Edit.applyReply · whole) =
                (d₂, .ok patch') ∧
              d₁.text = "é&lt;\n>→" ∧
              d₁.selection = Span.caret 7 ∧
              d₂ = d₁ := by
  intro d rs
  have hAscends : Edit.Ascends rs := by decide
  have hFits : ∀ r ∈ rs, Edit.Fits d.text r := by decide
  have hSigned : Edit.StaysSigned d.text rs :=
    Edit.staysSigned_of_size_lt hAscends (by decide)
  have hSplice : Edit.splice d.text rs = "é&lt;\n>→" := by
    decide +kernel
  rcases transact_replacements_eq_fullText
      (by decide : 7 < Word.limit) hAscends hFits hSigned
      encoded_sampleDocument with
    ⟨edits, whole, patch, patch', d₁, d₂, hEdits, hWhole,
      hFirst, hSecond, hText, hSame, hCaret, hSelection,
      hVersion⟩
  have hSize : d₁.size = 11 := by
    unfold Document.size
    rw [hText, hSplice]
    decide
  have hEq : d₂ = d₁ := by
    rcases d₁ with ⟨text, selection, version⟩
    rcases d₂ with ⟨text', selection', version'⟩
    have hVersion := hVersion (List.cons_ne_nil _ _)
    simp only at hSame hSelection hVersion
    rw [hSame, hSelection, hVersion]
  refine
    ⟨hAscends, hFits, hSigned, edits, whole, patch, patch',
      d₁, d₂, hEdits, hWhole, hFirst, hSecond,
      hText.trans hSplice, ?_, hEq⟩
  rw [hCaret, hSize]
  rfl

end Reply

end Reformat
