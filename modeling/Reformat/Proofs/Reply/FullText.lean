import Reformat.Proofs.Edit.Commit
import Reformat.Proofs.Json.Tokens
import Reformat.Proofs.Reply.Header
import Reformat.Reply.Read

/-
  A whole text after a header line.

  The header may have its members in either order, with any
  spaces and tabs between its tokens, and carriage returns at
  the end of its line.  All after the first line break is the
  text, whatever it looks like, and it becomes the text of the
  document.

  Key definitions include:
    * `Reply.HeaderLine`

  Main statements:
    * `Reply.HeaderLine.read`
    * `Reply.transact_of_headerLine`
-/

------------------------------------------------------------
-- Header Lines
------------------------------------------------------------

namespace Reformat

namespace Reply

/- The tokens of a header on one line, in some order. -/
inductive HeaderLine (h : Header) : List Char → Prop
  | intro
      {members : List (String × Json.Scalar)}
      {line : List Char}
      (hForm : members ∈ h.forms)
      (hTokens :
        Json.TokensWritten (Json.objectTokens members) line) :
      HeaderLine h line

/- What holds of both members of a header holds of a form. -/
theorem Header.forall_mem_forms
    {h : Header}
    {members : List (String × Json.Scalar)}
    {P : String × Json.Scalar → Prop}
    (hForm : members ∈ h.forms)
    (hCursor : P ("Cursor", .word h.cursor))
    (hFlag : P ("IncompleteFormat", .boolean h.incomplete)) :
    ∀ m ∈ members, P m := by
  rcases Header.eq_of_mem_forms hForm with
    rfl | rfl | ⟨-, rfl⟩
  · simp [hCursor, hFlag]
  · simp [hCursor, hFlag]
  · simp [hCursor]

namespace HeaderLine

variable {h : Header}
variable {line : List Char}

/- A header is read from its line. -/
theorem read
    (hCursor : h.cursor < Word.limit)
    (hLine : HeaderLine h line) :
    Header.read line = .ok h := by
  cases hLine with
  | intro hForm hTokens =>
      have hCursorKey :
          "Cursor".toList.all Json.isPlain = true := by
        decide
      have hFlagKey :
          "IncompleteFormat".toList.all Json.isPlain =
            true := by
        decide
      have hKeys :=
        Header.forall_mem_forms
          (P := fun m => m.1.toList.all Json.isPlain = true)
          hForm hCursorKey hFlagKey
      have hValues :=
        Header.forall_mem_forms
          (P := fun m => Json.ScalarWritten m.2.token m.2)
          hForm (.word hCursor) (.boolean h.incomplete)
      rcases Json.exists_object_of_tokens hKeys hValues hTokens
        with ⟨before, body, after, rfl, hBefore, hMembers, hAfter⟩
      exact
        Header.read_of_written hForm hBefore hMembers hAfter

/- No character of a line's end is in a header line. -/
theorem not_mem
    {c : Char}
    (hEnd : c = '\n' ∨ c = '\r')
    (hLine : HeaderLine h line) :
    c ∉ line := by
  have hDigit : c.isDigit = false := by
    rcases hEnd with rfl | rfl <;> rfl
  have hCursor :
      c ∉ "Cursor".toList ∧
        c ∉ Text.Natural.digits h.cursor := by
    refine ⟨?_, Text.Natural.not_mem_digits hDigit h.cursor⟩
    rcases hEnd with rfl | rfl <;> decide
  have hFlag :
      c ∉ "IncompleteFormat".toList ∧
        c ∉ (toString h.incomplete).toList := by
    cases h.incomplete <;>
      rcases hEnd with rfl | rfl <;> decide
  have hMark : c ∉ ['"', ':', ','] := by
    rcases hEnd with rfl | rfl <;> decide
  have hBrace : c ∉ ['{', '}'] := by
    rcases hEnd with rfl | rfl <;> decide
  have hGapless : Json.isGap c = false := by
    rcases hEnd with rfl | rfl <;> rfl
  cases hLine with
  | intro hForm hTokens =>
      apply hTokens.not_mem hGapless
      apply Json.not_mem_objectTokens hMark hBrace
      exact
        Header.forall_mem_forms
          (P := fun m => c ∉ m.1.toList ∧ c ∉ m.2.token)
          hForm hCursor hFlag

end HeaderLine

end Reply

end Reformat

------------------------------------------------------------
-- Round Trips
------------------------------------------------------------

namespace Reformat

namespace Reply

/-
  An output with a header line and a text is read as the text
  and the caret that were written, and the format is said to be
  incomplete, once, just when the header says so.  Committed,
  it leaves any document with that text, and with the caret or
  the end of the text, whichever comes first.
-/
theorem transact_of_headerLine
    {h : Header}
    {line returns : List Char}
    (hCursor : h.cursor < Word.limit)
    (hLine : HeaderLine h line)
    (hReturns : ∀ c ∈ returns, c = '\r')
    (text : String)
    (d : Document) :
    let output :=
      String.ofList (line ++ returns ++ '\n' :: text.toList)
    let reading := Reply.read .fullText output.toByteArray
    let reply := Reply.fullText h.cursor text
    reading.result = .ok reply ∧
      reading.notices =
          (if h.incomplete then [.incompleteFormat] else []) ∧
        ∃ d' patch,
          d.transact (Edit.applyReply · reply) =
              (d', .ok patch) ∧
            d'.text = text ∧
              d'.selection =
                Span.caret
                  (min h.cursor (Text.size text)) := by
  intro output reading reply
  have hLast : ∀ c ∈ line.getLast?, c ≠ '\r' := by
    rintro c hc rfl
    exact
      hLine.not_mem (.inr rfl) (List.mem_of_getLast? hc)
  have hReading : reading = ⟨.ok reply, h.incomplete⟩ := by
    change Reply.read .fullText output.toByteArray = _
    unfold Reply.read
    rw [Text.Utf8.decode_toByteArray]
    change readFullText output.toList = _
    rw [String.toList_ofList,
      readFullText_of_line (hLine.read hCursor) hLast hReturns
        (hLine.not_mem (.inl rfl)),
      String.ofList_toList]
  rcases Document.transact_fullText d h.cursor text with
    ⟨patch, hTransact⟩
  rw [hReading]
  exact ⟨rfl, rfl, _, patch, hTransact, rfl, rfl⟩

/-
  A flag before the caret, tabs between the tokens, carriage
  returns, and a text that begins like another header.
-/
theorem transact_of_headerLine_sample :
    let h : Header := ⟨18446744073709551615, true⟩
    let line :=
      "\t\x7b\"IncompleteFormat\" :true,\t\"Cursor\": ".toList ++
        "18446744073709551615\t\x7d ".toList
    let text := "\n\x7b\"Cursor\": 1\x7d\r\n→"
    let d : Document := ⟨"é", ⟨0, 2⟩, 4⟩
    let output :=
      String.ofList
        (line ++ ['\r', '\r'] ++ '\n' :: text.toList)
    let reply := Reply.fullText h.cursor text
    h.cursor < Word.limit ∧
      HeaderLine h line ∧
        (read .fullText output.toByteArray).result =
            .ok reply ∧
          (read .fullText output.toByteArray).notices =
              [.incompleteFormat] ∧
            ∃ d' patch,
              d.transact (Edit.applyReply · reply) =
                  (d', .ok patch) ∧
                d'.text = text ∧
                  d'.selection = Span.caret 19 := by
  intro h line text d output reply
  have hCursor : h.cursor < Word.limit := by decide
  have hForm :
      [("IncompleteFormat", .boolean true),
          ("Cursor", .word h.cursor)] ∈ h.forms :=
    List.mem_cons_of_mem _ List.mem_cons_self
  have hTokens :=
    @Json.TokensWritten.cons ['\t'] ['{'] _ _ rfl <|
    @Json.TokensWritten.cons []
      "\"IncompleteFormat\"".toList _ _ rfl <|
    @Json.TokensWritten.cons [' '] [':'] _ _ rfl <|
    @Json.TokensWritten.cons [] "true".toList _ _ rfl <|
    @Json.TokensWritten.cons [] [','] _ _ rfl <|
    @Json.TokensWritten.cons ['\t'] "\"Cursor\"".toList _ _
      rfl <|
    @Json.TokensWritten.cons [] [':'] _ _ rfl <|
    @Json.TokensWritten.cons [' ']
      "18446744073709551615".toList _ _ rfl <|
    @Json.TokensWritten.cons ['\t'] ['}'] _ _ rfl <|
    @Json.TokensWritten.nil [' '] rfl
  have hLine : HeaderLine h line := by
    apply HeaderLine.intro hForm
    convert hTokens using 1
    · decide +kernel
    · simp [line]
  have hReturns : ∀ c ∈ ['\r', '\r'], c = '\r' := by simp
  rcases transact_of_headerLine hCursor hLine hReturns text d
    with ⟨hResult, hNotices, d', patch, hMade, hText, hCaret⟩
  have hSize : min h.cursor (Text.size text) = 19 := by decide
  rw [hSize] at hCaret
  exact
    ⟨hCursor, hLine, hResult, hNotices, d', patch, hMade,
      hText, hCaret⟩

end Reply

end Reformat
