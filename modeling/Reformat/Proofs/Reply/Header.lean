import Reformat.Proofs.Json.Object
import Reformat.Reply.Header

/-
  Header lines and the texts after them.

  Key definitions include:
    * `Reply.Header.forms`
    * `Reply.headerText`

  Main statements:
    * `Reply.Header.read_of_written`
    * `Reply.readFullText_of_line`
    * `Reply.readFullText_headerText`
-/

------------------------------------------------------------
-- Headers
------------------------------------------------------------

namespace Reformat

namespace Reply

/-
  The members that say what a header says, in either order; a
  flag that is not set may be left out.
-/
def Header.forms
    (h : Header) : List (List (String × Json.Scalar)) :=
  let cursor := ("Cursor", Json.Scalar.word h.cursor)
  let flag :=
    ("IncompleteFormat", Json.Scalar.boolean h.incomplete)
  [[cursor, flag], [flag, cursor]] ++
    if h.incomplete then [] else [[cursor]]

/- The forms of a header, one by one. -/
theorem Header.eq_of_mem_forms
    {h : Header}
    {members : List (String × Json.Scalar)}
    (hForm : members ∈ h.forms) :
    let caret := ("Cursor", Json.Scalar.word h.cursor)
    let flag :=
      ("IncompleteFormat", Json.Scalar.boolean h.incomplete)
    members = [caret, flag] ∨
      members = [flag, caret] ∨
        h.incomplete = false ∧ members = [caret] := by
  rcases h with ⟨cursor, incomplete⟩
  cases incomplete <;> simpa [forms] using hForm

/- Members of a header are fields of its record, each once. -/
theorem Header.mem_forms
    {h : Header}
    {members : List (String × Json.Scalar)}
    (hForm : members ∈ h.forms) :
    (∀ m ∈ members,
        ∃ f,
          Header.record.field? m.1 = some f ∧
            f.kind = m.2.kind) ∧
      (members.map Prod.fst).Nodup ∧
        Json.collect members.reverse Header.record.fields =
          .ok [.word h.cursor, .boolean h.incomplete] := by
  rcases h with ⟨cursor, incomplete⟩
  let caret := ("Cursor", Json.Scalar.word cursor)
  let flag :=
    ("IncompleteFormat", Json.Scalar.boolean incomplete)
  have hCaret :
      ∃ f,
        Header.record.field? caret.1 = some f ∧
          f.kind = caret.2.kind :=
    ⟨_, rfl, rfl⟩
  have hFlag :
      ∃ f,
        Header.record.field? flag.1 = some f ∧
          f.kind = flag.2.kind :=
    ⟨_, rfl, rfl⟩
  rcases Header.eq_of_mem_forms hForm with
    rfl | rfl | ⟨rfl, rfl⟩
  · refine ⟨?_, by simp, rfl⟩
    rw [List.forall_mem_cons, List.forall_mem_singleton]
    exact ⟨hCaret, hFlag⟩
  · refine ⟨?_, by simp, rfl⟩
    rw [List.forall_mem_cons, List.forall_mem_singleton]
    exact ⟨hFlag, hCaret⟩
  · refine ⟨?_, by simp, rfl⟩
    rw [List.forall_mem_singleton]
    exact hCaret

/- A header is read from its members, with any space. -/
theorem Header.read_of_written
    {h : Header}
    {before text after : List Char}
    {members : List (String × Json.Scalar)}
    (hForm : members ∈ h.forms)
    (hBefore : before.all Json.isSpace = true)
    (hMembers : Json.MembersWritten true text members)
    (hAfter : after.all Json.isSpace = true) :
    Header.read (before ++ '{' :: (text ++ after)) =
      .ok h := by
  rcases Header.mem_forms hForm with
    ⟨hFields, hOnce, hCollect⟩
  have hRead :=
    Header.record.read_of_written hBefore hMembers hAfter
      hFields hOnce
  unfold Header.read
  rw [hRead, hCollect]
  rfl

end Reply

end Reformat

------------------------------------------------------------
-- Lines And Texts
------------------------------------------------------------

namespace Reformat

namespace Reply

/- Carriage returns at the end of a line are left out. -/
theorem headerLine_append
    {line returns : List Char}
    (hLast : ∀ c ∈ line.getLast?, c ≠ '\r')
    (hReturns : ∀ c ∈ returns, c = '\r') :
    headerLine (line ++ returns) = line := by
  have hDrop :
      (returns.reverse ++ line.reverse).dropWhile
          (· = '\r') =
        line.reverse := by
    apply Text.dropWhile_run
    · intro c hc
      simpa using hReturns c (List.mem_reverse.mp hc)
    · intro c hc
      rw [List.head?_reverse] at hc
      simpa using hLast c hc
  unfold headerLine
  rw [List.reverse_append, hDrop, List.reverse_reverse]

/- The first line is the header, all after it is the text. -/
theorem readFullText_of_line
    {h : Header}
    {line returns : List Char}
    (hRead : Header.read line = .ok h)
    (hLast : ∀ c ∈ line.getLast?, c ≠ '\r')
    (hReturns : ∀ c ∈ returns, c = '\r')
    (hLine : '\n' ∉ line)
    (text : List Char) :
    readFullText (line ++ returns ++ '\n' :: text) =
      ⟨.ok (.fullText h.cursor (String.ofList text)),
        h.incomplete⟩ := by
  have hFirst : '\n' ∉ line ++ returns := by
    intro hMem
    rcases List.mem_append.mp hMem with hMem | hMem
    · exact hLine hMem
    · exact absurd (hReturns _ hMem) (by decide)
  unfold readFullText
  rw [Text.stretch_run hFirst]
  simp only [headerLine_append hLast hReturns, hRead,
    List.drop_succ_cons, List.drop_zero]

/- The members of a header, up to the closing brace. -/
def headerMembers (h : Header) : List Char :=
  " \"Cursor\": ".toList ++
    (Text.Natural.digits h.cursor ++
      (", \"IncompleteFormat\": ".toList ++
        ((toString h.incomplete).toList ++ [' ', '}'])))

/- The line that a formatter writes for a header. -/
def headerText (h : Header) : List Char :=
  '{' :: headerMembers h

/- The members of a header are written as members. -/
theorem membersWritten_headerMembers
    {h : Header}
    (hCursor : h.cursor < Word.limit) :
    Json.MembersWritten true (headerMembers h)
      [("Cursor", .word h.cursor),
        ("IncompleteFormat", .boolean h.incomplete)] := by
  have hSpace : [' '].all Json.isSpace = true := by decide
  have hFlag :=
    @Json.MembersWritten.cons false _
      "IncompleteFormat".toList _ _ _ _ _ _
      (.later List.all_nil hSpace) (by decide) List.all_nil
      hSpace (.boolean h.incomplete)
      (@Json.MembersWritten.nil false [' '] hSpace)
  exact
    @Json.MembersWritten.cons true _ "Cursor".toList _ _ _ _
      _ _ (.first hSpace) (by decide) List.all_nil hSpace
      (.word hCursor) hFlag

/- A header line ends with its closing brace. -/
theorem getLast?_headerText (h : Header) :
    (headerText h).getLast? = some '}' := by
  -- With the words in place, simplifying takes very long.
  have hParts :
      ∀ first second third fourth : List Char,
        ('{' ::
              (first ++
                (second ++
                  (third ++
                    (fourth ++ [' ', '}']))))).getLast? =
          some '}' := by
    intro first second third fourth
    simp [List.getLast?_cons, List.getLast?_append]
  exact hParts _ _ _ _

/- The line of a header and a text are read as they were. -/
theorem readFullText_headerText
    {h : Header}
    (hCursor : h.cursor < Word.limit)
    (text : List Char) :
    readFullText (headerText h ++ '\n' :: text) =
      ⟨.ok (.fullText h.cursor (String.ofList text)),
        h.incomplete⟩ := by
  have hForm :
      [("Cursor", Json.Scalar.word h.cursor),
          ("IncompleteFormat", .boolean h.incomplete)] ∈
        h.forms :=
    List.mem_append_left _ List.mem_cons_self
  have hRead : Header.read (headerText h) = .ok h := by
    have hRead :=
      Header.read_of_written hForm List.all_nil
        (membersWritten_headerMembers hCursor) List.all_nil
    rw [List.append_nil] at hRead
    exact hRead
  have hLast : ∀ c ∈ (headerText h).getLast?, c ≠ '\r' := by
    intro c hc
    rw [getLast?_headerText, Option.mem_some_iff] at hc
    rw [← hc]
    decide
  have hLine : '\n' ∉ headerText h := by
    have hDigits :=
      Text.Natural.not_mem_digits (c := '\n') rfl h.cursor
    have hFlag : '\n' ∉ (toString h.incomplete).toList := by
      cases h.incomplete <;> decide
    unfold headerText headerMembers
    simp only [List.mem_cons, List.mem_append, not_or]
    exact
      ⟨by decide, by decide, hDigits, by decide, hFlag,
        by decide, by decide, List.not_mem_nil⟩
  have hReturns : ∀ c ∈ ([] : List Char), c = '\r' :=
    fun _ hc => absurd hc List.not_mem_nil
  have hAll :=
    readFullText_of_line hRead hLast hReturns hLine text
  rw [List.append_nil] at hAll
  exact hAll

end Reply

end Reformat
