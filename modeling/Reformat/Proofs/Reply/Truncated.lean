import Reformat.Proofs.Json.Suffix
import Reformat.Proofs.Markup.Parts
import Reformat.Proofs.Reply.Agreement
import Reformat.Proofs.Text.Bytes

/-
  Output that is cut off is never read.

  A document of replacements is cut before the last byte of
  its closing tag, a header before its closing brace.  Such a
  cut may fall within a character, and then it is no text.  If
  it is one, there is no root element in the front of the
  document, and no bracket that closes a record in the front
  of the header.

  Main statements:
    * `Reply.Encoded.exists_parts`
    * `Reply.read_replacements_of_cut`
    * `Reply.read_fullText_of_cut`
    * `Reply.read_of_cut`
-/

------------------------------------------------------------
-- Parts Of Documents
------------------------------------------------------------

namespace Reformat

namespace Reply

/- The element of a replacement has a tag at either end. -/
theorem EntryEncoded.exists_parts
    {r : Replacement}
    {entry : List Char}
    (h : EntryEncoded r entry) :
    ∃ parts,
      entry = Markup.opened parts ∧
        ∀ part ∈ parts, Markup.Continues part := by
  cases h with
  | @intro value hValue =>
      let tag :=
        "replacement offset='".toList ++
          (Text.Natural.digits r.offset ++
            ("' length='".toList ++
              (Text.Natural.digits r.length ++
                ("'>".toList ++ value))))
      have hTag : Markup.Continues tag := by
        apply Markup.continues_append
        · simp only [List.mem_append, not_or]
          exact
            ⟨by decide, Text.Natural.not_mem_digits rfl _,
              by decide, Text.Natural.not_mem_digits rfl _,
              by decide, hValue.not_mem⟩
        · decide
        · decide
      have hEnd :
          Markup.Continues
            ("/replacement>\n".toList ++ []) := by
        apply Markup.continues_append <;> decide
      refine
        ⟨[tag, "/replacement>\n".toList ++ []], ?_, ?_⟩
      · have hOpened :
            ∀ front between last : List Char,
              '<' :: front ++ Text.Natural.digits r.offset ++
                    between ++ Text.Natural.digits r.length ++
                    "'>".toList ++ value ++ '<' :: last =
                Markup.opened
                  [front ++
                      (Text.Natural.digits r.offset ++
                        (between ++
                          (Text.Natural.digits r.length ++
                            ("'>".toList ++ value)))),
                    last ++ []] := by
          intro front between last
          simp [Markup.opened]
        exact hOpened _ _ _
      · rw [List.forall_mem_cons, List.forall_mem_singleton]
        exact ⟨hTag, hEnd⟩

/- So has each of the elements of some replacements. -/
theorem EntriesEncoded.exists_parts
    {rs : List Replacement}
    {entries : List Char}
    (h : EntriesEncoded rs entries) :
    ∃ parts,
      entries = Markup.opened parts ∧
        ∀ part ∈ parts, Markup.Continues part := by
  induction h with
  | nil => exact ⟨[], rfl, by simp⟩
  | cons hEntry _ ih =>
      rcases hEntry.exists_parts with ⟨first, rfl, hFirst⟩
      rcases ih with ⟨others, rfl, hOthers⟩
      refine
        ⟨first ++ others,
          (Markup.opened_append first others).symm, ?_⟩
      exact List.forall_mem_append.mpr ⟨hFirst, hOthers⟩

/- The inside of the tag that opens the root. -/
def rootInside (incomplete : Bool) : List Char :=
  " xml:space='preserve'".toList ++
      " incomplete_format='".toList ++
    (toString incomplete).toList ++ ['\'']

/- It ends with a quote, so the root is not empty. -/
theorem rootInside_ne_append
    (incomplete : Bool)
    (front : List Char) :
    rootInside incomplete ≠ front ++ ['/'] := by
  -- With the words in place, comparing takes very long.
  have hEnds :
      ∀ a b : List Char, a ++ ['\''] ≠ b ++ ['/'] := by
    intro a b hEq
    have hLast := List.append_inj_right' hEq rfl
    exact absurd hLast (by decide)
  exact hEnds _ front

/- The tag that opens the root says that it has a body. -/
theorem continues_root (incomplete : Bool) :
    Markup.Continues
      ("replacements".toList ++
        (rootInside incomplete ++ ['>', '\n'])) where
  plain := by cases incomplete <;> decide
  not_closing := by
    intro h
    rcases h with ⟨more, hEq⟩
    have hApart :
        Markup.Apart "/replacements>".toList
          "replacements".toList := by
      decide
    exact hApart.append_ne _ _ hEq
  has_body := by
    intro rest hEq
    refine
      ⟨rootInside incomplete, ['\n'],
        (List.append_cancel_left hEq).symm, ?_, ?_⟩
    · cases incomplete <;> decide
    · exact rootInside_ne_append incomplete

/- The last tag is not closed by what is left of it. -/
theorem continues_end :
    Markup.Continues "/replacements".toList where
  plain := by decide
  not_closing := by decide
  has_body := by
    intro rest hEq
    have hApart :
        Markup.Apart "/replacements".toList
          "replacements".toList := by
      decide
    exact absurd hEq (hApart.append_ne [] rest)

/- The parts of a document, with those of its elements. -/
def documentParts
    (cursor : Nat)
    (incomplete : Bool)
    (parts : List (List Char)) : List (List Char) :=
  ["?xml version='1.0'?>\n".toList ++ [],
      "replacements".toList ++
        (rootInside incomplete ++ ['>', '\n']),
      "cursor>".toList ++ Text.Natural.digits cursor,
      "/cursor>\n".toList ++ []] ++
    (parts ++ ["/replacements".toList])

/- A document is its parts and the end of its last tag. -/
theorem opened_documentParts
    (cursor : Nat)
    (incomplete : Bool)
    (parts : List (List Char))
    (ending : List Char) :
    "<?xml version='1.0'?>\n".toList ++
                      "<replacements xml:space='preserve'".toList ++
                    " incomplete_format='".toList ++
                  (toString incomplete).toList ++
                "'>\n".toList ++
              "<cursor>".toList ++
            Text.Natural.digits cursor ++
          "</cursor>\n".toList ++ Markup.opened parts ++
        "</replacements>".toList ++ ending =
      Markup.opened (documentParts cursor incomplete parts) ++
        '>' :: ending := by
  -- With the words in place, simplifying takes very long.
  have hOpened :
      ∀ declaration root space format flag cursor number
          cursorEnd rootEnd : List Char,
        '<' :: declaration ++ ('<' :: (root ++ space)) ++
                        format ++ flag ++
                    ['\'', '>', '\n'] ++
                  '<' :: cursor ++ number ++
                '<' :: cursorEnd ++ Markup.opened parts ++
              '<' :: (rootEnd ++ ['>']) ++ ending =
          Markup.opened
              ([declaration ++ [],
                  root ++
                    (space ++ format ++ flag ++ ['\''] ++
                      ['>', '\n']),
                  cursor ++ number, cursorEnd ++ []] ++
                (parts ++ [rootEnd])) ++
            '>' :: ending := by
    intro declaration root space format flag cursor number
      cursorEnd rootEnd
    simp [Markup.opened]
  have hDeclaration :
      "<?xml version='1.0'?>\n".toList =
        '<' :: "?xml version='1.0'?>\n".toList := by
    decide
  have hRoot :
      "<replacements xml:space='preserve'".toList =
        '<' ::
          ("replacements".toList ++
            " xml:space='preserve'".toList) := by
    decide
  have hQuote : "'>\n".toList = ['\'', '>', '\n'] := by
    decide
  have hCursor :
      "<cursor>".toList = '<' :: "cursor>".toList := by
    decide
  have hCursorEnd :
      "</cursor>\n".toList = '<' :: "/cursor>\n".toList := by
    decide
  have hRootEnd :
      "</replacements>".toList =
        '<' :: ("/replacements".toList ++ ['>']) := by
    decide
  rw [hDeclaration, hRoot, hQuote, hCursor, hCursorEnd,
    hRootEnd]
  exact hOpened _ _ _ _ _ _ _ _ _

/- They go on when the parts of the elements do. -/
theorem continues_of_mem_documentParts
    {cursor : Nat}
    {incomplete : Bool}
    {parts : List (List Char)}
    (hParts : ∀ part ∈ parts, Markup.Continues part) :
    ∀ part ∈ documentParts cursor incomplete parts,
      Markup.Continues part := by
  have hDeclaration :
      Markup.Continues
        ("?xml version='1.0'?>\n".toList ++ []) := by
    apply Markup.continues_append <;> decide
  have hCursor :
      Markup.Continues
        ("cursor>".toList ++ Text.Natural.digits cursor) := by
    apply Markup.continues_append
    · simp only [List.mem_append, not_or]
      exact ⟨by decide, Text.Natural.not_mem_digits rfl _⟩
    · decide
    · decide
  have hCursorEnd :
      Markup.Continues ("/cursor>\n".toList ++ []) := by
    apply Markup.continues_append <;> decide
  simp only [documentParts, List.forall_mem_append,
    List.forall_mem_cons]
  exact
    ⟨⟨hDeclaration, continues_root incomplete, hCursor,
      hCursorEnd, nofun⟩, hParts, continues_end, nofun⟩

/-
  Up to the last byte of its closing tag a document is made of
  parts that all go on.
-/
theorem Encoded.exists_parts
    {cursor : Nat}
    {incomplete : Bool}
    {rs : List Replacement}
    {text : List Char}
    (h : Encoded cursor incomplete rs text) :
    ∃ parts ending,
      text = Markup.opened parts ++ '>' :: ending ∧
        (ending = [] ∨ ending = ['\n']) ∧
        ∀ part ∈ parts, Markup.Continues part := by
  cases h with
  | @intro entries ending hEntries hEnding =>
      rcases hEntries.exists_parts with
        ⟨parts, rfl, hParts⟩
      exact
        ⟨documentParts cursor incomplete parts, ending,
          opened_documentParts cursor incomplete parts ending,
          hEnding, continues_of_mem_documentParts hParts⟩

end Reply

end Reformat

------------------------------------------------------------
-- Cut Documents
------------------------------------------------------------

namespace Reformat

namespace Reply

/- A document has no closing tag but the one at its end. -/
theorem Encoded.closed_eq
    {cursor : Nat}
    {incomplete : Bool}
    {rs : List Replacement}
    {closed ending : List Char}
    (h : Encoded cursor incomplete rs (closed ++ ending))
    (hClosed : "</replacements>".toList <:+ closed) :
    ∃ parts,
      closed = Markup.opened parts ++ ['>'] ∧
        ∀ part ∈ parts, Markup.Continues part := by
  rcases h.exists_parts with
    ⟨parts, after, hText, hAfter, hParts⟩
  rcases hClosed with ⟨body, rfl⟩
  have hNot :
      ¬ body ++ "</replacements>".toList <+:
          Markup.opened parts := by
    have h := @Markup.not_closed_of_cut parts body [] hParts
    rwa [List.append_nil] at h
  refine ⟨parts, ?_, hParts⟩
  rcases List.append_eq_append_iff.mp hText with
    ⟨between, hOpened, -⟩ | ⟨between, hBody, hEnd⟩
  · exact absurd ⟨between, hOpened.symm⟩ hNot
  · cases between with
    | nil =>
        rw [List.append_nil] at hBody
        rw [hBody] at hNot
        exact absurd List.prefix_rfl hNot
    | cons c between =>
        rcases List.cons.inj hEnd with ⟨hSign, hRest⟩
        rw [hBody, ← hSign]
        rcases List.eq_nil_or_concat between with
          rfl | ⟨front, last, rfl⟩
        · rfl
        · -- What else the document may end with is no sign.
          have hLine : last = '\n' := by
            have hMem : last ∈ after := by
              rw [hRest]
              simp
            rcases hAfter with rfl | rfl
            · exact absurd hMem List.not_mem_nil
            · exact List.mem_singleton.mp hMem
          have hClosing :
              "</replacements>".toList =
                "</replacements".toList ++ ['>'] := by
            decide
          rw [hClosing, ← List.append_assoc, hLine,
            List.concat_eq_append, ← List.cons_append,
            ← List.append_assoc] at hBody
          have hLast := List.append_inj_right' hBody rfl
          exact absurd hLast (by decide)

/- A text cut within its document has no root. -/
theorem readEdits_of_cut
    {parts : List (List Char)}
    {text : List Char}
    (hParts : ∀ part ∈ parts, Markup.Continues part)
    (hFront : text <+: Markup.opened parts) :
    (readEdits text).result =
      .error (.malformed .noDocument) := by
  unfold readEdits
  rw [Markup.root?_eq_none_of_cut hParts hFront]

/-
  A document that ends before the last byte of its closing tag
  is not read.
-/
theorem read_replacements_of_cut
    {cursor : Nat}
    {incomplete : Bool}
    {rs : List Replacement}
    {closed ending : String}
    {bs : List UInt8}
    (hEncoded :
      Encoded cursor incomplete rs (closed ++ ending).toList)
    (hClosed : "</replacements>".toList <:+ closed.toList)
    (hCut : bs <+: Text.bytes (closed ++ ending))
    (hShort : bs.length < Text.size closed) :
    ∃ e,
      (read .replacements bs.toByteArray).result =
        .error e := by
  rw [String.toList_append] at hEncoded
  rcases hEncoded.closed_eq hClosed with
    ⟨parts, hEq, hParts⟩
  unfold read
  cases hDecode : Text.Utf8.decode bs.toByteArray with
  | error fault => exact ⟨_, rfl⟩
  | ok text =>
      have hBytes :=
        (Text.Utf8.decode_toByteArray_eq_ok_iff bs text).mp
          hDecode
      rw [← hBytes] at hCut hShort
      rw [Text.length_bytes] at hShort
      have hFront :=
        Text.prefix_of_prefix_bytes hCut hShort hEq
      exact ⟨_, readEdits_of_cut hParts hFront⟩

end Reply

end Reformat

------------------------------------------------------------
-- Cut Headers
------------------------------------------------------------

namespace Reformat

namespace Reply

/- A text whose header is read holds a closing bracket. -/
theorem exists_bracket_of_readFullText
    {text : List Char}
    {reply : Reply}
    (h : (readFullText text).result = .ok reply) :
    ∃ c ∈ text, c = '}' ∨ c = ']' := by
  have hLine :
      headerLine (Text.stretch '\n' text).1 ⊆ text := by
    intro c hc
    have hKept :
        c ∈
          (Text.stretch '\n' text).1.reverse.dropWhile
            (· = '\r') :=
      List.mem_reverse.mp hc
    have hFirst := (List.dropWhile_suffix _).subset hKept
    rw [← Text.stretch_append '\n' text]
    exact List.mem_append_left _ (List.mem_reverse.mp hFirst)
  unfold readFullText at h
  simp only at h
  split at h
  · cases h
  · next header hHeader =>
    unfold Header.read at hHeader
    rcases Attempt.bind_eq_ok_iff.mp hHeader with
      ⟨values, hRecord, -⟩
    rcases Json.Record.exists_bracket_of_read hRecord with
      ⟨c, hMem, hClosing⟩
    exact ⟨c, hLine hMem, hClosing⟩

/- A header up to its closing brace. -/
def headerOpening (h : Header) : List Char :=
  "\x7b \"Cursor\": ".toList ++ Text.Natural.digits h.cursor ++
    ", \"IncompleteFormat\": ".toList ++
      (toString h.incomplete).toList ++ [' ']

/- A header is closed by its last character. -/
theorem headerText_eq (h : Header) :
    headerText h = headerOpening h ++ ['}'] := by
  have hParts :
      ∀ caret number flag word : List Char,
        '{' ::
            (caret ++
              (number ++ (flag ++ (word ++ [' ', '}'])))) =
          '{' :: caret ++ number ++ flag ++ word ++ [' '] ++
            ['}'] := by
    intro caret number flag word
    simp
  exact hParts _ _ _ _

/- Nothing is closed before that. -/
theorem not_mem_headerOpening
    {c : Char}
    (hClosing : c = '}' ∨ c = ']')
    (h : Header) :
    c ∉ headerOpening h := by
  have hDigits : c ∉ Text.Natural.digits h.cursor := by
    apply Text.Natural.not_mem_digits
    rcases hClosing with rfl | rfl <;> rfl
  have hFlag : c ∉ (toString h.incomplete).toList := by
    rcases hClosing with rfl | rfl <;>
      cases h.incomplete <;> decide
  unfold headerOpening
  simp only [List.mem_append, not_or]
  rcases hClosing with rfl | rfl
  · exact
      ⟨⟨⟨⟨by decide, hDigits⟩, by decide⟩, hFlag⟩,
        by decide⟩
  · exact
      ⟨⟨⟨⟨by decide, hDigits⟩, by decide⟩, hFlag⟩,
        by decide⟩

/- An output that ends before its header does is not read. -/
theorem read_fullText_of_cut
    {h : Header}
    {text : String}
    {bs : List UInt8}
    (hCut : bs <+: Text.bytes (fullTextOutput h text))
    (hShort :
      bs.length < Text.size (String.ofList (headerText h))) :
    ∃ e,
      (read .fullText bs.toByteArray).result = .error e := by
  unfold read
  cases hDecode : Text.Utf8.decode bs.toByteArray with
  | error fault => exact ⟨_, rfl⟩
  | ok front =>
      have hBytes :=
        (Text.Utf8.decode_toByteArray_eq_ok_iff bs front).mp
          hDecode
      rw [← hBytes] at hCut hShort
      rw [fullTextOutput, String.ofList_append] at hCut
      rw [Text.length_bytes] at hShort
      have hFront :=
        Text.prefix_of_prefix_bytes hCut hShort
          (String.toList_ofList.trans (headerText_eq h))
      simp only
      cases hRead : (readFullText front.toList).result with
      | error e => exact ⟨e, rfl⟩
      | ok reply =>
          rcases exists_bracket_of_readFullText hRead with
            ⟨c, hMem, hClosing⟩
          exact
            absurd (hFront.subset hMem)
              (not_mem_headerOpening hClosing h)

end Reply

end Reformat

------------------------------------------------------------
-- Cut Output
------------------------------------------------------------

namespace Reformat

namespace Reply

/-
  Wherever the output of a formatter is cut off before it is
  complete, reading it under the protocol that it was written
  for is an error.
-/
theorem read_of_cut
    (cursor : Nat)
    (incomplete : Bool) :
    (∀ (rs : List Replacement) (closed ending : String),
        Encoded cursor incomplete rs
            (closed ++ ending).toList →
          "</replacements>".toList <:+ closed.toList →
            ∀ bs,
              bs <+: Text.bytes (closed ++ ending) →
                bs.length < Text.size closed →
                  ∃ e,
                    (read .replacements
                        bs.toByteArray).result = .error e) ∧
      ∀ (text : String) (bs : List UInt8),
        bs <+:
            Text.bytes
              (fullTextOutput ⟨cursor, incomplete⟩ text) →
          bs.length <
              Text.size
                (String.ofList
                  (headerText ⟨cursor, incomplete⟩)) →
            ∃ e,
              (read .fullText bs.toByteArray).result =
                .error e := by
  constructor
  · intro rs closed ending hEncoded hClosed bs hCut hShort
    exact
      read_replacements_of_cut hEncoded hClosed hCut hShort
  · intro text bs hCut hShort
    exact read_fullText_of_cut hCut hShort

/- A document cut after its last element, and a header. -/
theorem read_of_cut_sample :
    let written := "<?xml version='1.0'?>\n<replacements" ++
      " xml:space='preserve' incomplete_format='true'>\n" ++
      "<cursor>7</cursor>\n<replacement offset='2'" ++
      " length='0'>&amp;lt;&#10;></replacement>\n"
    Text.bytes written <+: Text.bytes sampleDocument ∧
      (∃ e,
        (read .replacements
            (Text.bytes written).toByteArray).result =
          .error e) ∧
        ∃ e,
          (read .fullText
              (Text.bytes
                "\x7b \"Cursor\": 7, \"Inc").toByteArray).result =
            .error e := by
  intro written
  let closed := written ++ "</replacements>"
  have hDocument : closed ++ "\n" = sampleDocument := by
    decide +kernel
  have hCut :
      Text.bytes written <+: Text.bytes (closed ++ "\n") := by
    rw [Text.bytes_append, Text.bytes_append,
      List.append_assoc]
    exact List.prefix_append _ _
  have hHeader :
      Text.bytes "\x7b \"Cursor\": 7, \"Inc" <+:
        Text.bytes (fullTextOutput ⟨7, true⟩ "") := by
    have hOutput :
        fullTextOutput ⟨7, true⟩ "" =
          "\x7b \"Cursor\": 7, \"Inc" ++
            "ompleteFormat\": true \x7d\n" := by
      decide +kernel
    rw [hOutput, Text.bytes_append]
    exact List.prefix_append _ _
  rcases read_of_cut 7 true with ⟨hXml, hText⟩
  refine ⟨hDocument ▸ hCut, ?_, ?_⟩
  · have hEncoded :
        Encoded 7 true [⟨2, 0, "&lt;\n>"⟩]
          (closed ++ "\n").toList :=
      hDocument ▸ encoded_sampleDocument
    have hClosed :
        "</replacements>".toList <:+ closed.toList := by
      rw [String.toList_append]
      exact List.suffix_append _ _
    have hShort :
        (Text.bytes written).length < Text.size closed := by
      have hEnd : 0 < Text.size "</replacements>" := by
        decide
      have hSize :
          Text.size closed =
            Text.size written + Text.size "</replacements>" :=
        String.utf8ByteSize_append
      rw [Text.length_bytes, hSize]
      omega
    exact hXml _ closed "\n" hEncoded hClosed _ hCut hShort
  · exact hText "" _ hHeader (by decide +kernel)

end Reply

end Reformat
