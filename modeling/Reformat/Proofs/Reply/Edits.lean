import Reformat.Proofs.Attempt
import Reformat.Proofs.Reply.Grammar

/-
  Replacement documents are read just as the grammar has them.

  The elements of a body are found by a scan and then given
  their meaning one after the other.  A step adds one item to
  what was gathered before, so a run gathers the items in
  their order.

  Key definitions include:
    * `Reply.ItemMeant`

  Main statements:
    * `Reply.readElements_eq_ok_iff`
    * `Reply.readBody_eq_ok_iff`
    * `Reply.readEdits_of_written`
    * `Reply.readEdits_result_eq_ok_iff`
-/

------------------------------------------------------------
-- Pieces And Attributes
------------------------------------------------------------

namespace Reformat

namespace Reply

/- Just blanks are accepted between pieces. -/
theorem expectBlank_eq_ok_iff (gap : List Char) :
    expectBlank gap = .ok () ↔
      gap.all Text.isBlank = true := by
  unfold expectBlank
  split
  · next hBlank => simp [hBlank]
  · next hBlank => simp [hBlank]

/- Pieces are accepted when nothing else is written. -/
theorem expectPieces_eq_ok_iff
    {α : Type}
    {pieces : Markup.Pieces α}
    {as : List α} :
    expectPieces pieces = .ok as ↔
      pieces.IsSpaced ∧ pieces.found.map Prod.snd = as := by
  unfold expectPieces Markup.Pieces.IsSpaced
  simp only [Attempt.bind_eq_ok_iff, Attempt.pure_eq_ok_iff,
    ← expectBlank_eq_ok_iff]
  constructor
  · intro h
    rcases h with ⟨_, hFound, _, hRest, hList⟩
    exact
      ⟨⟨Attempt.forM_eq_ok_iff.mp hFound, hRest⟩, hList⟩
  · intro h
    rcases h with ⟨⟨hFound, hRest⟩, hList⟩
    exact
      ⟨(), Attempt.forM_eq_ok_iff.mpr hFound, (), hRest,
        hList⟩

/- Inside a tag just a list of attributes is accepted. -/
theorem readAttributes_eq_ok_iff
    {inside : List Char}
    {as : List Markup.Attribute}
    (hTag : '>' ∉ inside) :
    readAttributes inside = .ok as ↔
      Markup.AttributeList inside as := by
  unfold readAttributes Markup.attributes
  rw [expectPieces_eq_ok_iff,
    ← Markup.spaced_iff_scan Markup.attributeReader_reads,
    Markup.attributeList_iff]
  constructor
  · exact fun h => ⟨h, hTag⟩
  · exact fun h => h.1

end Reply

end Reformat

------------------------------------------------------------
-- The Meaning Of Elements
------------------------------------------------------------

namespace Reformat

namespace Reply

/- The item that an element stands for. -/
inductive ItemMeant : Markup.Element → Item → Prop
  | cursor
      {content : List Char}
      {n : Nat}
      (hNumber : NumberWritten content n) :
      ItemMeant (.cursor content) (.cursor n)
  | replacement
      {inside content : List Char}
      {as : List Markup.Attribute}
      {offset length : Nat}
      (hList : readAttributes inside = .ok as)
      (hOffset : FieldWritten .offset offset as)
      (hLength : FieldWritten .length length as) :
      ItemMeant (.replacement inside content)
        (.replacement
          ⟨offset, length, Markup.decodeText content⟩)

/- No number is written with a sign that opens a tag. -/
theorem NumberWritten.not_mem
    {cs : List Char}
    {n : Nat}
    (h : NumberWritten cs n) :
    '<' ∉ cs := by
  cases h with
  | @intro before word after n hBefore hWord hAfter =>
      have hBlanks :
          ∀ gap : List Char,
            gap.all Text.isBlank = true → '<' ∉ gap := by
        intro gap hGap hMem
        have hBlank := List.all_eq_true.mp hGap '<' hMem
        exact absurd hBlank (by decide)
      have hNumber : '<' ∉ word := by
        cases hWord with
        | intro hSign hSome hDigits hLimit =>
            intro hMem
            rcases List.mem_append.mp hMem with hMem | hMem
            · rcases hSign with rfl | rfl
              · exact absurd hMem (by decide)
              · exact absurd hMem (by decide)
            · exact absurd (hDigits '<' hMem) (by decide)
      simp only [List.mem_append, not_or]
      exact
        ⟨⟨hBlanks before hBefore, hNumber⟩,
          hBlanks after hAfter⟩

/- Items are written as the elements that stand for them. -/
theorem itemWritten_iff
    (piece : List Char)
    (item : Item) :
    ItemWritten piece item ↔
      ∃ e,
        Markup.ElementWritten piece e ∧ ItemMeant e item := by
  constructor
  · intro h
    cases h with
    | cursor hNumber =>
        exact
          ⟨_, .cursor hNumber.not_mem, .cursor hNumber⟩
    | empty hWord hList hOffset hLength =>
        have hTag := ((Markup.attributeList_iff _ _).mp hList).2
        have hRead := (readAttributes_eq_ok_iff hTag).mpr hList
        exact
          ⟨_, .empty hWord hTag,
            .replacement hRead hOffset hLength⟩
    | paired hWord hList hOffset hLength hContent =>
        have hTag := ((Markup.attributeList_iff _ _).mp hList).2
        have hRead := (readAttributes_eq_ok_iff hTag).mpr hList
        exact
          ⟨_, .paired hWord hTag hList.getLast?_ne hContent,
            .replacement hRead hOffset hLength⟩
  · intro h
    rcases h with ⟨e, hPiece, hMeant⟩
    cases hPiece with
    | cursor hContent =>
        cases hMeant with
        | cursor hNumber => exact .cursor hNumber
    | empty hWord hTag =>
        cases hMeant with
        | replacement hList hOffset hLength =>
            rw [readAttributes_eq_ok_iff hTag] at hList
            exact .empty hWord hList hOffset hLength
    | paired hWord hTag hSlash hContent =>
        cases hMeant with
        | replacement hList hOffset hLength =>
            rw [readAttributes_eq_ok_iff hTag] at hList
            exact .paired hWord hList hOffset hLength hContent

end Reply

end Reformat

------------------------------------------------------------
-- Gathering Items
------------------------------------------------------------

namespace Reformat

namespace Reply

/- What is gathered is what was there and what items say. -/
structure Gathered.Gains
    (sofar next : Gathered)
    (items : List Item) : Prop where
  cursor :
    next.cursor?.toList =
      sofar.cursor?.toList ++ items.filterMap Item.cursor?
  replacements :
    next.replacements.toList =
      sofar.replacements.toList ++
        items.filterMap Item.replacement?

namespace Gathered

/- Without items what was gathered stays as it is. -/
theorem gains_nil_iff
    {sofar next : Gathered} :
    sofar.Gains next [] ↔ sofar = next := by
  constructor
  · intro h
    rcases sofar with ⟨cursor, replacements⟩
    rcases next with ⟨cursor', replacements'⟩
    have hCursor : cursor' = cursor := by
      have hList := h.cursor
      cases cursor <;> cases cursor' <;> simp_all
    have hReplacements : replacements' = replacements := by
      apply Array.toList_inj.mp
      simpa using h.replacements
    rw [hCursor, hReplacements]
  · intro h
    subst h
    exact ⟨by simp, by simp⟩

/- A cursor is gathered when there was none. -/
theorem gains_cursor_iff
    {sofar next : Gathered}
    {n : Nat} :
    sofar.Gains next [.cursor n] ↔
      sofar.cursor? = none ∧
        next = { sofar with cursor? := some n } := by
  constructor
  · intro h
    rcases sofar with ⟨cursor, replacements⟩
    rcases next with ⟨cursor', replacements'⟩
    have hReplacements : replacements' = replacements := by
      apply Array.toList_inj.mp
      have hList :
          replacements'.toList = replacements.toList ++ [] :=
        h.replacements
      rw [hList, List.append_nil]
    have hList : cursor'.toList = cursor.toList ++ [n] :=
      h.cursor
    subst hReplacements
    cases cursor with
    | none =>
        cases cursor' with
        | none => cases hList
        | some c =>
            have hEq : c = n := by simpa using hList
            subst hEq
            exact ⟨rfl, rfl⟩
    | some c =>
        -- A second cursor would not fit.
        cases cursor' with
        | none => cases hList
        | some c' => cases hList
  · intro h
    rcases h with ⟨hNone, rfl⟩
    refine ⟨?_, ?_⟩
    · simp [hNone, Item.cursor?]
    · simp [Item.replacement?]

/- A replacement is gathered after those before it. -/
theorem gains_replacement_iff
    {sofar next : Gathered}
    {r : Replacement} :
    sofar.Gains next [.replacement r] ↔
      next =
        { sofar with
          replacements := sofar.replacements.push r } := by
  constructor
  · intro h
    rcases sofar with ⟨cursor, replacements⟩
    rcases next with ⟨cursor', replacements'⟩
    have hReplacements :
        replacements' = replacements.push r := by
      apply Array.toList_inj.mp
      have hList :
          replacements'.toList = replacements.toList ++ [r] :=
        h.replacements
      rw [hList, Array.toList_push]
    have hCursor : cursor' = cursor := by
      have hList : cursor'.toList = cursor.toList ++ [] :=
        h.cursor
      cases cursor <;> cases cursor' <;> simp_all
    rw [hReplacements, hCursor]
  · intro h
    subst h
    refine ⟨?_, ?_⟩
    · simp [Item.cursor?]
    · simp [Item.replacement?]

/- Items are gathered one after the other. -/
theorem gains_cons_iff
    {sofar next : Gathered}
    {item : Item}
    {items : List Item} :
    sofar.Gains next (item :: items) ↔
      ∃ middle,
        sofar.Gains middle [item] ∧
          middle.Gains next items := by
  constructor
  · intro h
    rcases h with ⟨hCursor, hReplacements⟩
    cases item with
    | cursor n =>
        have hNone : sofar.cursor? = none := by
          cases hSofar : sofar.cursor? with
          | none => rfl
          | some c =>
              have hLength := congrArg List.length hCursor
              have hMost :
                  next.cursor?.toList.length ≤ 1 := by
                cases next.cursor? <;> simp
              simp [hSofar, Item.cursor?] at hLength
              omega
        refine
          ⟨_, gains_cursor_iff.mpr ⟨hNone, rfl⟩, ?_, ?_⟩
        · simpa [hNone, List.filterMap_cons, Item.cursor?]
            using hCursor
        · simpa [List.filterMap_cons, Item.replacement?]
            using hReplacements
    | replacement r =>
        refine ⟨_, gains_replacement_iff.mpr rfl, ?_, ?_⟩
        · simpa [List.filterMap_cons, Item.cursor?]
            using hCursor
        · simpa [List.filterMap_cons, Item.replacement?]
            using hReplacements
  · intro h
    rcases h with ⟨middle, hFirst, hRest⟩
    have hList : item :: items = [item] ++ items := rfl
    rw [hList]
    refine ⟨?_, ?_⟩
    · rw [hRest.cursor, hFirst.cursor, List.append_assoc,
        ← List.filterMap_append]
    · rw [hRest.replacements, hFirst.replacements,
        List.append_assoc, ← List.filterMap_append]

end Gathered

end Reply

end Reformat

------------------------------------------------------------
-- Reading Elements
------------------------------------------------------------

namespace Reformat

namespace Reply

/- A cursor element is read when there was none before. -/
theorem readElement_cursor_eq_ok_iff
    {sofar next : Gathered}
    {content : List Char} :
    readElement sofar (.cursor content) = .ok next ↔
      ∃ n,
        NumberWritten content n ∧
          sofar.Gains next [.cursor n] := by
  have hText :
      (String.ofList content).toList = content := by simp
  simp only [Gathered.gains_cursor_iff]
  unfold readElement
  cases hSofar : sofar.cursor? with
  | some c => simp
  | none =>
      simp only [Attempt.bind_eq_ok_iff,
        Attempt.pure_eq_ok_iff, readNumber_eq_ok_iff, hText,
        true_and, @eq_comm _ next]

/- A replacement element is read when its tag is. -/
theorem readElement_replacement_eq_ok_iff
    {sofar next : Gathered}
    {inside content : List Char} :
    readElement sofar (.replacement inside content) =
        .ok next ↔
      ∃ as offset length,
        readAttributes inside = .ok as ∧
          FieldWritten .offset offset as ∧
            FieldWritten .length length as ∧
              sofar.Gains next
                [.replacement
                  ⟨offset, length,
                    Markup.decodeText content⟩] := by
  simp only [readElement, Attempt.bind_eq_ok_iff,
    Attempt.pure_eq_ok_iff, numberAttribute_eq_ok_iff,
    Gathered.gains_replacement_iff]
  constructor
  · intro h
    rcases h with
      ⟨as, hList, offset, hOffset, length, hLength, hNext⟩
    exact
      ⟨as, offset, length, hList, hOffset, hLength,
        hNext.symm⟩
  · intro h
    rcases h with
      ⟨as, offset, length, hList, hOffset, hLength, hNext⟩
    exact
      ⟨as, hList, offset, hOffset, length, hLength,
        hNext.symm⟩

/- An element that is read adds the item it stands for. -/
theorem readElement_eq_ok_iff
    {sofar next : Gathered}
    {e : Markup.Element} :
    readElement sofar e = .ok next ↔
      ∃ item,
        ItemMeant e item ∧ sofar.Gains next [item] := by
  cases e with
  | cursor content =>
      rw [readElement_cursor_eq_ok_iff]
      constructor
      · intro h
        rcases h with ⟨n, hNumber, hGains⟩
        exact ⟨_, ItemMeant.cursor hNumber, hGains⟩
      · intro h
        rcases h with ⟨item, hMeant, hGains⟩
        cases hMeant with
        | cursor hNumber => exact ⟨_, hNumber, hGains⟩
  | replacement inside content =>
      rw [readElement_replacement_eq_ok_iff]
      constructor
      · intro h
        rcases h with
          ⟨as, offset, length, hList, hOffset, hLength,
            hGains⟩
        exact
          ⟨_, ItemMeant.replacement hList hOffset hLength,
            hGains⟩
      · intro h
        rcases h with ⟨item, hMeant, hGains⟩
        cases hMeant with
        | replacement hList hOffset hLength =>
            exact
              ⟨_, _, _, hList, hOffset, hLength, hGains⟩

/- Elements that are read add their items in order. -/
theorem readElements_eq_ok_iff
    {sofar all : Gathered}
    {found : List (List Char × Markup.Element)} :
    readElements sofar found = .ok all ↔
      (∀ piece ∈ found, piece.1.all Text.isBlank = true) ∧
        ∃ items,
          List.Forall₂ ItemMeant (found.map Prod.snd)
              items ∧
            sofar.Gains all items := by
  induction found generalizing sofar with
  | nil =>
      simp only [readElements, Except.ok.injEq,
        List.not_mem_nil, false_implies, implies_true,
        true_and, List.map_nil, List.forall₂_nil_left_iff]
      constructor
      · intro h
        exact ⟨[], rfl, Gathered.gains_nil_iff.mpr h⟩
      · intro h
        rcases h with ⟨items, rfl, hGains⟩
        exact Gathered.gains_nil_iff.mp hGains
  | cons piece found ih =>
      rcases piece with ⟨gap, e⟩
      simp only [readElements, Attempt.bind_eq_ok_iff,
        readElement_eq_ok_iff, ih, List.forall_mem_cons,
        List.map_cons]
      constructor
      · intro h
        rcases h with
          ⟨_, hGap, middle, ⟨item, hMeant, hFirst⟩, hGaps,
            items, hAll, hRest⟩
        exact
          ⟨⟨(expectBlank_eq_ok_iff gap).mp hGap, hGaps⟩,
            item :: items, .cons hMeant hAll,
            Gathered.gains_cons_iff.mpr
              ⟨middle, hFirst, hRest⟩⟩
      · intro h
        rcases h with ⟨⟨hGap, hGaps⟩, items, hAll, hGains⟩
        cases hAll with
        | @cons _ item _ items hMeant hAll =>
            rcases Gathered.gains_cons_iff.mp hGains with
              ⟨middle, hFirst, hRest⟩
            exact
              ⟨(), (expectBlank_eq_ok_iff gap).mpr hGap,
                middle, ⟨item, hMeant, hFirst⟩, hGaps, items,
                hAll, hRest⟩

end Reply

end Reformat

------------------------------------------------------------
-- Reading Documents
------------------------------------------------------------

namespace Reformat

namespace Reply

/- What a body that is read says is what its items say. -/
theorem readBody_eq_ok_iff
    (body : List Char)
    (reply : Reply) :
    readBody body = .ok reply ↔
      ∃ cursor rs,
        reply = .edits cursor rs ∧
          BodyWritten cursor rs body := by
  have hRow :
      ∀ items,
        Markup.Spaced ItemWritten body items ↔
          ∃ es,
            ((Markup.elements body).IsSpaced ∧
                (Markup.elements body).found.map Prod.snd =
                  es) ∧
              List.Forall₂ ItemMeant es items := by
    intro items
    rw [Markup.Spaced.relate_iff itemWritten_iff]
    simp only [Markup.elements,
      Markup.spaced_iff_scan Markup.elementReader_reads]
  unfold readBody
  simp only [Attempt.bind_eq_ok_iff, readElements_eq_ok_iff]
  constructor
  · intro h
    rcases h with
      ⟨all, ⟨hGaps, items, hAll, hGains⟩, _, hRest, h⟩
    cases hCursor : all.cursor? with
    | none =>
        simp only [hCursor] at h
        cases h
    | some cursor =>
        simp only [hCursor, Attempt.pure_eq_ok_iff] at h
        subst h
        rw [expectBlank_eq_ok_iff] at hRest
        refine
          ⟨cursor, all.replacements.toList, rfl,
            BodyWritten.intro
              ((hRow items).mpr
                ⟨_, ⟨⟨hGaps, hRest⟩, rfl⟩, hAll⟩)
              ?_ ?_⟩
        · have hList := hGains.cursor
          simpa [hCursor] using hList.symm
        · simpa using hGains.replacements.symm
  · intro h
    rcases h with ⟨cursor, rs, rfl, hBody⟩
    cases hBody with
    | @intro items hItems hCursor hReplacements =>
        rcases (hRow items).mp hItems with
          ⟨es, ⟨⟨hGaps, hRest⟩, rfl⟩, hAll⟩
        let all : Gathered := ⟨some cursor, rs.toArray⟩
        have hGains : Gathered.Gains {} all items :=
          ⟨by simp [all, hCursor],
            by simp [all, hReplacements]⟩
        refine
          ⟨all, ⟨hGaps, items, hAll, hGains⟩, (),
            (expectBlank_eq_ok_iff _).mpr hRest, ?_⟩
        simp [all, pure, Except.pure]

/- A body without characters has no cursor. -/
theorem readBody_nil :
    readBody [] = .error .missingCursor := by
  simp [readBody, Markup.elements, Markup.scan,
    Markup.scanFrom, readElements, expectBlank, bind,
    Except.bind]

/- A document as the grammar has it is read to its end. -/
theorem readEdits_of_written
    {as : List Markup.Attribute}
    {cursor : Nat}
    {rs : List Replacement}
    {text : List Char}
    (h : DocumentWritten as cursor rs text) :
    readEdits text =
      ⟨.ok (.edits cursor rs), as.any isIncompleteMark⟩ := by
  cases h with
  | @intro before declaration inside body after hBefore
      hDeclaration hWord hList hBody hAfter =>
      have hTag := ((Markup.attributeList_iff _ _).mp hList).2
      have hRoot :=
        Markup.root?_of_written
          (@Markup.RootWritten.intro before declaration inside
            body after hBefore hDeclaration hWord hTag hAfter)
      have hAttributes :=
        (readAttributes_eq_ok_iff hTag).mpr hList
      have hReply :=
        (readBody_eq_ok_iff _ (.edits cursor rs)).mpr
          ⟨cursor, rs, rfl, hBody⟩
      unfold readEdits
      simp only [hRoot, hAttributes, hReply]

/- What is read to its end is as the grammar has it. -/
theorem written_of_readEdits
    {text : List Char}
    {reply : Reply}
    (h : (readEdits text).result = .ok reply) :
    ∃ as cursor rs,
      reply = .edits cursor rs ∧
        DocumentWritten as cursor rs text := by
  unfold readEdits at h
  cases hRoot : Markup.root? text with
  | none =>
      rw [hRoot] at h
      cases h
  | some root =>
      cases hAttributes : readAttributes root.attributes with
      | error e =>
          simp only [hRoot, hAttributes] at h
          cases h
      | ok as =>
          simp only [hRoot, hAttributes] at h
          rcases (readBody_eq_ok_iff _ _).mp h with
            ⟨cursor, rs, hReply, hBody⟩
          refine ⟨as, cursor, rs, hReply, ?_⟩
          rcases Markup.written_of_root? hRoot with
            hEmpty | hWritten
          · rw [hEmpty, readBody_nil] at h
            cases h
          · cases hWritten with
            | intro hBefore hDeclaration hWord hTag hAfter =>
                rw [readAttributes_eq_ok_iff hTag]
                  at hAttributes
                exact
                  .intro hBefore hDeclaration hWord
                    hAttributes hBody hAfter

/-
  Reading succeeds for the documents of the grammar and for no
  other text, and it gives the reply that the document says.
-/
theorem readEdits_result_eq_ok_iff
    (s : String)
    (reply : Reply) :
    (readEdits s.toList).result = .ok reply ↔
      ∃ as cursor rs,
        reply = .edits cursor rs ∧
          DocumentWritten as cursor rs s.toList := by
  constructor
  · exact written_of_readEdits
  · intro h
    rcases h with ⟨as, cursor, rs, rfl, hDocument⟩
    rw [readEdits_of_written hDocument]

end Reply

end Reformat
