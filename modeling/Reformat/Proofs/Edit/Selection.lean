import Reformat.Proofs.Edit.Changed

/-
  The selection follows its text.

  Each end of a selection is a position that every replacement
  moves.  An end behind the last byte stays there, an end at a
  byte stays at that byte as long as the byte is left, and an
  end between two characters stays between two.

  Key definitions include:
    * `Edit.Follows`

  Main statements:
    * `Edit.isBoundary_shift`
    * `Edit.Follows.replace`
    * `Document.transact_selection`
-/

------------------------------------------------------------
-- Boundaries Under An Edit
------------------------------------------------------------

namespace Reformat

namespace Edit

/-
  A boundary goes to a boundary, also when the characters on
  both sides of it are taken away.
-/
theorem isBoundary_shift
    {s : String}
    {r : Span}
    {q : Nat}
    (hOrder : r.start ≤ r.stop)
    (hStart : Text.IsBoundary s r.start)
    (hStop : Text.IsBoundary s r.stop)
    (value : String)
    (hq : Text.IsBoundary s q) :
    Text.IsBoundary (Text.replace s r.start r.stop value)
      (shift r (Text.size value) q) := by
  have hTake := Text.size_takeBytes hStart
  have hFront :
      Text.size (Text.takeBytes s r.start ++ value) =
        r.start + Text.size value := by
    have hParts :
        Text.size (Text.takeBytes s r.start ++ value) =
          Text.size (Text.takeBytes s r.start) +
            Text.size value :=
      String.utf8ByteSize_append
    rw [hParts, hTake]
  -- The three parts of the new text take the boundaries
  -- behind the span, in it, and before it.
  unfold Text.replace
  rcases Nat.lt_or_ge q r.stop with hBefore | hBehind
  · rcases Nat.lt_or_ge r.start q with hInside | hLe
    · have hMoved :
          shift r (Text.size value) q =
            Text.size (Text.takeBytes s r.start ++ value) +
              0 := by
        rw [hFront]
        simp only [shift, if_neg (Nat.not_le_of_lt hBefore),
          if_pos hInside, Nat.add_zero]
      rw [hMoved]
      exact
        (Text.isBoundary_append_add _ _ 0).mpr
          (Text.isBoundary_zero _)
    · have hMoved : shift r (Text.size value) q = q := by
        simp only [shift, if_neg (Nat.not_le_of_lt hBefore),
          if_neg (Nat.not_lt_of_le hLe)]
      have hPart : q ≤ Text.size (Text.takeBytes s r.start) :=
        by rwa [hTake]
      have hLeft :
          Text.IsBoundary (Text.takeBytes s r.start) q := by
        apply (Text.isBoundary_append_of_le hPart).mp
        rw [Text.takeBytes_append_dropBytes hStart]
        exact hq
      rw [hMoved, String.append_assoc]
      exact (Text.isBoundary_append_of_le hPart).mpr hLeft
  · have hMoved :
        shift r (Text.size value) q =
          Text.size (Text.takeBytes s r.start ++ value) +
            (q - r.stop) := by
      rw [hFront]
      simp only [shift, if_pos hBehind]
      omega
    rw [hMoved]
    exact
      (Text.isBoundary_append_add _ _ _).mpr
        ((Text.isBoundary_dropBytes hStop hBehind).mpr hq)

end Edit

end Reformat

------------------------------------------------------------
-- Bytes Under An Edit
------------------------------------------------------------

namespace Reformat

namespace Edit

/-
  A byte that was there before a replacement stands before its
  span, or behind it by as much as was inserted.
-/
theorem getElem?_of_getElem?_trace
    {r : Span}
    {bs : List TracedByte}
    {value : String}
    {k p : Nat}
    {b : TracedByte}
    (hWithin : r.Within bs.length)
    (hByte :
      ((Act.replace r value).trace bs)[k]? = some b)
    (hOrigin : b.origin? = some p) :
    k < r.start ∧ bs[k]? = some b ∨
      r.start + Text.size value ≤ k ∧
        bs[k - (r.start + Text.size value) + r.stop]? =
          some b := by
  rw [getElem?_trace_replace hWithin] at hByte
  split at hByte
  · next hBefore => exact .inl ⟨hBefore, hByte⟩
  · split at hByte
    · have hMem := List.mem_of_getElem? hByte
      rcases List.mem_map.mp hMem with ⟨c, -, rfl⟩
      cases hOrigin
    · next hBehind =>
      exact .inr ⟨Nat.le_of_not_lt hBehind, hByte⟩

end Edit

end Reformat

------------------------------------------------------------
-- Followed Positions
------------------------------------------------------------

namespace Reformat

namespace Edit

/-
  A position of a text and the one that stands for it in an
  edited text, whose bytes are traced.
-/
structure Follows
    (s s' : String)
    (bs : List TracedByte)
    (p q : Nat) : Prop where
  at_end : p = Text.size s → q = Text.size s'
  at_byte :
    ∀ k b,
      bs[k]? = some b → b.origin? = some p → q = k
  isBoundary :
    Text.IsBoundary s p → Text.IsBoundary s' q

/- Every position follows itself before the first act. -/
theorem follows_traced
    (s : String)
    (p : Nat) :
    Follows s s (traced s) p p where
  at_end h := h
  at_byte := by
    intro k b hByte hOrigin
    rw [traced, List.getElem?_mapIdx] at hByte
    rcases Option.map_eq_some_iff.mp hByte with
      ⟨c, -, rfl⟩
    exact (Option.some.inj hOrigin).symm
  isBoundary h := h

/- A position follows its text when some of it is replaced. -/
theorem Follows.replace
    {s s' : String}
    {bs : List TracedByte}
    {p q : Nat}
    {r : Span}
    (value : String)
    (hAllowed : (Act.replace r value).Allowed s')
    (hLength : bs.length = Text.size s')
    (h : Follows s s' bs p q) :
    Follows s (Text.replace s' r.start r.stop value)
      ((Act.replace r value).trace bs) p
      (shift r (Text.size value) q) := by
  rcases hAllowed with ⟨hWithin, hStart, hStop⟩
  refine ⟨?_, ?_, ?_⟩
  · intro hEnd
    have hSize := Text.size_replace hStart hStop value
    have hSame := h.at_end hEnd
    have hBehind : r.stop ≤ q := by
      rw [hSame]
      exact hWithin.2
    have hOrder := hWithin.1
    simp only [shift, if_pos hBehind]
    omega
  · intro k b hByte hOrigin
    have hTraced : r.Within bs.length := by
      rwa [hLength]
    have hOrder := hWithin.1
    rcases getElem?_of_getElem?_trace hTraced hByte hOrigin
      with ⟨hBefore, hOld⟩ | ⟨hBehind, hOld⟩
    · have hPlace : q = k := h.at_byte k b hOld hOrigin
      rw [shift, if_neg (by omega), if_neg (by omega),
        hPlace]
    · have hPlace := h.at_byte _ b hOld hOrigin
      rw [shift, if_pos (by omega)]
      omega
  · intro hBoundary
    exact
      isBoundary_shift hWithin.1 hStart hStop value
        (h.isBoundary hBoundary)

/-
  Both ends of the selection of a draft follow the text when
  only replacements are made.
-/
theorem follows_performAll
    {s : String}
    {p p' : Nat}
    {t : Draft}
    {bs : List TracedByte}
    {acts : List Act}
    (hAllowed : AllowedAll t acts)
    (hReplaces : ∀ a ∈ acts, a.isReplace = true)
    (hBytes : bs.map TracedByte.byte = Text.bytes t.text)
    (hStart : Follows s t.text bs p t.selection.start)
    (hStop : Follows s t.text bs p' t.selection.stop) :
    Follows s (performAll t acts).text (traceAll bs acts) p
        (performAll t acts).selection.start ∧
      Follows s (performAll t acts).text
        (traceAll bs acts) p'
        (performAll t acts).selection.stop := by
  induction acts generalizing t bs with
  | nil => exact ⟨hStart, hStop⟩
  | cons a rest ih =>
      rcases hAllowed with ⟨hFirst, hRest⟩
      rcases List.forall_mem_cons.mp hReplaces with
        ⟨hReplace, hOthers⟩
      cases a with
      | moveCaret offset => cases hReplace
      | replace r value =>
          have hLength : bs.length = Text.size t.text := by
            rw [← Text.length_bytes, ← hBytes,
              List.length_map]
          exact
            ih hRest hOthers
              (map_byte_trace hFirst hBytes)
              (hStart.replace value hFirst hLength)
              (hStop.replace value hFirst hLength)

end Edit

end Reformat

------------------------------------------------------------
-- Selections Of A Document
------------------------------------------------------------

namespace Reformat

namespace Document

/-
  A transaction that only replaces spans takes both ends of
  the selection along with their text.
-/
theorem transact_selection
    (ε : Type)
    (d : Document)
    {acts : List Edit.Act}
    (hAllowed :
      Edit.AllowedAll (Draft.ofDocument d) acts)
    (hReplaces : ∀ a ∈ acts, a.isReplace = true) :
    let bs := Edit.traceAll (Edit.traced d.text) acts
    ∃ d' patch,
      d.transact
            (fun t =>
              (Edit.performAll t acts,
                (.ok () : Except ε Unit))) =
          (d', .ok patch) ∧
        bs.map Edit.TracedByte.byte = Text.bytes d'.text ∧
        Edit.Follows d.text d'.text bs d.selection.start
          d'.selection.start ∧
        Edit.Follows d.text d'.text bs d.selection.stop
          d'.selection.stop := by
  intro bs
  let t := Edit.performAll (Draft.ofDocument d) acts
  have hText : (d.commit t).text = t.text :=
    text_commit_performAll d acts
  have hFollows :=
    Edit.follows_performAll hAllowed hReplaces
      (Edit.map_byte_traced d.text)
      (Edit.follows_traced d.text d.selection.start)
      (Edit.follows_traced d.text d.selection.stop)
  refine ⟨d.commit t, _, rfl, ?_, ?_⟩
  · rw [hText]
    exact Edit.map_byte_traceAll hAllowed
  · rw [hText]
    exact hFollows

/-
  The byte at the start is kept, behind one character that is
  replaced; the byte at the stop is taken away.
-/
theorem transact_selection_sample :
    let d : Document := ⟨"a→bc", ⟨4, 5⟩, 2⟩
    let acts : List Edit.Act :=
      [.replace ⟨1, 4⟩ "é", .replace ⟨4, 5⟩ "",
        .replace ⟨0, 0⟩ "xy"]
    let bs := Edit.traceAll (Edit.traced d.text) acts
    Edit.AllowedAll (Draft.ofDocument d) acts ∧
      (∀ a ∈ acts, a.isReplace = true) ∧
      ∃ d' patch,
        d.transact
              (fun t =>
                (Edit.performAll t acts,
                  (.ok () : Except EditError Unit))) =
            (d', .ok patch) ∧
          d' = ⟨"xyaéb", ⟨5, 6⟩, 3⟩ ∧
          bs[5]? = some ⟨0x62, some 4⟩ ∧
          Edit.Follows d.text d'.text bs 4 5 ∧
          Edit.Follows d.text d'.text bs 5 6 := by
  intro d acts bs
  have hAllowed :
      Edit.AllowedAll (Draft.ofDocument d) acts := by
    decide +kernel
  have hReplaces : ∀ a ∈ acts, a.isReplace = true := by
    decide
  rcases
      transact_selection EditError d hAllowed hReplaces with
    ⟨d', patch, hTransact, -, hStart, hStop⟩
  have hResult :
      (d.transact
          (fun t =>
            (Edit.performAll t acts,
              (.ok () : Except EditError Unit)))).1 =
        ⟨"xyaéb", ⟨5, 6⟩, 3⟩ := by
    decide +kernel
  have hDocument : d' = ⟨"xyaéb", ⟨5, 6⟩, 3⟩ := by
    rw [hTransact] at hResult
    exact hResult
  rw [hDocument] at hStart hStop
  have hKept : bs[5]? = some ⟨0x62, some 4⟩ := by
    decide +kernel
  refine
    ⟨hAllowed, hReplaces, d', patch, hTransact, hDocument,
      hKept, ?_, ?_⟩
  · rw [hDocument]
    exact hStart
  · rw [hDocument]
    exact hStop

end Document

end Reformat
