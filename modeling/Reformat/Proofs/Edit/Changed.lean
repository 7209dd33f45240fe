import Reformat.Proofs.Edit.Commit
import Reformat.Proofs.Edit.Origin

/-
  The changed spans of a patch.

  Every span that was replaced is written down, and moves with
  the text as later acts cut it, swallow it, touch it or split
  it.  At any time the spans hold just the bytes that an act
  has inserted.

  Key definitions include:
    * `Span.Holds`
    * `Edit.Covered`
    * `Edit.InsertedAt`
    * `Edit.uncovered`
    * `Edit.Marks`

  Main statements:
    * `Edit.holds_shiftSpan_iff`
    * `Edit.insertedAt_replace_iff`
    * `Edit.Marks.perform`
    * `Document.transact_changed`
-/

------------------------------------------------------------
-- Covered Positions
------------------------------------------------------------

namespace Reformat

namespace Span

/- The positions of a span's bytes. -/
def Holds
    (r : Span)
    (p : Nat) : Prop :=
  r.start ≤ p ∧ p < r.stop

/- Holding a position is decidable. -/
instance
    (r : Span)
    (p : Nat) :
    Decidable (r.Holds p) := by
  unfold Holds
  infer_instance

end Span

namespace Edit

/- A position that one of some spans holds. -/
def Covered
    (spans : List Span)
    (p : Nat) : Prop :=
  ∃ r ∈ spans, r.Holds p

/- Being covered is decidable. -/
instance
    (spans : List Span)
    (p : Nat) :
    Decidable (Covered spans p) := by
  unfold Covered
  infer_instance

/- The bytes of a text that no span holds. -/
def uncovered
    (spans : List Span)
    (bs : List UInt8) : List UInt8 :=
  (bs.zipIdx.filter fun b =>
    decide (¬ Covered spans b.2)).map Prod.fst

end Edit

end Reformat

------------------------------------------------------------
-- Moved Positions
------------------------------------------------------------

namespace Reformat

namespace Edit

variable {r : Span}
variable {inserted : Nat}

/- Positions before a span stay where they are. -/
theorem shift_le_iff_of_lt
    {p x : Nat}
    (hOrder : r.start ≤ r.stop)
    (hBefore : p < r.start) :
    shift r inserted x ≤ p ↔ x ≤ p := by
  unfold shift
  split
  · omega
  · split <;> omega

/- Positions behind a span keep their distance to it. -/
theorem shift_le_iff_of_le
    {p x : Nat}
    (hOrder : r.start ≤ r.stop)
    (hBehind : r.start + inserted ≤ p) :
    shift r inserted x ≤ p ↔
      x ≤ p - (r.start + inserted) + r.stop := by
  unfold shift
  split
  · omega
  · split <;> omega

/- Positions stay in their order. -/
theorem shift_mono
    {x y : Nat}
    (hOrder : r.start ≤ r.stop)
    (hLe : x ≤ y) :
    shift r inserted x ≤ shift r inserted y := by
  unfold shift
  split
  · split <;> omega
  · split
    · split
      · omega
      · split <;> omega
    · split
      · omega
      · split <;> omega

/- Positions of a text stay positions of it. -/
theorem shift_le_size
    {x size size' : Nat}
    (hWithin : r.Within size)
    (hLe : x ≤ size)
    (hSize :
      size' + r.stop = r.start + inserted + size) :
    shift r inserted x ≤ size' := by
  rcases hWithin with ⟨hOrder, hStop⟩
  unfold shift
  split
  · omega
  · split <;> omega

/-
  A span that is moved by an edit holds the positions that it
  held before, outside of what is inserted.
-/
theorem holds_shiftSpan_iff
    {s : Span}
    {p : Nat}
    (hOrder : r.start ≤ r.stop)
    (hOutside :
      ¬ (r.start ≤ p ∧ p < r.start + inserted)) :
    (shiftSpan r inserted s).Holds p ↔
      p < r.start ∧ s.Holds p ∨
        r.start + inserted ≤ p ∧
          s.Holds (p - (r.start + inserted) + r.stop) := by
  by_cases hBefore : p < r.start
  · have hMoved :
        ∀ x, shift r inserted x ≤ p ↔ x ≤ p :=
      fun _ => shift_le_iff_of_lt hOrder hBefore
    have hStart := hMoved s.start
    have hStop := hMoved s.stop
    simp only [Span.Holds, shiftSpan]
    omega
  · have hBehind : r.start + inserted ≤ p := by omega
    have hMoved :
        ∀ x,
          shift r inserted x ≤ p ↔
            x ≤ p - (r.start + inserted) + r.stop :=
      fun _ => shift_le_iff_of_le hOrder hBehind
    have hStart := hMoved s.start
    have hStop := hMoved s.stop
    simp only [Span.Holds, shiftSpan]
    omega

/-
  After a replacement the spans and that of the value cover
  what was covered outside, and all of the value.
-/
theorem covered_replace_iff
    {spans : List Span}
    {p : Nat}
    (hOrder : r.start ≤ r.stop) :
    Covered
        (spans.map (shiftSpan r inserted) ++
          [⟨r.start, r.start + inserted⟩]) p ↔
      p < r.start ∧ Covered spans p ∨
        (r.start ≤ p ∧ p < r.start + inserted) ∨
          r.start + inserted ≤ p ∧
            Covered spans
              (p - (r.start + inserted) + r.stop) := by
  simp only [Covered, List.mem_append, List.mem_map,
    List.mem_singleton, or_and_right, exists_or,
    exists_eq_left, exists_exists_and_eq_and]
  by_cases hInside : r.start ≤ p ∧ p < r.start + inserted
  · have hHolds :
        (⟨r.start, r.start + inserted⟩ : Span).Holds p :=
      hInside
    simp only [hHolds, hInside, or_true, true_or, and_self]
  · have hNot :
        ¬ (⟨r.start, r.start + inserted⟩ : Span).Holds p :=
      hInside
    simp only [hNot, hInside, or_false, false_or,
      holds_shiftSpan_iff hOrder hInside, and_or_left,
      exists_or, and_left_comm, exists_and_left]

/- A span of the text stays one when it is moved. -/
theorem within_shiftSpan
    {s : Span}
    {size size' : Nat}
    (hEdit : r.Within size)
    (hSpan : s.Within size)
    (hSize :
      size' + r.stop = r.start + inserted + size) :
    (shiftSpan r inserted s).Within size' :=
  ⟨shift_mono hEdit.1 hSpan.1,
    shift_le_size hEdit hSpan.2 hSize⟩

end Edit

end Reformat

------------------------------------------------------------
-- Inserted Bytes
------------------------------------------------------------

namespace Reformat

namespace Edit

/- A position whose byte an act has inserted. -/
def InsertedAt
    (bs : List TracedByte)
    (p : Nat) : Prop :=
  ∃ b, bs[p]? = some b ∧ b.origin? = none

/- An inserted byte is one of the list. -/
theorem InsertedAt.lt_length
    {bs : List TracedByte}
    {p : Nat}
    (h : InsertedAt bs p) :
    p < bs.length := by
  rcases h with ⟨b, hb, -⟩
  exact (List.getElem?_eq_some_iff.mp hb).1

/- No byte of a text has been inserted at first. -/
theorem not_insertedAt_traced
    (s : String)
    (p : Nat) :
    ¬ InsertedAt (traced s) p := by
  intro h
  rcases h with ⟨b, hb, hNone⟩
  have hMem := List.mem_of_getElem? hb
  rw [← originals_traced, originals, List.mem_filter]
    at hMem
  rw [hNone] at hMem
  exact Bool.false_ne_true hMem.2

/- All bytes of a value are inserted. -/
theorem insertedAt_insertedBytes_iff
    (value : String)
    (p : Nat) :
    InsertedAt (insertedBytes value) p ↔
      p < Text.size value := by
  constructor
  · intro h
    have hLt := h.lt_length
    rwa [length_insertedBytes] at hLt
  · intro h
    have hLt : p < (Text.bytes value).length := by
      rwa [Text.length_bytes]
    refine ⟨⟨(Text.bytes value)[p], none⟩, ?_, rfl⟩
    simp [insertedBytes]

/-
  The inserted bytes after a replacement are those outside of
  its span and those of the value.
-/
theorem insertedAt_replace_iff
    {r : Span}
    {bs : List TracedByte}
    (hWithin : r.Within bs.length)
    (value : String)
    (p : Nat) :
    InsertedAt ((Act.replace r value).trace bs) p ↔
      p < r.start ∧ InsertedAt bs p ∨
        (r.start ≤ p ∧ p < r.start + Text.size value) ∨
          r.start + Text.size value ≤ p ∧
            InsertedAt bs
              (p - (r.start + Text.size value) +
                r.stop) := by
  have hByte := getElem?_trace_replace hWithin value p
  rcases Nat.lt_or_ge p r.start with hBefore | hRest
  · rw [if_pos hBefore] at hByte
    have hNot : ¬ r.start ≤ p := Nat.not_le_of_lt hBefore
    have hNot' : ¬ r.start + Text.size value ≤ p := by omega
    simp only [InsertedAt, hByte, hBefore, hNot, hNot',
      true_and, false_and, or_false]
  · rw [if_neg (Nat.not_lt_of_le hRest)] at hByte
    rcases Nat.lt_or_ge p (r.start + Text.size value) with
      hInside | hBehind
    · rw [if_pos hInside] at hByte
      have hInserted :
          InsertedAt (insertedBytes value) (p - r.start) :=
        (insertedAt_insertedBytes_iff value _).mpr
          (by omega)
      unfold InsertedAt at hInserted ⊢
      rw [hByte]
      exact
        ⟨fun _ => .inr (.inl ⟨hRest, hInside⟩),
          fun _ => hInserted⟩
    · rw [if_neg (Nat.not_lt_of_le hBehind)] at hByte
      have hNot : ¬ p < r.start := Nat.not_lt_of_le hRest
      have hNot' : ¬ p < r.start + Text.size value :=
        Nat.not_lt_of_le hBehind
      simp only [InsertedAt, hByte, hNot, hNot', hBehind,
        false_and, and_false, true_and, false_or]

end Edit

end Reformat

------------------------------------------------------------
-- Marks
------------------------------------------------------------

namespace Reformat

namespace Edit

/-
  The changed spans of a draft lie within its text and hold
  the bytes that acts have inserted.
-/
structure Marks
    (t : Draft)
    (bs : List TracedByte) : Prop where
  length_eq : bs.length = Text.size t.text
  within :
    ∀ r ∈ t.changed.toList, r.Within (Text.size t.text)
  covered_iff :
    ∀ p, Covered t.changed.toList p ↔ InsertedAt bs p

/- Nothing is marked before the first act. -/
theorem marks_ofDocument (d : Document) :
    Marks (Draft.ofDocument d) (traced d.text) where
  length_eq := by
    simp [traced, Draft.ofDocument]
  within := by
    intro r hr
    cases hr
  covered_iff := by
    intro p
    have hNone := not_insertedAt_traced d.text p
    refine ⟨?_, fun h => absurd h hNone⟩
    intro h
    rcases h with ⟨r, hr, -⟩
    cases hr

/- The changed spans after a replacement. -/
theorem changed_replace
    (t : Draft)
    (r : Span)
    (value : String) :
    ((Act.replace r value).perform t).changed.toList =
      t.changed.toList.map
          (shiftSpan r (Text.size value)) ++
        [⟨r.start, r.start + Text.size value⟩] := by
  simp [Act.perform, TextBuffer.replace, Draft.replace]

/-
  The spans hold the inserted bytes after an act when they did
  before it.
-/
theorem Marks.perform
    {t : Draft}
    {bs : List TracedByte}
    {a : Act}
    (hAllowed : a.Allowed t.text)
    (hMarks : Marks t bs) :
    Marks (a.perform t) (a.trace bs) := by
  cases a with
  | moveCaret offset =>
      exact
        ⟨hMarks.length_eq, hMarks.within,
          hMarks.covered_iff⟩
  | replace r value =>
      rcases hAllowed with ⟨hWithin, hStart, hStop⟩
      have hSize := Text.size_replace hStart hStop value
      have hLength : r.Within bs.length := by
        rw [hMarks.length_eq]
        exact hWithin
      refine ⟨?_, ?_, ?_⟩
      · change _ = Text.size (Text.replace _ _ _ _)
        have hFront := hLength.1
        have hBack := hLength.2
        have hEq := hMarks.length_eq
        simp only [Act.trace, List.length_append,
          List.length_take, List.length_drop,
          length_insertedBytes]
        omega
      · change
          ∀ s ∈ _,
            Span.Within s (Text.size (Text.replace _ _ _ _))
        intro s hs
        rw [changed_replace, List.mem_append, List.mem_map,
          List.mem_singleton] at hs
        rcases hs with ⟨q, hq, rfl⟩ | rfl
        · exact
            within_shiftSpan hWithin (hMarks.within q hq)
              hSize
        · have hBack := hWithin.2
          constructor <;> simp only <;> omega
      · intro p
        rw [changed_replace, covered_replace_iff hWithin.1,
          insertedAt_replace_iff hLength]
        simp only [hMarks.covered_iff]

end Edit

end Reformat

------------------------------------------------------------
-- Counts
------------------------------------------------------------

namespace Reformat

namespace Edit

/- Each act that changes the text adds one span. -/
theorem size_changed_performAll
    (t : Draft)
    (acts : List Act) :
    (performAll t acts).changed.size =
      t.changed.size + acts.countP Act.isReplace := by
  induction acts generalizing t with
  | nil => rfl
  | cons a rest ih =>
      have hRest := ih (a.perform t)
      change (performAll (a.perform t) rest).changed.size = _
      rw [hRest, List.countP_cons]
      cases a with
      | moveCaret offset => rfl
      | replace r value =>
          have hOne :
              ((Act.replace r value).perform
                    t).changed.size =
                t.changed.size + 1 := by
            simp [Act.perform, TextBuffer.replace,
              Draft.replace]
          rw [hOne]
          simp only [Act.isReplace, if_true]
          omega

/- A draft that no span of was changed has the same text. -/
theorem text_performAll_of_unchanged
    {t : Draft}
    {acts : List Act}
    (hNone : acts.countP Act.isReplace = 0) :
    (performAll t acts).text = t.text := by
  induction acts generalizing t with
  | nil => rfl
  | cons a rest ih =>
      rw [List.countP_eq_zero, List.forall_mem_cons] at hNone
      rcases hNone with ⟨hFirst, hRest⟩
      cases a with
      | replace r value => exact absurd rfl hFirst
      | moveCaret offset =>
          exact ih (List.countP_eq_zero.mpr hRest)

end Edit

namespace Document

/- The text of a draft is taken over, changed or not. -/
theorem text_commit_performAll
    (d : Document)
    (acts : List Edit.Act) :
    (d.commit
          (Edit.performAll (Draft.ofDocument d)
            acts)).text =
      (Edit.performAll (Draft.ofDocument d) acts).text := by
  have hCount :=
    Edit.size_changed_performAll (Draft.ofDocument d) acts
  have hStart : (Draft.ofDocument d).changed.size = 0 := rfl
  by_cases hNone : acts.countP Edit.Act.isReplace = 0
  · rw [commit_of_unchanged (by omega),
      Edit.text_performAll_of_unchanged hNone]
    rfl
  · rw [commit_of_changed (by omega)]

end Document

end Reformat

------------------------------------------------------------
-- Bytes Outside
------------------------------------------------------------

namespace Reformat

namespace Edit

/- Choosing by place is choosing by member. -/
theorem map_fst_filter_zipIdx
    {α : Type}
    {xs : List α}
    {first : Nat}
    {p : Nat → Bool}
    {q : α → Bool}
    (hAgree :
      ∀ k x, xs[k]? = some x → p (first + k) = q x) :
    ((xs.zipIdx first).filter fun x => p x.2).map
        Prod.fst =
      xs.filter q := by
  induction xs generalizing first with
  | nil => rfl
  | cons x xs ih =>
      have hFirst : p first = q x := hAgree 0 x rfl
      have hRest :
          ((xs.zipIdx (first + 1)).filter
                fun x => p x.2).map Prod.fst =
            xs.filter q := by
        apply ih
        intro k y hy
        rw [Nat.add_assoc, Nat.add_comm 1 k]
        exact hAgree (k + 1) y hy
      rw [List.zipIdx_cons, List.filter_cons,
        List.filter_cons, hFirst, ← hRest]
      cases q x with
      | true => rfl
      | false => rfl

/- The bytes outside of the spans are those from before. -/
theorem uncovered_eq_map_originals
    {spans : List Span}
    {bs : List TracedByte}
    (hCovered :
      ∀ p, Covered spans p ↔ InsertedAt bs p) :
    uncovered spans (bs.map TracedByte.byte) =
      (originals bs).map TracedByte.byte := by
  have hChosen :
      ((bs.zipIdx).filter fun b =>
            decide (¬ Covered spans b.2)).map Prod.fst =
        originals bs := by
    apply map_fst_filter_zipIdx
      (p := fun p => decide (¬ Covered spans p))
    intro k b hb
    have hInserted :
        InsertedAt bs k ↔ b.origin? = none := by
      constructor
      · intro h
        rcases h with ⟨c, hc, hNone⟩
        rw [hb, Option.some.injEq] at hc
        rwa [hc]
      · intro h
        exact ⟨b, hb, h⟩
    have hOutside : Covered spans k ↔ b.origin? = none :=
      (hCovered k).trans hInserted
    rw [Nat.zero_add]
    cases hOrigin : b.origin? with
    | none => simp [hOutside, hOrigin]
    | some p => simp [hOutside, hOrigin]
  unfold uncovered
  rw [← hChosen, List.zipIdx_map, List.filter_map,
    List.map_map, List.map_map]
  rfl

end Edit

end Reformat

------------------------------------------------------------
-- Changed Spans Of A Patch
------------------------------------------------------------

namespace Reformat

namespace Document

/-
  A transaction that succeeds.  Its changed spans, one for
  each replacement, lie within the new text and cover just the
  bytes that were inserted, so those outside are bytes of the
  old text in their order.
-/
theorem transact_changed
    (ε : Type)
    (d : Document)
    {acts : List Edit.Act}
    (hAllowed :
      Edit.AllowedAll (Draft.ofDocument d) acts) :
    ∃ d' patch,
      d.transact
            (fun t =>
              (Edit.performAll t acts,
                (.ok () : Except ε Unit))) =
          (d', .ok patch) ∧
        (Edit.traceAll (Edit.traced d.text) acts).map
              Edit.TracedByte.byte =
            Text.bytes d'.text ∧
        (∀ p,
          Edit.Covered patch.changed p ↔
            Edit.InsertedAt
              (Edit.traceAll (Edit.traced d.text) acts)
              p) ∧
        (∀ r ∈ patch.changed, r.Within d'.size) ∧
        patch.changed.length =
            acts.countP Edit.Act.isReplace ∧
        (Edit.uncovered patch.changed
              (Text.bytes d'.text)).Sublist
          (Text.bytes d.text) := by
  let t := Edit.performAll (Draft.ofDocument d) acts
  let bs := Edit.traceAll (Edit.traced d.text) acts
  have hMarks : Edit.Marks t bs :=
    Edit.performAll_induction
      (fun _ _ _ => Edit.Marks.perform) hAllowed
      (Edit.marks_ofDocument d)
  have hBytes :
      bs.map Edit.TracedByte.byte = Text.bytes t.text :=
    Edit.map_byte_traceAll hAllowed
  have hText : (d.commit t).text = t.text :=
    text_commit_performAll d acts
  refine ⟨d.commit t, _, rfl, ?_, ?_, ?_, ?_, ?_⟩
  · rw [hText]
    exact hBytes
  · exact hMarks.covered_iff
  · intro r hr
    unfold size
    rw [hText]
    exact hMarks.within r hr
  · have hCount :=
      Edit.size_changed_performAll (Draft.ofDocument d) acts
    rw [Array.length_toList]
    exact hCount.trans (Nat.zero_add _)
  · have hOriginals :=
      (Edit.originals_traceAll_sublist hAllowed).map
        Edit.TracedByte.byte
    rw [Edit.map_byte_traced] at hOriginals
    rw [hText, ← hBytes,
      Edit.uncovered_eq_map_originals hMarks.covered_iff]
    exact hOriginals

/-
  An act that cuts into what another has inserted, and one
  that goes on where both end.
-/
theorem transact_changed_overlapping :
    let d : Document := ⟨"a→b", ⟨1, 4⟩, 2⟩
    let acts : List Edit.Act :=
      [.replace ⟨0, 1⟩ "xy", .moveCaret 9,
        .replace ⟨1, 5⟩ "é", .replace ⟨3, 3⟩ "!"]
    Edit.AllowedAll (Draft.ofDocument d) acts ∧
      ∃ d' patch,
        d.transact
              (fun t =>
                (Edit.performAll t acts,
                  (.ok () : Except EditError Unit))) =
            (d', .ok patch) ∧
          d'.text = "xé!b" ∧
          patch.changed = [⟨0, 4⟩, ⟨1, 4⟩, ⟨3, 4⟩] ∧
          (∀ p,
            Edit.Covered patch.changed p ↔
              Edit.InsertedAt
                (Edit.traceAll (Edit.traced d.text) acts)
                p) ∧
          (Edit.uncovered patch.changed
                (Text.bytes d'.text)).Sublist
            (Text.bytes "a→b") := by
  intro d acts
  have hAllowed :
      Edit.AllowedAll (Draft.ofDocument d) acts := by
    decide +kernel
  rcases transact_changed EditError d hAllowed with
    ⟨d', patch, hTransact, -, hCovered, -, -, hOutside⟩
  have hResult :
      d.transact
          (fun t =>
            (Edit.performAll t acts,
              (.ok () : Except EditError Unit))) =
        (⟨"xé!b", ⟨5, 5⟩, 3⟩,
          .ok ⟨[⟨0, 4⟩, ⟨1, 4⟩, ⟨3, 4⟩], ⟨5, 5⟩, 3⟩) := by
    decide +kernel
  rcases Prod.mk.inj (hTransact.symm.trans hResult) with
    ⟨hDocument, hOk⟩
  have hPatch := Except.ok.inj hOk
  have hText : d'.text = "xé!b" :=
    congrArg Document.text hDocument
  have hChanged :
      patch.changed = [⟨0, 4⟩, ⟨1, 4⟩, ⟨3, 4⟩] :=
    congrArg Patch.changed hPatch
  exact
    ⟨hAllowed, d', patch, hTransact, hText, hChanged,
      hCovered, hOutside⟩

end Document

end Reformat
