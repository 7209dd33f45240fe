import Reformat.Proofs.Edit.Changed
import Reformat.Proofs.Edit.Run
import Reformat.Proofs.Edit.Splice

/-
  The text that no replacement of a list names.

  A list that is accepted may overlap.  The original text
  behind all that it names is never touched.  The text in front
  of replacements that overlap may be: those that shrink it
  pull the next one to the left, and bytes are lost that no
  replacement names.  None are lost as long as no replacement
  that takes bytes away lands in that text.

  Key definitions include:
    * `Replacement.span`
    * `Edit.Overlap`
    * `Edit.SparesFront`
    * `Edit.Tailed`
    * `Edit.Fronted`

  Main statements:
    * `Edit.Tailed.replace`
    * `Edit.Fronted.replace`
    * `Edit.sparesFront_of_ascends`
    * `Edit.applyReplacements_spared`
    * `Edit.applyReplacements_not_spared`
-/

------------------------------------------------------------
-- Bytes That Are Not Named
------------------------------------------------------------

namespace Reformat

namespace Replacement

/- The bytes that a replacement names. -/
def span (r : Replacement) : Span :=
  ⟨r.offset, r.stop⟩

end Replacement

namespace Edit

variable {spans : List Span}
variable {xs ys : List UInt8}

/- The bytes not covered by some spans, part by part. -/
theorem uncovered_append
    (spans : List Span)
    (xs ys : List UInt8) :
    uncovered spans (xs ++ ys) =
      uncovered spans xs ++
        ((ys.zipIdx xs.length).filter fun b =>
          decide (¬ Covered spans b.2)).map Prod.fst := by
  unfold uncovered
  rw [List.zipIdx_append, List.filter_append,
    List.map_append, Nat.zero_add]

/- More bytes add no more than themselves. -/
theorem uncovered_append_sublist :
    (uncovered spans (xs ++ ys)).Sublist
      (uncovered spans xs ++ ys) := by
  rw [uncovered_append]
  apply List.Sublist.append_left
  have hAll :=
    List.Sublist.map Prod.fst
      (List.filter_sublist
        (l := ys.zipIdx xs.length)
        (p := fun b => decide (¬ Covered spans b.2)))
  rw [List.zipIdx_map_fst] at hAll
  exact hAll

/- Covered bytes add nothing. -/
theorem uncovered_append_of_covered
    (hCovered :
      ∀ p, xs.length ≤ p → p < xs.length + ys.length →
        Covered spans p) :
    uncovered spans (xs ++ ys) = uncovered spans xs := by
  have hNone :
      (ys.zipIdx xs.length).filter
          (fun b => decide (¬ Covered spans b.2)) =
        [] := by
    apply List.filter_eq_nil_iff.mpr
    intro b hb
    have hRange := List.mem_zipIdx hb
    have hHere := hCovered b.2 hRange.1 hRange.2.1
    simpa using hHere
  rw [uncovered_append, hNone, List.map_nil,
    List.append_nil]

end Edit

end Reformat

------------------------------------------------------------
-- Overlapping Replacements
------------------------------------------------------------

namespace Reformat

namespace Edit

/-
  What is known between two replacements of a list: where the
  text in front of those that overlap now ends in the buffer,
  the end of all that was named so far, and the drift.
-/
structure Overlap where
  front : Int := 0
  reached : Nat := 0
  drift : Int := 0

namespace Overlap

/-
  A replacement takes nothing from the text in front: it comes
  behind all that was named, or it lands behind that text, or
  it takes nothing at all.
-/
def Spares
    (o : Overlap)
    (r : Replacement) : Prop :=
  o.reached ≤ r.offset ∨ o.front ≤ r.offset + o.drift ∨
    r.length = 0

/- Sparing the text in front is decidable. -/
instance
    (o : Overlap)
    (r : Replacement) :
    Decidable (o.Spares r) := by
  unfold Spares
  infer_instance

/- What is known after one more replacement. -/
def next
    (o : Overlap)
    (r : Replacement) : Overlap where
  front :=
    if o.reached ≤ r.offset then r.offset + o.drift
    else if o.front ≤ r.offset + o.drift then o.front
    else o.front + Text.size r.value
  reached := max o.reached r.stop
  drift := o.drift + r.gain

end Overlap

/- Each of some replacements spares the text in front. -/
def SparesFrom : Overlap → List Replacement → Prop
  | _, [] => True
  | o, r :: rest => o.Spares r ∧ SparesFrom (o.next r) rest

/- Sparing the text in front is decidable. -/
instance decidableSparesFrom :
    (o : Overlap) →
      (rs : List Replacement) → Decidable (SparesFrom o rs)
  | _, [] => inferInstanceAs (Decidable True)
  | o, r :: rest =>
      haveI := decidableSparesFrom (o.next r) rest
      inferInstanceAs (Decidable (_ ∧ _))

/-
  No replacement that takes bytes away lands in the text in
  front of the replacements that it overlaps.
-/
def SparesFront (rs : List Replacement) : Prop :=
  SparesFrom {} rs

/- It is decidable whether any does. -/
instance (rs : List Replacement) :
    Decidable (SparesFront rs) := by
  unfold SparesFront
  infer_instance

/- Replacements that do not overlap come behind each other. -/
theorem sparesFrom_of_ascends
    {o : Overlap}
    {rs : List Replacement}
    (hFirst : ∀ r ∈ rs.head?, o.reached ≤ r.offset)
    (hAscends : Ascends rs) :
    SparesFrom o rs := by
  induction rs generalizing o with
  | nil => trivial
  | cons r rest ih =>
      rcases List.isChain_cons.mp hAscends with
        ⟨hNext, hRest⟩
      have hBehind : o.reached ≤ r.offset := hFirst r (by simp)
      have hReached : (o.next r).reached = r.stop :=
        Nat.max_eq_right
          (Nat.le_trans hBehind (Nat.le_add_right _ _))
      refine ⟨.inl hBehind, ih ?_ hRest⟩
      rw [hReached]
      exact hNext

/- So they spare the text in front. -/
theorem sparesFront_of_ascends
    {rs : List Replacement}
    (hAscends : Ascends rs) :
    SparesFront rs :=
  sparesFrom_of_ascends (fun _ _ => Nat.zero_le _) hAscends

end Edit

end Reformat

------------------------------------------------------------
-- The Text Behind
------------------------------------------------------------

namespace Reformat

namespace Edit

/-
  The bytes of a buffer in the middle of a run.  They are those
  of a head, whatever the run has made of it, and the original
  ones behind all that was named so far.
-/
structure Tailed
    (original : List UInt8)
    (o : Overlap)
    (head bs : List UInt8) : Prop where
  bytes_eq : bs = head ++ original.drop o.reached
  length_eq : (head.length : Int) = o.reached + o.drift

variable {original head bs value : List UInt8}
variable {o : Overlap}
variable {r : Replacement}
variable {start : Nat}

/- At first all of the text is behind. -/
theorem tailed_nil (original : List UInt8) :
    Tailed original {} [] original :=
  ⟨rfl, rfl⟩

/- A replacement leaves what is behind it, wherever it lands. -/
theorem Tailed.replace
    (h : Tailed original o head bs)
    (hStart : (start : Int) = r.offset + o.drift)
    (hStop : start + r.length ≤ bs.length)
    (hValue : value.length = Text.size r.value) :
    Tailed original (o.next r)
      (bs.take start ++ value ++
        head.drop (start + r.length))
      (bs.take start ++ value ++
        bs.drop (start + r.length)) := by
  have hLength := h.length_eq
  have hStopEq : r.stop = r.offset + r.length := rfl
  have hTake : (bs.take start).length = start := by
    rw [List.length_take]
    omega
  constructor
  · have hBehind :
        o.reached + (start + r.length - head.length) =
          (o.next r).reached := by
      unfold Overlap.next
      simp only
      omega
    have hBack :
        bs.drop (start + r.length) =
          head.drop (start + r.length) ++
            original.drop (o.next r).reached := by
      rw [h.bytes_eq, List.drop_append, List.drop_drop,
        hBehind]
    rw [hBack, List.append_assoc, List.append_assoc,
      List.append_assoc]
  · simp only [List.length_append, List.length_drop, hTake,
      hValue, Overlap.next, Replacement.gain]
    omega

end Edit

end Reformat

------------------------------------------------------------
-- The Text In Front
------------------------------------------------------------

namespace Reformat

namespace Edit

/-
  A head begins with the text in front of the replacements that
  overlap now, and that text has all bytes that are not named,
  as far as the run has come.
-/
structure Fronted
    (spans : List Span)
    (original : List UInt8)
    (o : Overlap)
    (head front : List UInt8) : Prop where
  begins : front <+: head
  length_eq : (front.length : Int) = o.front
  uncovered_sublist :
    (uncovered spans (original.take o.reached)).Sublist front

variable {spans : List Span}
variable {original head front bs value : List UInt8}
variable {o : Overlap}
variable {r : Replacement}
variable {start : Nat}

/- At first there is no text in front. -/
theorem fronted_nil
    (spans : List Span)
    (original : List UInt8) :
    Fronted spans original {} [] [] where
  begins := List.prefix_rfl
  length_eq := rfl
  uncovered_sublist := by simp [uncovered]

/- What a replacement names adds nothing. -/
theorem uncovered_take_reached
    (hSpan : r.span ∈ spans)
    {reached : Nat}
    (hOffset : r.offset ≤ reached) :
    uncovered spans
        (original.take (max reached r.stop)) =
      uncovered spans (original.take reached) := by
  have hMore :
      max reached r.stop = reached + (r.stop - reached) := by
    omega
  rw [hMore, List.take_add]
  apply uncovered_append_of_covered
  intro p hBefore hBehind
  simp only [List.length_take, List.length_drop]
    at hBefore hBehind
  refine ⟨r.span, hSpan, ?_, ?_⟩
  · change r.offset ≤ p
    omega
  · change p < r.stop
    omega

/-
  Behind all that was named so far, the text up to where a
  replacement lands is in front of it.
-/
theorem Fronted.replace_behind
    (h : Fronted spans original o head front)
    (hTailed : Tailed original o head bs)
    (hSpan : r.span ∈ spans)
    (hStart : (start : Int) = r.offset + o.drift)
    (hStop : start + r.length ≤ bs.length)
    (hBehind : o.reached ≤ r.offset) :
    Fronted spans original (o.next r)
      (bs.take start ++ value ++
        head.drop (start + r.length))
      (bs.take start) := by
  have hHead := hTailed.length_eq
  refine ⟨?_, ?_, ?_⟩
  · rw [List.append_assoc]
    exact List.prefix_append _ _
  · rw [List.length_take, Nat.min_eq_left (by omega)]
    simp only [Overlap.next, if_pos hBehind, hStart]
  · have hReached :
        (o.next r).reached = max r.offset r.stop := by
      have hStopEq : r.stop = r.offset + r.length := rfl
      simp only [Overlap.next]
      omega
    have hOffset :
        r.offset = o.reached + (r.offset - o.reached) := by
      omega
    have hTake :
        bs.take start =
          head ++
            (original.drop o.reached).take
              (r.offset - o.reached) := by
      have hGap :
          start - head.length = r.offset - o.reached := by
        omega
      rw [hTailed.bytes_eq, List.take_append, hGap,
        List.take_of_length_le (by omega)]
    rw [hReached, uncovered_take_reached hSpan le_rfl, hTake,
      hOffset, List.take_add, Nat.add_sub_cancel_left]
    exact
      uncovered_append_sublist.trans
        ((h.uncovered_sublist.trans
          h.begins.sublist).append_right _)

/- One that lands behind the text in front leaves it. -/
theorem Fronted.replace_landing
    (h : Fronted spans original o head front)
    (hTailed : Tailed original o head bs)
    (hSpan : r.span ∈ spans)
    (hStart : (start : Int) = r.offset + o.drift)
    (hNamed : ¬ o.reached ≤ r.offset)
    (hLands : o.front ≤ r.offset + o.drift) :
    Fronted spans original (o.next r)
      (bs.take start ++ value ++
        head.drop (start + r.length))
      front := by
  have hFront : front <+: bs := by
    rw [hTailed.bytes_eq]
    exact h.begins.trans (List.prefix_append _ _)
  have hLength := h.length_eq
  refine ⟨?_, ?_, ?_⟩
  · rw [List.append_assoc]
    exact
      (List.prefix_take_iff.mpr
          ⟨hFront, by omega⟩).trans
        (List.prefix_append _ _)
  · simp only [Overlap.next, if_neg hNamed, if_pos hLands,
      hLength]
  · have hReached :
        (o.next r).reached = max o.reached r.stop :=
      rfl
    rw [hReached, uncovered_take_reached hSpan (by omega)]
    exact h.uncovered_sublist

/- One that takes nothing puts its value into that text. -/
theorem Fronted.replace_inserting
    (h : Fronted spans original o head front)
    (hTailed : Tailed original o head bs)
    (hSpan : r.span ∈ spans)
    (hStart : (start : Int) = r.offset + o.drift)
    (hValue : value.length = Text.size r.value)
    (hNamed : ¬ o.reached ≤ r.offset)
    (hLands : ¬ o.front ≤ r.offset + o.drift)
    (hNone : r.length = 0) :
    Fronted spans original (o.next r)
      (bs.take start ++ value ++
        head.drop (start + r.length))
      (front.take start ++ value ++ front.drop start) := by
  have hLength := h.length_eq
  have hInside : start ≤ front.length := by omega
  rcases h.begins with ⟨middle, hHead⟩
  have hTake : bs.take start = front.take start := by
    rw [hTailed.bytes_eq, ← hHead, List.append_assoc,
      List.take_append_of_le_length hInside]
  have hDrop :
      head.drop (start + r.length) =
        front.drop start ++ middle := by
    rw [hNone, Nat.add_zero, ← hHead,
      List.drop_append_of_le_length hInside]
  refine ⟨?_, ?_, ?_⟩
  · rw [hTake, hDrop, ← List.append_assoc]
    exact List.prefix_append _ _
  · simp only [List.length_append, List.length_take,
      List.length_drop, hValue, Overlap.next, if_neg hNamed,
      if_neg hLands]
    omega
  · have hReached :
        (o.next r).reached = max o.reached r.stop :=
      rfl
    have hInserted :
        front.Sublist
          (front.take start ++ value ++
            front.drop start) := by
      have hParts :=
        (List.sublist_append_left (front.take start)
          value).append_right (front.drop start)
      rwa [List.take_append_drop] at hParts
    rw [hReached, uncovered_take_reached hSpan (by omega)]
    exact h.uncovered_sublist.trans hInserted

/-
  A replacement that spares the text in front leaves a text in
  front that has all bytes that are not named.
-/
theorem Fronted.replace
    (h : Fronted spans original o head front)
    (hTailed : Tailed original o head bs)
    (hSpan : r.span ∈ spans)
    (hStart : (start : Int) = r.offset + o.drift)
    (hStop : start + r.length ≤ bs.length)
    (hValue : value.length = Text.size r.value)
    (hSpares : o.Spares r) :
    ∃ front',
      Fronted spans original (o.next r)
        (bs.take start ++ value ++
          head.drop (start + r.length))
        front' := by
  by_cases hBehind : o.reached ≤ r.offset
  · exact
      ⟨_, h.replace_behind hTailed hSpan hStart hStop hBehind⟩
  · by_cases hLands : o.front ≤ r.offset + o.drift
    · exact
        ⟨_,
          h.replace_landing hTailed hSpan hStart hBehind
            hLands⟩
    · have hNone : r.length = 0 :=
        (hSpares.resolve_left hBehind).resolve_left hLands
      exact
        ⟨_,
          h.replace_inserting hTailed hSpan hStart hValue
            hBehind hLands hNone⟩

end Edit

end Reformat

------------------------------------------------------------
-- Whole Runs
------------------------------------------------------------

namespace Reformat

namespace Edit

open LawfulTextBuffer (text text_replace)

/- What is known after some replacements. -/
def Overlap.after
    (o : Overlap)
    (rs : List Replacement) : Overlap :=
  rs.foldl Overlap.next o

/- Nothing is named but what some replacement names. -/
theorem Overlap.reached_after_le
    {o : Overlap}
    {rs : List Replacement}
    {n : Nat}
    (hStart : o.reached ≤ n)
    (hStops : ∀ r ∈ rs, r.stop ≤ n) :
    (o.after rs).reached ≤ n := by
  induction rs generalizing o with
  | nil => exact hStart
  | cons r rest ih =>
      rcases List.forall_mem_cons.mp hStops with
        ⟨hStop, hRest⟩
      exact ih (Nat.max_le.mpr ⟨hStart, hStop⟩) hRest

section Lawful

variable {β : Type}
variable [TextBuffer β] [LawfulTextBuffer β]

/- The bytes of a buffer after a replacement is made. -/
theorem IsPlaced.bytes_replace
    {p : Progress}
    {b : β}
    {r : Replacement}
    {placed : Placed}
    (h : IsPlaced p (text b) r placed) :
    Text.bytes
        (text (TextBuffer.replace b placed.span r.value)) =
      (Text.bytes (text b)).take placed.span.start ++
          Text.bytes r.value ++
        (Text.bytes (text b)).drop
          (placed.span.start + r.length) := by
  rw [text_replace,
    Text.bytes_replace h.start_boundary h.stop_boundary,
    h.stop_eq]

/-
  Steps over any list leave the original text behind all that
  it names.  If they spare the text in front, that text has all
  bytes that are not named.
-/
theorem Steps.exists_tailed
    {p p' : Progress}
    {b b' : β}
    {rs : List Replacement}
    {original head : List UInt8}
    {o : Overlap}
    (hSteps : Steps p b rs p' b')
    (hDrift : p.drift = o.drift)
    (hTailed :
      Tailed original o head (Text.bytes (text b))) :
    ∃ head',
      Tailed original (o.after rs) head'
          (Text.bytes (text b')) ∧
        ∀ spans front,
          Fronted spans original o head front →
            (∀ r ∈ rs, r.span ∈ spans) →
              SparesFrom o rs →
                ∃ front',
                  Fronted spans original (o.after rs) head'
                    front' := by
  induction hSteps generalizing o head with
  | nil =>
      exact
        ⟨head, hTailed, fun _ front h _ _ => ⟨front, h⟩⟩
  | @cons p p' b b' r rest placed hPlace hRest ih =>
      have hPlaced := isPlaced_of_place hPlace
      have hStart := hPlaced.start_eq
      have hNext :
          placed.next.drift = (o.next r).drift := by
        rw [hPlaced.next_eq, hDrift]
        rfl
      have hStop :
          placed.span.start + r.length ≤
            (Text.bytes (text b)).length := by
        rw [Text.length_bytes, ← hPlaced.stop_eq]
        exact hPlaced.stop_le
      have hValue := Text.length_bytes r.value
      rw [hDrift] at hStart
      have hStep := hTailed.replace hStart hStop hValue
      rw [← hPlaced.bytes_replace] at hStep
      rcases ih hNext hStep with ⟨head', hAll, hSpared⟩
      refine ⟨head', hAll, ?_⟩
      intro spans front hFronted hSpans hSpares
      rcases List.forall_mem_cons.mp hSpans with
        ⟨hSpan, hOthers⟩
      rcases hFronted.replace hTailed hSpan hStart hStop
          hValue hSpares.1 with
        ⟨front', hFront⟩
      exact hSpared spans front' hFront hOthers hSpares.2

/-
  A list that is accepted, overlapping or not.  The original
  text behind all that it names is the end of the result.  As
  long as no replacement that takes bytes away lands in the
  text in front of those that it overlaps, all bytes that none
  of them names are kept in their order; this is so for every
  list that does not overlap.
-/
theorem applyReplacements_spared
    {b : β}
    {rs : List Replacement}
    {drift : Int}
    (hRun : (applyReplacements b rs).2 = .ok drift) :
    let original := Text.bytes (text b)
    let result := Text.bytes (text (applyReplacements b rs).1)
    (∀ n,
        (∀ r ∈ rs, r.stop ≤ n) →
          original.drop n <:+ result) ∧
      (SparesFront rs →
        (uncovered (rs.map Replacement.span)
          original).Sublist result) ∧
      (Ascends rs → SparesFront rs) := by
  intro original result
  have hOk :
      applyReplacements b rs =
        ((applyReplacements b rs).1, .ok drift) :=
    Prod.ext rfl hRun
  rcases steps_of_applyFrom_ok hOk with ⟨p, hSteps, -⟩
  rcases hSteps.exists_tailed rfl (tailed_nil original) with
    ⟨head, hTailed, hSpared⟩
  let o := Overlap.after {} rs
  have hResult : result = head ++ original.drop o.reached :=
    hTailed.bytes_eq
  refine ⟨?_, ?_, sparesFront_of_ascends⟩
  · intro n hStops
    have hReached : o.reached ≤ n :=
      Overlap.reached_after_le (Nat.zero_le _) hStops
    rw [hResult]
    exact
      (List.drop_suffix_drop_left original hReached).trans
        (List.suffix_append _ _)
  · intro hSpares
    rcases hSpared _ [] (fronted_nil _ original)
        (fun r hr => List.mem_map_of_mem hr) hSpares with
      ⟨front, hFronted⟩
    have hKept :=
      hFronted.uncovered_sublist.trans
        hFronted.begins.sublist
    rw [hResult]
    conv =>
      lhs
      rw [← List.take_append_drop o.reached original]
    exact
      uncovered_append_sublist.trans (hKept.append_right _)

end Lawful

/-
  Three replacements that overlap, the last of them within what
  the others have put there.
-/
theorem applyReplacements_spared_overlapping :
    let b : Recording := { text := "a→bcdef" }
    let rs : List Replacement :=
      [⟨1, 3, "--->"⟩, ⟨3, 3, "x"⟩, ⟨5, 1, "é"⟩]
    let run := applyReplacements b rs
    run.2 = .ok 0 ∧
      SparesFront rs ∧ ¬ Ascends rs ∧
        run.1.text = "a---édef" ∧
          uncovered (rs.map Replacement.span)
              (Text.bytes b.text) =
            Text.bytes "adef" ∧
          (Text.bytes "adef").Sublist
            (Text.bytes run.1.text) := by
  intro b rs run
  have hRun : run.2 = .ok 0 := by decide +kernel
  have hSpares : SparesFront rs := by decide
  have hOutside :
      uncovered (rs.map Replacement.span)
          (Text.bytes b.text) =
        Text.bytes "adef" := by
    decide +kernel
  have hKept :=
    (applyReplacements_spared hRun).2.1 hSpares
  have hSublist :
      (uncovered (rs.map Replacement.span)
          (Text.bytes b.text)).Sublist
        (Text.bytes run.1.text) :=
    hKept
  rw [hOutside] at hSublist
  exact
    ⟨hRun, hSpares, by decide, by decide +kernel, hOutside,
      hSublist⟩

/-
  A deletion that pulls the next replacement into the text in
  front: two bytes are lost that no replacement names.
-/
theorem applyReplacements_not_spared :
    let b : Recording := { text := "0123456789" }
    let rs : List Replacement := [⟨3, 4, ""⟩, ⟨5, 2, "X"⟩]
    let run := applyReplacements b rs
    run.2 = .ok (-5) ∧
      run.1.text = "0X789" ∧
        uncovered (rs.map Replacement.span)
            (Text.bytes b.text) =
          Text.bytes "012789" ∧
        ¬ (uncovered (rs.map Replacement.span)
              (Text.bytes b.text)).Sublist
            (Text.bytes run.1.text) := by
  intro b rs run
  refine ⟨?_, ?_, ?_, ?_⟩
  · decide +kernel
  · decide +kernel
  · decide +kernel
  · decide +kernel

end Edit

end Reformat
