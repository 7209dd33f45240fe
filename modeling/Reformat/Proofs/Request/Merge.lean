import Reformat.Request.Scope

/-
  What merged spans look like.

  Spans are put in order, cut off at the end of the text, and
  taken one by one onto those merged before.  At any time the
  merged ones lie within the text, each starts behind the end
  of the one before, and none starts behind a span to come.

  Key definitions include:
    * `Span.Merging`

  Main statements:
    * `Span.Merging.addLast`
    * `Span.within_of_mem_mergeAll`
    * `Span.pairwise_mergeAll`
    * `Span.mergeAll_eq_nil_iff`
-/

------------------------------------------------------------
-- Order
------------------------------------------------------------

namespace Reformat

namespace Span

/- The order of spans holds of their starts. -/
theorem start_le_of_le
    {a b : Span}
    (h : a.le b = true) :
    a.start ≤ b.start := by
  simp only [le, Bool.or_eq_true, Bool.and_eq_true,
    decide_eq_true_eq, beq_iff_eq] at h
  omega

/- The order of spans is transitive. -/
theorem le_trans
    (a b c : Span)
    (hFirst : a.le b = true)
    (hSecond : b.le c = true) :
    a.le c = true := by
  simp only [le, Bool.or_eq_true, Bool.and_eq_true,
    decide_eq_true_eq, beq_iff_eq] at hFirst hSecond ⊢
  omega

/- Any two spans are in order one way or the other. -/
theorem le_total (a b : Span) :
    (a.le b || b.le a) = true := by
  simp only [le, Bool.or_eq_true, Bool.and_eq_true,
    decide_eq_true_eq, beq_iff_eq]
  omega

/- Spans that are cut off start in their order. -/
theorem start_clamp_le
    {a b : Span}
    (size : Nat)
    (hLe : a.start ≤ b.start) :
    (a.clamp size).start ≤ (b.clamp size).start := by
  simp only [clamp]
  omega

/- Spans in order and cut off, as they are merged. -/
def ordered
    (size : Nat)
    (spans : List Span) : List Span :=
  (spans.mergeSort le).map (·.clamp size)

/- They start one after the other. -/
theorem pairwise_ordered
    (size : Nat)
    (spans : List Span) :
    (ordered size spans).Pairwise
      fun a b => a.start ≤ b.start := by
  have hSorted :=
    List.pairwise_mergeSort le_trans le_total spans
  unfold ordered
  rw [List.pairwise_map]
  exact
    hSorted.imp fun h =>
      start_clamp_le size (start_le_of_le h)

/- They are the spans of the list, cut off. -/
theorem mem_ordered_iff
    {size : Nat}
    {spans : List Span}
    {r : Span} :
    r ∈ ordered size spans ↔
      ∃ q ∈ spans, q.clamp size = r := by
  unfold ordered
  rw [List.mem_map]
  simp only [List.mem_mergeSort]

end Span

end Reformat

------------------------------------------------------------
-- Merging
------------------------------------------------------------

namespace Reformat

namespace Span

/-
  Spans merged so far, the last of them first, and those that
  are still to come.
-/
structure Merging
    (size : Nat)
    (merged rest : List Span) : Prop where
  within : ∀ r ∈ merged, r.Within size
  apart :
    merged.Pairwise fun later earlier =>
      earlier.stop < later.start
  start_le :
    ∀ last ∈ merged.head?, ∀ r ∈ rest, last.start ≤ r.start
  rest_within : ∀ r ∈ rest, r.Within size
  rest_ordered :
    rest.Pairwise fun a b => a.start ≤ b.start

/- Nothing is merged at first. -/
theorem merging_ordered
    (size : Nat)
    (spans : List Span) :
    Merging size [] (ordered size spans) where
  within := by
    intro r hr
    cases hr
  apart := List.Pairwise.nil
  start_le := by
    intro last hLast
    cases hLast
  rest_within := by
    intro r hr
    rcases mem_ordered_iff.mp hr with ⟨q, -, rfl⟩
    exact within_clamp q size
  rest_ordered := pairwise_ordered size spans

/- A span is merged with the last one if it reaches it. -/
theorem addLast_cons
    (last : Span)
    (before : List Span)
    (r : Span) :
    addLast (last :: before) r =
      if r.start ≤ last.stop then
        ⟨last.start, max last.stop r.stop⟩ :: before
      else
        r :: last :: before :=
  rfl

/- The next span is merged with the last, or follows it. -/
theorem Merging.addLast
    {size : Nat}
    {merged rest : List Span}
    {r : Span}
    (h : Merging size merged (r :: rest)) :
    Merging size (addLast merged r) rest := by
  rcases h with
    ⟨hWithin, hApart, hStart, hRestWithin, hOrdered⟩
  rw [List.forall_mem_cons] at hRestWithin
  rw [List.pairwise_cons] at hOrdered
  cases merged with
  | nil =>
      refine
        ⟨?_, List.pairwise_singleton _ _, ?_,
          hRestWithin.2, hOrdered.2⟩
      · intro q hq
        rw [List.mem_singleton.mp hq]
        exact hRestWithin.1
      · intro last hLast q hq
        cases hLast
        exact hOrdered.1 q hq
  | cons last before =>
      rw [List.forall_mem_cons] at hWithin
      rw [List.pairwise_cons] at hApart
      have hNext : last.start ≤ r.start :=
        hStart last rfl r List.mem_cons_self
      have hLast := hWithin.1
      have hHere := hRestWithin.1
      rw [addLast_cons]
      split
      · next hTouches =>
        refine ⟨?_, ?_, ?_, hRestWithin.2, hOrdered.2⟩
        · rw [List.forall_mem_cons]
          refine ⟨?_, hWithin.2⟩
          simp only [Within] at hLast hHere ⊢
          omega
        · exact List.pairwise_cons.mpr hApart
        · intro top hTop q hq
          cases hTop
          exact Nat.le_trans hNext (hOrdered.1 q hq)
      · next hFree =>
        refine ⟨?_, ?_, ?_, hRestWithin.2, hOrdered.2⟩
        · rw [List.forall_mem_cons, List.forall_mem_cons]
          exact ⟨hHere, hWithin⟩
        · rw [List.pairwise_cons, List.forall_mem_cons]
          refine
            ⟨⟨Nat.lt_of_not_le hFree, ?_⟩,
              List.pairwise_cons.mpr hApart⟩
          intro q hq
          exact
            Nat.lt_of_lt_of_le (hApart.1 q hq) hNext
        · intro top hTop q hq
          cases hTop
          exact hOrdered.1 q hq

/- All spans to come are merged in the end. -/
theorem Merging.foldl_addLast
    {size : Nat}
    {merged rest : List Span}
    (h : Merging size merged rest) :
    Merging size (rest.foldl Span.addLast merged) [] := by
  induction rest generalizing merged with
  | nil => exact h
  | cons r rest ih => exact ih h.addLast

/- A span that is taken on leaves some merged. -/
theorem addLast_ne_nil
    (merged : List Span)
    (r : Span) :
    addLast merged r ≠ [] := by
  unfold addLast
  split
  · exact List.cons_ne_nil _ _
  · split
    · exact List.cons_ne_nil _ _
    · exact List.cons_ne_nil _ _

/- Nothing is merged only out of nothing. -/
theorem foldl_addLast_eq_nil_iff
    (merged rest : List Span) :
    rest.foldl addLast merged = [] ↔
      merged = [] ∧ rest = [] := by
  induction rest generalizing merged with
  | nil => simp
  | cons r rest ih =>
      rw [List.foldl_cons, ih]
      simp [addLast_ne_nil]

end Span

end Reformat

------------------------------------------------------------
-- Merged Spans
------------------------------------------------------------

namespace Reformat

namespace Span

variable (size : Nat)
variable (spans : List Span)

/- Merged spans lie within the text. -/
theorem within_of_mem_mergeAll :
    ∀ r ∈ mergeAll size spans, r.Within size := by
  intro r hr
  exact
    (merging_ordered size spans).foldl_addLast.within r
      (List.mem_reverse.mp hr)

/- Each starts behind the end of the one before. -/
theorem pairwise_mergeAll :
    (mergeAll size spans).Pairwise fun a b =>
      a.stop < b.start :=
  List.pairwise_reverse.mpr
    (merging_ordered size spans).foldl_addLast.apart

/- There are none just when there was none. -/
theorem mergeAll_eq_nil_iff :
    mergeAll size spans = [] ↔ spans = [] := by
  have hOrdered : ordered size spans = [] ↔ spans = [] := by
    unfold ordered
    rw [← List.length_eq_zero_iff, List.length_map,
      List.length_mergeSort, List.length_eq_zero_iff]
  change
    ((ordered size spans).foldl addLast []).reverse = [] ↔ _
  rw [List.reverse_eq_nil_iff, foldl_addLast_eq_nil_iff,
    hOrdered]
  exact and_iff_right rfl

end Span

end Reformat
