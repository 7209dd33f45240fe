import Mathlib.Data.List.Basic
import Reformat.Proofs.Edit.Changed
import Reformat.Proofs.Request.Merge

/-
  What merged spans cover.

  Merging joins spans that overlap or touch.  It covers no new
  byte and loses none, and it makes no new ends.  Spans with
  gaps between them are known from the bytes that they cover
  and the offsets that they reach, so what is merged depends
  on nothing else, and merging again changes nothing.

  Key definitions include:
    * `Span.Inside`
    * `Span.Reaches`
    * `Span.Joins`
    * `Span.Separate`

  Main statements:
    * `Span.Joins.addLast`
    * `Span.joins_mergeAll`
    * `Span.Separate.eq_of_same`
    * `Selector.select_changed_spans`
-/

------------------------------------------------------------
-- Joined Spans
------------------------------------------------------------

namespace Reformat

namespace Span

/- A span that does not go beyond another. -/
def Inside (q r : Span) : Prop :=
  r.start ≤ q.start ∧ q.stop ≤ r.stop

/- The offsets from a span's start up to its end. -/
def Reaches
    (r : Span)
    (p : Nat) : Prop :=
  r.start ≤ p ∧ p ≤ r.stop

/-
  Spans made out of others: each of these lies inside one that
  is made, whose bytes and ends are theirs.
-/
structure Joins (given made : List Span) : Prop where
  inside : ∀ q ∈ given, ∃ r ∈ made, q.Inside r
  start_mem : ∀ r ∈ made, ∃ q ∈ given, q.start = r.start
  stop_mem : ∀ r ∈ made, ∃ q ∈ given, q.stop = r.stop
  covered :
    ∀ r ∈ made, ∀ p, r.Holds p → Edit.Covered given p

/- Nothing is made out of nothing. -/
theorem joins_nil : Joins [] [] where
  inside := by
    intro q hq
    cases hq
  start_mem := by
    intro r hr
    cases hr
  stop_mem := by
    intro r hr
    cases hr
  covered := by
    intro r hr
    cases hr

/- A span lies inside itself. -/
theorem Inside.refl (r : Span) : r.Inside r :=
  ⟨Nat.le_refl _, Nat.le_refl _⟩

/- What lies inside a span lies inside a wider one. -/
theorem Inside.trans
    {a b c : Span}
    (hFirst : a.Inside b)
    (hSecond : b.Inside c) :
    a.Inside c :=
  ⟨Nat.le_trans hSecond.1 hFirst.1,
    Nat.le_trans hFirst.2 hSecond.2⟩

/- A span that stands alone is made out of itself. -/
theorem Joins.cons
    {given made : List Span}
    (h : Joins given made)
    (r : Span) :
    Joins (r :: given) (r :: made) where
  inside := by
    rw [List.forall_mem_cons]
    refine ⟨List.exists_mem_cons_of made (.refl r), ?_⟩
    intro q hq
    exact List.exists_mem_cons_of_exists (h.inside q hq)
  start_mem := by
    rw [List.forall_mem_cons]
    refine ⟨List.exists_mem_cons_of given rfl, ?_⟩
    intro s hs
    exact List.exists_mem_cons_of_exists (h.start_mem s hs)
  stop_mem := by
    rw [List.forall_mem_cons]
    refine ⟨List.exists_mem_cons_of given rfl, ?_⟩
    intro s hs
    exact List.exists_mem_cons_of_exists (h.stop_mem s hs)
  covered := by
    rw [List.forall_mem_cons]
    refine
      ⟨fun p hHolds => List.exists_mem_cons_of given hHolds,
        ?_⟩
    intro s hs p hHolds
    exact
      List.exists_mem_cons_of_exists (h.covered s hs p hHolds)

/- A span that starts in the last one or at its end widens it. -/
theorem Joins.widen
    {given before : List Span}
    {last r : Span}
    (h : Joins given (last :: before))
    (hStart : last.start ≤ r.start)
    (hTouches : r.start ≤ last.stop) :
    Joins (r :: given)
      (⟨last.start, max last.stop r.stop⟩ :: before) where
  inside := by
    rw [List.forall_mem_cons]
    refine
      ⟨List.exists_mem_cons_of before
          ⟨hStart, Nat.le_max_right _ _⟩,
        ?_⟩
    intro q hq
    rw [List.exists_mem_cons_iff]
    rcases (List.exists_mem_cons_iff _ _ _).mp
        (h.inside q hq) with
      hLast | hBefore
    · left
      exact
        hLast.trans ⟨Nat.le_refl _, Nat.le_max_left _ _⟩
    · exact Or.inr hBefore
  start_mem := by
    have hMem := h.start_mem
    rw [List.forall_mem_cons] at hMem ⊢
    refine ⟨List.exists_mem_cons_of_exists hMem.1, ?_⟩
    intro s hs
    exact List.exists_mem_cons_of_exists (hMem.2 s hs)
  stop_mem := by
    have hMem := h.stop_mem
    rw [List.forall_mem_cons] at hMem ⊢
    refine ⟨?_, ?_⟩
    · -- The wider end is that of the last span or of the new.
      rcases Nat.le_total last.stop r.stop with hLe | hLe
      · rw [Nat.max_eq_right hLe]
        exact List.exists_mem_cons_of given rfl
      · rw [Nat.max_eq_left hLe]
        exact List.exists_mem_cons_of_exists hMem.1
    · intro s hs
      exact List.exists_mem_cons_of_exists (hMem.2 s hs)
  covered := by
    have hCovered := h.covered
    rw [List.forall_mem_cons] at hCovered ⊢
    refine ⟨?_, ?_⟩
    · intro p hHolds
      simp only [Holds] at hHolds
      by_cases hLast : p < last.stop
      · exact
          List.exists_mem_cons_of_exists
            (hCovered.1 p ⟨hHolds.1, hLast⟩)
      · -- Behind the last span there is only the new one.
        have hHere : r.Holds p := by
          simp only [Holds]
          omega
        exact List.exists_mem_cons_of given hHere
    · intro s hs p hHolds
      exact
        List.exists_mem_cons_of_exists
          (hCovered.2 s hs p hHolds)

/- The next span is joined with the last, or stands alone. -/
theorem Joins.addLast
    {size : Nat}
    {given made rest : List Span}
    {r : Span}
    (h : Joins given made)
    (hMerging : Merging size made (r :: rest)) :
    Joins (r :: given) (addLast made r) := by
  cases made with
  | nil => exact h.cons r
  | cons last before =>
      have hStart : last.start ≤ r.start :=
        hMerging.start_le last rfl r List.mem_cons_self
      rw [addLast_cons]
      split
      · next hTouches => exact h.widen hStart hTouches
      · exact h.cons r

/- All spans to come are joined in the end. -/
theorem Joins.foldl_addLast
    {size : Nat}
    {given made rest : List Span}
    (h : Joins given made)
    (hMerging : Merging size made rest) :
    Joins (rest.reverse ++ given)
      (rest.foldl Span.addLast made) := by
  induction rest generalizing given made with
  | nil => exact h
  | cons r rest ih =>
      rw [List.reverse_cons, List.append_assoc,
        List.singleton_append]
      exact ih (h.addLast hMerging) hMerging.addLast

/- Spans with the same members are joined alike. -/
theorem Joins.congr
    {given given' made made' : List Span}
    (h : Joins given made)
    (hGiven : ∀ q, q ∈ given' ↔ q ∈ given)
    (hMade : ∀ r, r ∈ made' ↔ r ∈ made) :
    Joins given' made' where
  inside := by
    simp only [hGiven, hMade]
    exact h.inside
  start_mem := by
    simp only [hGiven, hMade]
    exact h.start_mem
  stop_mem := by
    simp only [hGiven, hMade]
    exact h.stop_mem
  covered := by
    simp only [Edit.Covered, hGiven, hMade]
    exact h.covered

/- Merged spans are made out of those that are cut off. -/
theorem joins_mergeAll
    (size : Nat)
    (spans : List Span) :
    Joins (spans.map (·.clamp size))
      (mergeAll size spans) := by
  have hJoins :=
    joins_nil.foldl_addLast (merging_ordered size spans)
  rw [List.append_nil] at hJoins
  refine hJoins.congr ?_ ?_
  · intro q
    rw [List.mem_reverse, mem_ordered_iff, List.mem_map]
  · intro r
    exact List.mem_reverse

end Span

end Reformat

------------------------------------------------------------
-- Bytes And Ends
------------------------------------------------------------

namespace Reformat

namespace Span

variable {given made : List Span}

/- Joined spans cover what they are made out of. -/
theorem Joins.covered_iff
    (h : Joins given made)
    (p : Nat) :
    Edit.Covered made p ↔ Edit.Covered given p := by
  constructor
  · rintro ⟨r, hr, hHolds⟩
    exact h.covered r hr p hHolds
  · rintro ⟨q, hq, hHolds⟩
    rcases h.inside q hq with ⟨r, hr, hInside⟩
    exact
      ⟨r, hr, Nat.le_trans hInside.1 hHolds.1,
        Nat.lt_of_lt_of_le hHolds.2 hInside.2⟩

/- They reach the same offsets. -/
theorem Joins.reaches_iff
    (h : Joins given made)
    (hGiven : ∀ q ∈ given, q.start ≤ q.stop)
    (p : Nat) :
    (∃ r ∈ made, r.Reaches p) ↔
      ∃ q ∈ given, q.Reaches p := by
  constructor
  · rintro ⟨r, hr, hStart, hStop⟩
    rcases Nat.lt_or_eq_of_le hStop with hStop | rfl
    · rcases h.covered r hr p ⟨hStart, hStop⟩ with
        ⟨q, hq, hHolds⟩
      exact ⟨q, hq, hHolds.1, Nat.le_of_lt hHolds.2⟩
    · -- An end reaches itself, also that of an empty span.
      rcases h.stop_mem r hr with ⟨q, hq, hSame⟩
      refine ⟨q, hq, ?_, ?_⟩
      · rw [← hSame]
        exact hGiven q hq
      · rw [hSame]
  · rintro ⟨q, hq, hStart, hStop⟩
    rcases h.inside q hq with ⟨r, hr, hInside⟩
    exact
      ⟨r, hr, Nat.le_trans hInside.1 hStart,
        Nat.le_trans hStop hInside.2⟩

end Span

end Reformat

------------------------------------------------------------
-- Spans With Gaps Between Them
------------------------------------------------------------

namespace Reformat

namespace Span

/- Spans in order, none reversed and no two touching. -/
structure Separate (rs : List Span) : Prop where
  start_le_stop : ∀ r ∈ rs, r.start ≤ r.stop
  apart : rs.Pairwise fun a b => a.stop < b.start

/- Merged spans have gaps between them. -/
theorem separate_mergeAll
    (size : Nat)
    (spans : List Span) :
    Separate (mergeAll size spans) where
  start_le_stop := by
    intro r hr
    exact (within_of_mem_mergeAll size spans r hr).1
  apart := pairwise_mergeAll size spans

variable {a b : Span}
variable {as bs : List Span}
variable {p : Nat}

/- All but the first have gaps between them. -/
theorem Separate.tail
    (h : Separate (a :: as)) :
    Separate as where
  start_le_stop := (List.forall_mem_cons.mp h.start_le_stop).2
  apart := (List.pairwise_cons.mp h.apart).2

/- The others start behind the end of the first. -/
theorem Separate.stop_lt_start
    {r : Span}
    (h : Separate (a :: as))
    (hr : r ∈ as) :
    a.stop < r.start :=
  (List.pairwise_cons.mp h.apart).1 r hr

/- The first one reaches its own start. -/
theorem Separate.reaches_start
    (h : Separate (a :: as)) :
    ∃ r ∈ a :: as, r.Reaches a.start :=
  ⟨a, List.mem_cons_self, Nat.le_refl _,
    h.start_le_stop a List.mem_cons_self⟩

/- What the others hold or reach is behind the first. -/
theorem Separate.exists_tail_iff
    (h : Separate (a :: as))
    {At : Span → Nat → Prop}
    (hAt : ∀ r, At r p → r.Reaches p) :
    (∃ r ∈ as, At r p) ↔
      (∃ r ∈ a :: as, At r p) ∧ a.stop < p := by
  constructor
  · rintro ⟨r, hr, hHere⟩
    exact
      ⟨⟨r, List.mem_cons_of_mem a hr, hHere⟩,
        Nat.lt_of_lt_of_le (h.stop_lt_start hr)
          (hAt r hHere).1⟩
  · rintro ⟨⟨r, hr, hHere⟩, hBehind⟩
    rcases List.mem_cons.mp hr with rfl | hr
    · exact
        absurd (hAt r hHere).2 (Nat.not_le_of_lt hBehind)
    · exact ⟨r, hr, hHere⟩

/- A span reaches the bytes that it holds. -/
theorem Holds.reaches
    {r : Span}
    (h : r.Holds p) :
    r.Reaches p :=
  ⟨h.1, Nat.le_of_lt h.2⟩

/- Nothing is reached before the first one starts. -/
theorem Separate.start_le_of_reaches
    (h : Separate (a :: as))
    (hReaches : ∃ r ∈ a :: as, r.Reaches p) :
    a.start ≤ p := by
  rcases hReaches with ⟨r, hr, hReaches⟩
  rcases List.mem_cons.mp hr with rfl | hr
  · exact hReaches.1
  · have hFirst := h.start_le_stop a List.mem_cons_self
    have hBehind := h.stop_lt_start hr
    have hHere := hReaches.1
    omega

/- The byte at the end of the first one is not covered. -/
theorem Separate.not_covered_stop
    (h : Separate (a :: as)) :
    ¬ Edit.Covered (a :: as) a.stop := by
  rintro ⟨r, hr, hHolds⟩
  rcases List.mem_cons.mp hr with rfl | hr
  · exact absurd hHolds.2 (Nat.lt_irrefl _)
  · exact
      absurd hHolds.1
        (Nat.not_le_of_lt (h.stop_lt_start hr))

/- The first of some spans ends no later than that of others
  which start there and cover no less. -/
theorem Separate.stop_le_of_covered
    (h : Separate (b :: bs))
    (hStart : a.start = b.start)
    (hCovered :
      ∀ p, Edit.Covered (a :: as) p →
        Edit.Covered (b :: bs) p) :
    a.stop ≤ b.stop := by
  apply Nat.le_of_not_lt
  intro hLt
  apply h.not_covered_stop
  apply hCovered
  refine ⟨a, List.mem_cons_self, ?_, hLt⟩
  rw [hStart]
  exact h.start_le_stop b List.mem_cons_self

/- The bytes and the reached offsets make out the spans. -/
theorem Separate.eq_of_same
    (hFirst : Separate as)
    (hSecond : Separate bs)
    (hCovered :
      ∀ p, Edit.Covered as p ↔ Edit.Covered bs p)
    (hReaches :
      ∀ p,
        (∃ r ∈ as, r.Reaches p) ↔ ∃ r ∈ bs, r.Reaches p) :
    as = bs := by
  induction as generalizing bs with
  | nil =>
      cases bs with
      | nil => rfl
      | cons b bs =>
          rcases (hReaches _).mpr hSecond.reaches_start with
            ⟨r, hr, -⟩
          cases hr
  | cons a as ih =>
      cases bs with
      | nil =>
          rcases (hReaches _).mp hFirst.reaches_start with
            ⟨r, hr, -⟩
          cases hr
      | cons b bs =>
          have hStart : a.start = b.start :=
            Nat.le_antisymm
              (hFirst.start_le_of_reaches
                ((hReaches _).mpr hSecond.reaches_start))
              (hSecond.start_le_of_reaches
                ((hReaches _).mp hFirst.reaches_start))
          have hStop : a.stop = b.stop :=
            Nat.le_antisymm
              (hSecond.stop_le_of_covered hStart fun p =>
                (hCovered p).mp)
              (hFirst.stop_le_of_covered hStart.symm
                fun p => (hCovered p).mpr)
          have hHead : a = b := by
            cases a
            cases b
            simp only at hStart hStop
            rw [hStart, hStop]
          have hTail : as = bs := by
            apply ih hFirst.tail hSecond.tail
            · intro p
              have hLeft :=
                hFirst.exists_tail_iff (p := p)
                  (fun r h => Holds.reaches h)
              have hRight :=
                hSecond.exists_tail_iff (p := p)
                  (fun r h => Holds.reaches h)
              unfold Edit.Covered at hCovered ⊢
              rw [hLeft, hRight, hCovered, hStop]
            · intro p
              rw [hFirst.exists_tail_iff fun r h => h,
                hSecond.exists_tail_iff fun r h => h,
                hReaches, hStop]
          rw [hHead, hTail]

end Span

end Reformat

------------------------------------------------------------
-- Merging Again
------------------------------------------------------------

namespace Reformat

namespace Span

variable (size : Nat)

/- Spans with the same members are merged alike. -/
theorem mergeAll_congr
    {spans spans' : List Span}
    (hSame : ∀ q, q ∈ spans' ↔ q ∈ spans) :
    mergeAll size spans' = mergeAll size spans := by
  have hClamped :
      ∀ q,
        q ∈ spans'.map (·.clamp size) ↔
          q ∈ spans.map (·.clamp size) := by
    intro q
    simp only [List.mem_map, hSame]
  have hWithin :
      ∀ q ∈ spans.map (·.clamp size), q.start ≤ q.stop := by
    intro q hq
    rcases List.mem_map.mp hq with ⟨r, -, rfl⟩
    exact (within_clamp r size).1
  have hJoins := joins_mergeAll size spans
  have hJoins' : Joins (spans.map (·.clamp size))
      (mergeAll size spans') :=
    (joins_mergeAll size spans').congr
      (fun q => (hClamped q).symm) fun r => Iff.rfl
  apply
    (separate_mergeAll size spans').eq_of_same
      (separate_mergeAll size spans)
  · intro p
    rw [hJoins'.covered_iff, hJoins.covered_iff]
  · intro p
    rw [hJoins'.reaches_iff hWithin,
      hJoins.reaches_iff hWithin]

/- Spans of a text with gaps between them stay as they are. -/
theorem mergeAll_of_separate
    {spans : List Span}
    (hWithin : ∀ r ∈ spans, r.Within size)
    (hSeparate : Separate spans) :
    mergeAll size spans = spans := by
  have hClamped : spans.map (·.clamp size) = spans := by
    rw [List.map_congr_left fun r hr =>
      clamp_of_within (hWithin r hr)]
    exact List.map_id' spans
  have hJoins := joins_mergeAll size spans
  rw [hClamped] at hJoins
  apply
    (separate_mergeAll size spans).eq_of_same hSeparate
  · exact hJoins.covered_iff
  · exact hJoins.reaches_iff hSeparate.start_le_stop

/- Merged spans are merged already. -/
theorem mergeAll_mergeAll (spans : List Span) :
    mergeAll size (mergeAll size spans) =
      mergeAll size spans :=
  mergeAll_of_separate size
    (within_of_mem_mergeAll size spans)
    (separate_mergeAll size spans)

end Span

end Reformat

------------------------------------------------------------
-- Selected Changes
------------------------------------------------------------

namespace Reformat

namespace Selector

/- Changes that matter are merged. -/
theorem select_of_asks
    {s : Selector}
    {mode : Mode}
    {reported : Nat}
    {selection : Span}
    (hAsks : s.asks mode reported selection = true)
    (spans : List Span) :
    s.select mode reported selection (.spans spans) =
      .spans (Span.mergeAll (s.size reported) spans) := by
  have hChoose :
      s.choose mode reported selection =
        .ask (ofChanges (s.size reported)) := by
    unfold asks choose at hAsks
    unfold choose
    cases mode with
    | wholeFile => cases hAsks
    | selection => cases hAsks
    | auto =>
        by_cases hEmpty :
            (selection.clamp (s.size reported)).IsEmpty
        · by_cases hChanged : s.onlyChanged = true
          · simp only [hEmpty, hChanged, not_true, if_false,
              if_true]
          · simp [hEmpty, hChanged] at hAsks
        · simp [hEmpty] at hAsks
  unfold select
  rw [hChoose]
  rfl

/-
  The spans to format, where these are the changed ones: they
  hold the bytes of the changes, cut off at the end of the
  text, and no others.  Every change lies inside one of them,
  also one without bytes, and they start and end where changes
  do.  They depend on which changes there are, and not on the
  order or the number of times these are told; told as changes
  themselves, they stay as they are.
-/
theorem select_changed_spans
    {s : Selector}
    {mode : Mode}
    {reported : Nat}
    {selection : Span}
    (hAsks : s.asks mode reported selection = true)
    (changed : List Span) :
    let scope rs :=
      s.select mode reported selection (.spans rs)
    let clamped := changed.map (·.clamp (s.size reported))
    ∃ merged,
      scope changed = .spans merged ∧
        (∀ p,
          (∃ r ∈ merged, r.Holds p) ↔
            ∃ q ∈ clamped, q.Holds p) ∧
        (∀ q ∈ clamped, ∃ r ∈ merged, q.Inside r) ∧
        (∀ r ∈ merged,
          (∃ q ∈ clamped, q.start = r.start) ∧
            ∃ q ∈ clamped, q.stop = r.stop) ∧
        (∀ changed',
          (∀ q, q ∈ changed' ↔ q ∈ changed) →
            scope changed' = .spans merged) ∧
        scope merged = .spans merged := by
  intro scope clamped
  have hScope : ∀ rs,
      scope rs =
        .spans (Span.mergeAll (s.size reported) rs) :=
    select_of_asks hAsks
  have hJoins :=
    Span.joins_mergeAll (s.size reported) changed
  refine
    ⟨_, hScope changed, hJoins.covered_iff, hJoins.inside,
      ?_, ?_, ?_⟩
  · intro r hr
    exact ⟨hJoins.start_mem r hr, hJoins.stop_mem r hr⟩
  · intro changed' hSame
    rw [hScope, Span.mergeAll_congr _ hSame]
  · rw [hScope, Span.mergeAll_mergeAll]

/-
  Changes out of order, told twice, reversed, and past the end
  of a text of a hundred bytes.
-/
theorem select_changed_spans_sample :
    let s : Selector := { onlyChanged := true }
    let scope rs := s.select .auto 101 ⟨7, 7⟩ (.spans rs)
    let changed : List Span :=
      [⟨30, 40⟩, ⟨90, 200⟩, ⟨5, 10⟩, ⟨8, 12⟩, ⟨12, 15⟩,
        ⟨300, 250⟩, ⟨60, 50⟩, ⟨5, 10⟩]
    let merged : List Span :=
      [⟨5, 15⟩, ⟨30, 40⟩, ⟨60, 60⟩, ⟨90, 100⟩]
    s.asks .auto 101 ⟨7, 7⟩ = true ∧
      scope changed = .spans merged ∧
        scope changed.reverse = .spans merged ∧
          scope merged = .spans merged := by
  intro s scope changed merged
  have hAsks : s.asks .auto 101 ⟨7, 7⟩ = true := by decide
  have hSorted :
      changed.mergeSort Span.le =
        [⟨5, 10⟩, ⟨5, 10⟩, ⟨8, 12⟩, ⟨12, 15⟩, ⟨30, 40⟩,
          ⟨60, 50⟩, ⟨90, 200⟩, ⟨300, 250⟩] := by
    simp [changed, List.mergeSort, Span.le,
      List.MergeSort.Internal.splitInTwo]
  have hMerged : scope changed = .spans merged := by
    simp only [scope, s]
    rw [select_of_asks hAsks, Span.mergeAll, hSorted]
    decide
  rcases select_changed_spans hAsks changed with
    ⟨found, hFound, -, -, -, hSame, hAgain⟩
  have hEq : found = merged :=
    Scope.spans.inj (hFound.symm.trans hMerged)
  rw [hEq] at hSame hAgain
  exact
    ⟨hAsks, hMerged,
      hSame changed.reverse fun q => List.mem_reverse,
      hAgain⟩

end Selector

end Reformat
