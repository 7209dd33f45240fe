import Reformat.Proofs.Request.Merge
import Reformat.Proofs.Session.Format

/-
  The requests that sessions prepare.

  A request is for all of a text or for some of its spans, and
  never for none, whatever the editor and version control say.
  The arguments of a restricted request name each of its spans,
  so it is not taken for one without restrictions.

  Key definitions include:
    * `Scope.IsProper`
    * `Session.AsksChanges`
    * `Dialect.plainArguments`

  Main statements:
    * `Selector.isProper_ofChanges`
    * `Session.isEmpty_or_isProper_scope`
    * `Dialect.arguments_of_spans`
    * `Session.prepare_request`
-/

------------------------------------------------------------
-- Scopes
------------------------------------------------------------

namespace Reformat

/-
  All of a text of some size, or spans of it, at least one and
  each behind the one before.
-/
inductive Scope.IsProper (size : Nat) : Scope → Prop
  | wholeFile : IsProper size (.wholeFile size)
  | spans
      {rs : List Span}
      (hSome : rs ≠ [])
      (hWithin : ∀ r ∈ rs, r.Within size)
      (hApart : rs.Pairwise fun a b => a.stop < b.start) :
      IsProper size (.spans rs)

/- There is something to format in a proper scope. -/
theorem Scope.IsProper.not_isEmpty
    {size : Nat}
    {scope : Scope}
    (h : scope.IsProper size) :
    ¬ scope.IsEmpty := by
  cases h with
  | wholeFile => exact fun hEmpty => hEmpty
  | spans hSome hWithin hApart => exact hSome

/- One span of a text is a proper scope. -/
theorem Scope.isProper_singleton
    (r : Span)
    (size : Nat) :
    Scope.IsProper size (.spans [r.clamp size]) := by
  refine
    .spans (List.cons_ne_nil _ _) ?_
      (List.pairwise_singleton _ _)
  intro q hq
  rw [List.mem_singleton.mp hq]
  exact Span.within_clamp r size

namespace Selector

/- Changes make a proper scope unless there are none. -/
theorem isProper_ofChanges
    {changes : Changes}
    (size : Nat)
    (hSome : changes ≠ .spans []) :
    (ofChanges size changes).IsProper size := by
  cases changes with
  | untracked => exact .wholeFile
  | unavailable => exact .wholeFile
  | spans rs =>
      have hRanges : rs ≠ [] := by
        rintro rfl
        exact hSome rfl
      refine
        .spans ?_ (Span.within_of_mem_mergeAll size rs)
          (Span.pairwise_mergeAll size rs)
      rw [ne_eq, Span.mergeAll_eq_nil_iff]
      exact hRanges

/- No changes leave nothing to format. -/
theorem isEmpty_ofChanges_nil (size : Nat) :
    (ofChanges size (.spans [])).IsEmpty :=
  (Span.mergeAll_eq_nil_iff size []).mpr rfl

end Selector

end Reformat

------------------------------------------------------------
-- Choices
------------------------------------------------------------

namespace Reformat

namespace Session

variable (s : Session)
variable (mode : Mode)
variable (v : View)

/- The size of a view's text without what the editor adds. -/
def textSize : Nat :=
  v.reportedSize - s.selector.adjustment

/- Nothing is selected, and only what has changed is to be
  formatted. -/
def AsksChanges : Prop :=
  mode = .auto ∧
    (v.selection.clamp (s.textSize v)).IsEmpty ∧
      s.selector.onlyChanged = true

/- Asking for changes is decidable. -/
instance : Decidable (s.AsksChanges mode v) := by
  unfold AsksChanges
  infer_instance

/- What automatic mode looks at, one after the other. -/
theorem choose_auto :
    s.selector.choose .auto v.reportedSize v.selection =
      if
        ¬ (v.selection.clamp (s.textSize v)).IsEmpty
      then
        .scope (.spans [v.selection.clamp (s.textSize v)])
      else if s.selector.onlyChanged then
        .ask (Selector.ofChanges (s.textSize v))
      else
        .scope (.wholeFile (s.textSize v)) :=
  rfl

variable {s mode v}

/- The scope is then that of the changes. -/
theorem choose_of_asks
    (hAsks : s.AsksChanges mode v) :
    s.selector.choose mode v.reportedSize v.selection =
      .ask (Selector.ofChanges (s.textSize v)) := by
  rcases hAsks with ⟨rfl, hEmpty, hChanged⟩
  rw [choose_auto, if_neg (fun hNot => hNot hEmpty),
    if_pos hChanged]

/- Else it is a proper one, whatever has changed. -/
theorem exists_choose_of_not_asks
    (hAsks : ¬ s.AsksChanges mode v) :
    ∃ scope,
      s.selector.choose mode v.reportedSize v.selection =
          .scope scope ∧
        scope.IsProper (s.textSize v) := by
  have hSelection :=
    Scope.isProper_singleton v.selection (s.textSize v)
  cases mode with
  | wholeFile => exact ⟨_, rfl, .wholeFile⟩
  | selection => exact ⟨_, rfl, hSelection⟩
  | auto =>
      rw [choose_auto]
      by_cases hEmpty :
          (v.selection.clamp (s.textSize v)).IsEmpty
      · have hChanged : ¬ s.selector.onlyChanged = true :=
          fun hChanged => hAsks ⟨rfl, hEmpty, hChanged⟩
        rw [if_neg (fun hNot => hNot hEmpty),
          if_neg hChanged]
        exact ⟨_, rfl, .wholeFile⟩
      · rw [if_pos hEmpty]
        exact ⟨_, rfl, hSelection⟩

end Session

end Reformat

------------------------------------------------------------
-- Arguments
------------------------------------------------------------

namespace Reformat

namespace Dialect

/- The arguments of a request with no part named. -/
def plainArguments
    (d : Dialect)
    (r : Request) : List String :=
  ({ d with wholeFileOffsets := false }).arguments
    { r with scope := .wholeFile 0 }

/- The arguments that name some spans. -/
def pairs (rs : List Span) : List String :=
  rs.flatMap fun r =>
    ["-offset=" ++ toString r.start,
      "-length=" ++ toString (r.stop - r.start)]

/- There are two for each span. -/
theorem length_pairs (rs : List Span) :
    (pairs rs).length = 2 * rs.length := by
  induction rs with
  | nil => rfl
  | cons r rs ih =>
      rw [pairs, List.flatMap_cons, List.length_append,
        List.length_cons, ← pairs, ih]
      simp only [List.length_cons, List.length_nil]
      omega

variable (d : Dialect)
variable {r : Request}

/- A restricted request names each of its spans. -/
theorem arguments_of_spans
    {rs : List Span}
    (hScope : r.scope = .spans rs) :
    d.arguments r = d.plainArguments r ++ pairs rs := by
  simp only [arguments, plainArguments, hScope,
    scopeArguments, Bool.false_eq_true, if_false,
    List.append_nil]
  rfl

/- What names a span cannot be left out. -/
theorem arguments_ne_plainArguments
    {rs : List Span}
    (hScope : r.scope = .spans rs)
    (hSome : rs ≠ []) :
    d.arguments r ≠ d.plainArguments r := by
  intro hSame
  have hLength := congrArg List.length hSame
  have hPositive := List.length_pos_iff.mpr hSome
  rw [d.arguments_of_spans hScope, List.length_append,
    length_pairs] at hLength
  omega

end Dialect

end Reformat

------------------------------------------------------------
-- Requests
------------------------------------------------------------

namespace Reformat

namespace Session

variable {s : Session}
variable {mode : Mode}
variable {v : View}

/- Changes that are asked for are looked up first. -/
theorem run_scope_of_asks
    (hAsks : s.AsksChanges mode v)
    (changes : OnHost Changes)
    (h : Host) :
    (s.scope mode v changes).run h =
      (Selector.ofChanges (s.textSize v) (changes.run h).1,
        (changes.run h).2) := by
  unfold scope
  rw [choose_of_asks hAsks]
  rfl

/- Changes that are not asked for are not looked up. -/
theorem exists_scope_of_not_asks
    (hAsks : ¬ s.AsksChanges mode v) :
    ∃ scope,
      scope.IsProper (s.textSize v) ∧
        ∀ changes, s.scope mode v changes = pure scope := by
  rcases exists_choose_of_not_asks hAsks with
    ⟨scope, hChoose, hProper⟩
  refine ⟨scope, hProper, ?_⟩
  intro changes
  unfold Session.scope
  rw [hChoose]

/-
  The scope is empty just when the changes are asked for and
  are none; else it is proper.
-/
theorem isEmpty_or_isProper_scope
    (changes : OnHost Changes)
    (h : Host) :
    let scope := ((s.scope mode v changes).run h).1
    (scope.IsEmpty ↔
        s.AsksChanges mode v ∧
          (changes.run h).1 = .spans []) ∧
      (scope.IsEmpty ∨ scope.IsProper (s.textSize v)) := by
  by_cases hAsks : s.AsksChanges mode v
  · rw [run_scope_of_asks hAsks]
    by_cases hNone : (changes.run h).1 = .spans []
    · have hEmpty :=
        Selector.isEmpty_ofChanges_nil (s.textSize v)
      rw [← hNone] at hEmpty
      exact
        ⟨⟨fun _ => ⟨hAsks, hNone⟩, fun _ => hEmpty⟩,
          Or.inl hEmpty⟩
    · have hProper :=
        Selector.isProper_ofChanges (s.textSize v) hNone
      exact
        ⟨⟨fun hEmpty => absurd hEmpty hProper.not_isEmpty,
            fun hBoth => absurd hBoth.2 hNone⟩,
          Or.inr hProper⟩
  · rcases exists_scope_of_not_asks hAsks with
      ⟨scope, hProper, hScope⟩
    rw [hScope]
    exact
      ⟨⟨fun hEmpty => absurd hEmpty hProper.not_isEmpty,
          fun hBoth => absurd hBoth.1 hAsks⟩,
        Or.inr hProper⟩

/- Changes that are asked for are looked up before all else. -/
theorem run_prepare_of_asks
    (hAsks : s.AsksChanges mode v)
    (changes : OnHost Changes)
    (h : Host) :
    (s.prepare mode v changes).run h =
      (s.prepare mode v (pure (changes.run h).1)).run
        (changes.run h).2 := by
  rw [run_prepare, run_prepare, run_scope_of_asks hAsks,
    run_scope_of_asks hAsks]
  rfl

/-
  There is no request just when the changes are asked for and
  are none.  A request has its caret within the text and is for
  all of it or for spans in order, at least one, which its
  arguments name one by one.  The changes are asked for once,
  before all else, or not at all.
-/
theorem prepare_request
    (s : Session)
    (mode : Mode)
    (v : View)
    (changes : OnHost Changes)
    (h : Host) :
    let size := v.reportedSize - s.selector.adjustment
    let answer := changes.run h
    let prepared := (s.prepare mode v changes).run h
    (prepared.1 = none ↔
        s.AsksChanges mode v ∧ answer.1 = .spans []) ∧
      (∀ r,
        prepared.1 = some r →
          r.cursor ≤ size ∧
            r.scope.IsProper size ∧
              ∀ rs,
                r.scope = .spans rs →
                  (∀ q ∈ rs,
                      q.start + (q.stop - q.start) ≤ size) ∧
                    ∀ d : Dialect,
                      d.arguments r =
                          d.plainArguments r ++
                            Dialect.pairs rs ∧
                        d.arguments r ≠
                          d.plainArguments r) ∧
      (s.AsksChanges mode v →
        prepared =
          (s.prepare mode v (pure answer.1)).run answer.2) ∧
      (¬ s.AsksChanges mode v →
        ∀ changes',
          s.prepare mode v changes' =
            s.prepare mode v changes) := by
  intro size answer prepared
  have hPrepare := s.run_prepare mode v changes h
  rcases @isEmpty_or_isProper_scope s mode v changes h with
    ⟨hEmpty, hScope⟩
  refine ⟨?_, ?_, ?_, ?_⟩
  · rw [← hEmpty]
    simp only [prepared, hPrepare]
    split
    · next hIs => simp [hIs]
    · next hNot => simp [hNot]
  · intro r hr
    simp only [prepared, hPrepare] at hr
    split at hr
    · cases hr
    · next hNot =>
      have hProper := hScope.resolve_left hNot
      cases hr
      refine ⟨Nat.min_le_right _ _, hProper, ?_⟩
      intro rs hSpans
      simp only at hSpans
      rw [hSpans] at hProper
      cases hProper with
      | spans hSome hWithin hApart =>
          refine ⟨?_, ?_⟩
          · intro q hq
            rcases hWithin q hq with ⟨hOrder, hStop⟩
            rw [Nat.add_sub_cancel' hOrder]
            exact hStop
          · intro d
            exact
              ⟨d.arguments_of_spans hSpans,
                d.arguments_ne_plainArguments hSpans hSome⟩
  · intro hAsks
    exact run_prepare_of_asks hAsks changes h
  · intro hAsks changes'
    rcases exists_scope_of_not_asks hAsks with
      ⟨scope, -, hSame⟩
    unfold prepare
    rw [hSame changes', hSame changes]

end Session

end Reformat
