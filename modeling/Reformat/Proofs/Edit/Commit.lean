import Reformat.Edit.Document
import Reformat.Proofs.Edit.Splice

/-
  What a document is after the edits of a reply.

  Edits of either form end in a document that is known from
  the one before: its text, the caret in it and its version.

  Main statements:
    * `Edit.size_changed_applyFrom`
    * `Document.exists_draft_of_transact`
    * `Document.transact_edits`
    * `Document.transact_fullText`
-/

------------------------------------------------------------
-- Drafts
------------------------------------------------------------

namespace Reformat

namespace Edit

/- A run marks one more span for each replacement it makes. -/
theorem size_changed_applyFrom
    {p : Progress}
    {t t' : Draft}
    {rs : List Replacement}
    {drift : Int}
    (hRun : applyFrom p t rs = (t', .ok drift)) :
    t'.changed.size = t.changed.size + rs.length := by
  induction rs generalizing p t with
  | nil =>
      have hEq : t = t' := (Prod.mk.inj hRun).1
      rw [hEq]
      rfl
  | cons r rest ih =>
      cases hPlace : place p t r with
      | error e =>
          simp only [applyFrom, hPlace] at hRun
          cases (Prod.mk.inj hRun).2
      | ok placed =>
          simp only [applyFrom, hPlace] at hRun
          have hRest := ih hRun
          have hOne :
              (TextBuffer.replace t placed.span
                    r.value).changed.size =
                t.changed.size + 1 := by
            simp [TextBuffer.replace, Draft.replace]
          rw [hRest, hOne, List.length_cons]
          omega

/- Edits of a reply that succeed are a run that does. -/
theorem exists_run_of_applyReply
    {t t' : Draft}
    {cursor : Nat}
    {rs : List Replacement}
    (hEdit :
      applyReply t (.edits cursor rs) = (t', .ok ())) :
    ∃ done drift,
      applyReplacements t rs = (done, .ok drift) ∧
        t' = done.moveCaret cursor := by
  rcases hRun : applyReplacements t rs with ⟨done, outcome⟩
  simp only [applyReply, hRun] at hEdit
  cases outcome with
  | error e => cases (Prod.mk.inj hEdit).2
  | ok drift =>
      exact ⟨done, drift, rfl, (Prod.mk.inj hEdit).1.symm⟩

end Edit

namespace Text

/- A text put in the place of all of another is left. -/
theorem replace_whole (s value : String) :
    replace s 0 (size s) value = value := by
  have h := replace_append "" s "" value
  simpa using h

end Text

end Reformat

------------------------------------------------------------
-- Transactions
------------------------------------------------------------

namespace Reformat

namespace Document

/- A transaction takes over a draft when its edits succeed. -/
theorem transact_of_ok
    {ε : Type}
    {d : Document}
    {t : Draft}
    (edit : Draft → Draft × Except ε Unit)
    (hEdit : edit (Draft.ofDocument d) = (t, .ok ())) :
    ∃ patch, d.transact edit = (d.commit t, .ok patch) := by
  unfold transact
  rw [hEdit]
  exact ⟨_, rfl⟩

/- A transaction that succeeds has taken over a draft. -/
theorem exists_draft_of_transact
    {ε : Type}
    {d d' : Document}
    {patch : Patch}
    {edit : Draft → Draft × Except ε Unit}
    (hMade : d.transact edit = (d', .ok patch)) :
    ∃ t,
      edit (Draft.ofDocument d) = (t, .ok ()) ∧
        d' = d.commit t ∧
          patch =
            ⟨t.changed.toList, d'.selection, d'.version⟩ := by
  rcases hEdit : edit (Draft.ofDocument d) with ⟨t, outcome⟩
  unfold transact at hMade
  rw [hEdit] at hMade
  cases outcome with
  | error e => cases (Prod.mk.inj hMade).2
  | ok done =>
      rcases Prod.mk.inj hMade with ⟨rfl, hPatch⟩
      exact ⟨t, rfl, rfl, (Except.ok.inj hPatch).symm⟩

/- A draft with a change is taken over whole. -/
theorem commit_of_changed
    {d : Document}
    {t : Draft}
    (hChanged : t.changed.size ≠ 0) :
    d.commit t = ⟨t.text, t.selection, d.version + 1⟩ := by
  have hSome : t.changed.isEmpty = false := by
    simpa [Array.isEmpty] using hChanged
  simp only [commit, hSome, Bool.false_eq_true, if_false]

/- Of a draft without a change only the selection is. -/
theorem commit_of_unchanged
    {d : Document}
    {t : Draft}
    (hChanged : t.changed.size = 0) :
    d.commit t = ⟨d.text, t.selection, d.version⟩ := by
  have hNone : t.changed.isEmpty = true := by
    simpa [Array.isEmpty] using hChanged
  simp only [commit, hNone, if_true]

/-
  Ascending replacements that fit leave the splice, and the
  version goes up when there are any.
-/
theorem transact_edits
    {d : Document}
    {rs : List Replacement}
    (cursor : Nat)
    (hAscends : Edit.Ascends rs)
    (hSigned : Edit.StaysSigned d.text rs)
    (hFits : ∀ r ∈ rs, Edit.Fits d.text r) :
    ∃ patch,
      d.transact (Edit.applyReply · (.edits cursor rs)) =
        (⟨Edit.splice d.text rs,
            Span.caret
              (min cursor
                (Text.size (Edit.splice d.text rs))),
            if rs = [] then d.version else d.version + 1⟩,
          .ok patch) := by
  let start := Draft.ofDocument d
  rcases Edit.applyReplacements_of_fits start hAscends hSigned
      hFits with
    ⟨hText, hOk⟩
  rcases hRun : Edit.applyReplacements start rs with
    ⟨t, outcome⟩
  rw [hRun] at hText hOk
  subst hOk
  have hText : t.text = Edit.splice d.text rs := hText
  have hCount : t.changed.size = rs.length := by
    have hSize := Edit.size_changed_applyFrom hRun
    have hNone : start.changed.size = 0 := rfl
    omega
  let moved := Draft.moveCaret t cursor
  have hEdit :
      Edit.applyReply start (.edits cursor rs) =
        (moved, .ok ()) := by
    simp only [Edit.applyReply, hRun]
    rfl
  have hSelection :
      moved.selection =
        Span.caret
          (min cursor
            (Text.size (Edit.splice d.text rs))) := by
    rw [← hText]
    rfl
  rcases transact_of_ok
      (Edit.applyReply · (.edits cursor rs)) hEdit with
    ⟨patch, hTransact⟩
  refine ⟨patch, hTransact.trans ?_⟩
  cases rs with
  | nil =>
      have hUnchanged : moved.changed.size = 0 := hCount
      have hSame : d.text = Edit.splice d.text [] := by
        simp [Edit.splice, Edit.spliceFrom]
      rw [commit_of_unchanged hUnchanged, hSelection,
        if_pos rfl, ← hSame]
  | cons r rest =>
      have hChanged : moved.changed.size ≠ 0 := by
        have hMoved : moved.changed.size = t.changed.size :=
          rfl
        rw [hMoved, hCount]
        exact Nat.succ_ne_zero _
      have hMoved : moved.text = t.text := rfl
      rw [commit_of_changed hChanged, hSelection, hMoved,
        hText, if_neg (List.cons_ne_nil _ _)]

/- A whole text is left as it is, and the version goes up. -/
theorem transact_fullText
    (d : Document)
    (cursor : Nat)
    (text : String) :
    ∃ patch,
      d.transact (Edit.applyReply · (.fullText cursor text)) =
        (⟨text, Span.caret (min cursor (Text.size text)),
            d.version + 1⟩,
          .ok patch) := by
  let start := Draft.ofDocument d
  let replaced :=
    Draft.replace start ⟨0, Text.size d.text⟩ text
  have hText : replaced.text = text :=
    Text.replace_whole d.text text
  have hChanged :
      (replaced.moveCaret cursor).changed.size ≠ 0 := by
    have hMoved :
        (replaced.moveCaret cursor).changed =
          replaced.changed :=
      rfl
    rw [hMoved]
    simp [replaced, Draft.replace]
  have hSelection :
      (replaced.moveCaret cursor).selection =
        Span.caret (min cursor (Text.size text)) := by
    rw [← hText]
    rfl
  have hMoved :
      (replaced.moveCaret cursor).text = replaced.text := rfl
  have hEdit :
      Edit.applyReply start (.fullText cursor text) =
        (replaced.moveCaret cursor, .ok ()) :=
    rfl
  rcases transact_of_ok
      (Edit.applyReply · (.fullText cursor text)) hEdit with
    ⟨patch, hTransact⟩
  refine ⟨patch, hTransact.trans ?_⟩
  rw [commit_of_changed hChanged, hSelection, hMoved, hText]

end Document

end Reformat
