import Reformat.Proofs.Edit.Changed

/-
  What a patch tells about a change.

  A transaction that replaces no span is a no-op: text and
  version stay.  When the text is another one afterwards, the
  version is a new one and the patch is no no-op.

  Nothing is said here of spans that are replaced by the text
  they hold already: the patch has them as changed spans.

  Key definitions include:
    * `Document.Told`

  Main statements:
    * `Edit.changed_applyReply_eq_empty_iff`
    * `Document.told_of_transact`
    * `Document.transact_noop_and_version`
-/

------------------------------------------------------------
-- Changed Spans Of A Draft
------------------------------------------------------------

namespace Reformat

namespace Edit

/- Acts change no span if and only if none is a replacement. -/
theorem changed_performAll_eq_empty_iff
    (d : Document)
    (acts : List Act) :
    (performAll (Draft.ofDocument d) acts).changed.size = 0 ↔
      ¬ ∃ a ∈ acts, a.isReplace = true := by
  have hStart : (Draft.ofDocument d).changed.size = 0 := rfl
  rw [size_changed_performAll, hStart, Nat.zero_add,
    List.countP_eq_zero]
  push Not
  rfl

/- The edits of a reply change none if it has no edits. -/
theorem changed_applyReply_eq_empty_iff
    {d : Document}
    {t : Draft}
    {reply : Reply}
    (hEdit :
      applyReply (Draft.ofDocument d) reply = (t, .ok ())) :
    t.changed.size = 0 ↔ reply.IsNoop := by
  cases reply with
  | edits cursor rs =>
      rcases exists_run_of_applyReply hEdit with
        ⟨done, drift, hRun, rfl⟩
      have hSize := size_changed_applyFrom hRun
      have hStart :
          (Draft.ofDocument d).changed.size = 0 :=
        rfl
      rw [hStart, Nat.zero_add] at hSize
      change done.changed.size = 0 ↔ rs = []
      rw [hSize, List.length_eq_zero_iff]
  | fullText cursor text =>
      rcases Prod.mk.inj hEdit with ⟨rfl, -⟩
      simp [TextBuffer.moveCaret, TextBuffer.replace,
        Draft.moveCaret, Draft.replace, Reply.IsNoop]

end Edit

end Reformat

------------------------------------------------------------
-- Patches
------------------------------------------------------------

namespace Reformat

namespace Document

/-
  What the patch of a transaction tells of a document before
  and after, when it is known whether any span was replaced.
-/
structure Told
    (d d' : Document)
    (patch : Patch)
    (replaces : Prop) : Prop where
  version_eq : patch.version = d'.version
  isNoop_iff : patch.IsNoop ↔ ¬ replaces
  of_noop :
    patch.IsNoop →
      d'.text = d.text ∧ d'.version = d.version
  of_changed :
    d'.text ≠ d.text →
      d'.version = d.version + 1 ∧ ¬ patch.IsNoop

/- The patch tells so of every transaction that succeeds. -/
theorem told_of_transact
    {ε : Type}
    {d d' : Document}
    {patch : Patch}
    {edit : Draft → Draft × Except ε Unit}
    {replaces : Prop}
    (hMade : d.transact edit = (d', .ok patch))
    (hReplaces :
      ∀ t,
        edit (Draft.ofDocument d) = (t, .ok ()) →
          (t.changed.size = 0 ↔ ¬ replaces)) :
    Told d d' patch replaces := by
  rcases exists_draft_of_transact hMade with
    ⟨t, hEdit, rfl, rfl⟩
  have hNoop :
      t.changed.toList = [] ↔ t.changed.size = 0 := by
    rw [← List.length_eq_zero_iff, Array.length_toList]
  refine ⟨rfl, ?_, ?_, ?_⟩
  · exact hNoop.trans (hReplaces t hEdit)
  · intro hNone
    rw [commit_of_unchanged (hNoop.mp hNone)]
    exact ⟨rfl, rfl⟩
  · intro hText
    have hSome : t.changed.size ≠ 0 := by
      intro hNone
      rw [commit_of_unchanged hNone] at hText
      exact hText rfl
    refine ⟨?_, fun hNone => hSome (hNoop.mp hNone)⟩
    rw [commit_of_changed hSome]

/-
  Transactions that succeed: any acts, and the edits of any
  reply.  The patch is a no-op just when nothing is replaced;
  then text and version stay.  Another text has a new version.
-/
theorem transact_noop_and_version
    (ε : Type)
    (d : Document) :
    (∀ acts,
        ∃ d' patch,
          d.transact
                (fun t =>
                  (Edit.performAll t acts,
                    (.ok () : Except ε Unit))) =
              (d', .ok patch) ∧
            Told d d' patch
              (∃ a ∈ acts, a.isReplace = true)) ∧
      ∀ reply d' patch,
        d.transact (Edit.applyReply · reply) =
            (d', .ok patch) →
          Told d d' patch (¬ reply.IsNoop) := by
  constructor
  · intro acts
    let edit := fun t =>
      (Edit.performAll t acts, (.ok () : Except ε Unit))
    rcases transact_of_ok edit rfl with ⟨patch, hMade⟩
    refine ⟨_, patch, hMade, told_of_transact hMade ?_⟩
    intro t hEdit
    rw [← (Prod.mk.inj hEdit).1]
    exact Edit.changed_performAll_eq_empty_iff d acts
  · intro reply d' patch hMade
    apply told_of_transact hMade
    intro t hEdit
    rw [Classical.not_not]
    exact Edit.changed_applyReply_eq_empty_iff hEdit

/-
  A whole text that is the one before: the version is a new
  one, and the patch is no no-op.
-/
theorem transact_same_text :
    let d : Document := ⟨"int x;", ⟨0, 0⟩, 0⟩
    ∃ d' patch,
      d.transact
            (Edit.applyReply · (.fullText 0 "int x;")) =
          (d', .ok patch) ∧
        d'.text = d.text ∧
          d'.version = d.version + 1 ∧
            patch.changed = [⟨0, 6⟩] ∧ ¬ patch.IsNoop := by
  intro d
  refine ⟨_, _, rfl, ?_, ?_, ?_, ?_⟩
  · decide +kernel
  · decide +kernel
  · decide +kernel
  · decide +kernel

end Document

end Reformat
