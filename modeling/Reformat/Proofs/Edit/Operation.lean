import Mathlib.Data.Nat.PSub
import Reformat.Proofs.Edit.Changed

/-
  Documents under one operation after the other.

  A span is selected, or a transaction is made that succeeds
  or fails after some acts.  At any point of such a run, the
  drafts of its transactions among them, the selection lies
  within the text, and the version tells which text it is.

  Key definitions include:
    * `Edit.shift?`
    * `Edit.performAll?`
    * `Document.Operation`
    * `Document.Effect`
    * `Document.after`

  Main statements:
    * `Edit.Act.perform?_of_allowed`
    * `Edit.within_perform`
    * `Document.effect_perform`
    * `Document.selection_and_version_after`
-/

------------------------------------------------------------
-- Checked Subtraction
------------------------------------------------------------

namespace Reformat

namespace Edit

/-
  Where a position goes when a span is replaced, unless
  something is subtracted from less.
-/
def shift?
    (r : Span)
    (inserted : Nat)
    (p : Nat) : Option Nat := do
  let removed ← Nat.psub r.stop r.start
  if r.stop ≤ p then Nat.psub (p + inserted) removed
  else if r.start < p then some (r.start + inserted)
  else some p

/- Where both ends of a span go. -/
def shiftSpan?
    (r : Span)
    (inserted : Nat)
    (s : Span) : Option Span := do
  let start ← shift? r inserted s.start
  let stop ← shift? r inserted s.stop
  some ⟨start, stop⟩

/- Do one thing to a draft, all subtraction checked. -/
def Act.perform?
    (t : Draft) : Act → Option Draft
  | .replace r value => do
      let inserted := Text.size value
      let selection ← shiftSpan? r inserted t.selection
      let changed ←
        t.changed.mapM (shiftSpan? r inserted)
      some
        { text := Text.replace t.text r.start r.stop value
          selection := selection
          changed :=
            changed.push ⟨r.start, r.start + inserted⟩ }
  | .moveCaret offset =>
      some (TextBuffer.moveCaret t offset)

/- Do some things one after the other. -/
def performAll?
    (t : Draft)
    (acts : List Act) : Option Draft :=
  acts.foldlM Act.perform? t

/- Nothing is subtracted from less when a span is in order. -/
theorem shift?_of_le
    {r : Span}
    (hOrder : r.start ≤ r.stop)
    (inserted p : Nat) :
    shift? r inserted p = some (shift r inserted p) := by
  unfold shift? shift
  rw [Nat.psub_eq_sub hOrder]
  split
  · exact Nat.psub_eq_sub (by omega)
  · split <;> rfl

/- Both ends of a span go where they go unchecked. -/
theorem shiftSpan?_of_le
    {r : Span}
    (hOrder : r.start ≤ r.stop)
    (inserted : Nat)
    (s : Span) :
    shiftSpan? r inserted s =
      some (shiftSpan r inserted s) := by
  unfold shiftSpan?
  rw [shift?_of_le hOrder, shift?_of_le hOrder]
  rfl

/- An act that is allowed never subtracts from less. -/
theorem Act.perform?_of_allowed
    {t : Draft}
    {a : Act}
    (hAllowed : a.Allowed t.text) :
    a.perform? t = some (a.perform t) := by
  cases a with
  | moveCaret offset => rfl
  | replace r value =>
      have hOrder := hAllowed.1.1
      have hSpans :
          shiftSpan? r (Text.size value) =
            fun s =>
              pure (shiftSpan r (Text.size value) s) :=
        funext (shiftSpan?_of_le hOrder _)
      unfold Act.perform?
      simp only [hSpans, Array.mapM_pure]
      rfl

/- Nor do acts that are allowed one after the other. -/
theorem performAll?_of_allowedAll
    {t : Draft}
    {acts : List Act}
    (hAllowed : AllowedAll t acts) :
    performAll? t acts = some (performAll t acts) := by
  induction acts generalizing t with
  | nil => rfl
  | cons a rest ih =>
      rcases hAllowed with ⟨hFirst, hRest⟩
      unfold performAll?
      rw [List.foldlM_cons, Act.perform?_of_allowed hFirst]
      exact ih hRest

end Edit

end Reformat

------------------------------------------------------------
-- Selections Of A Draft
------------------------------------------------------------

namespace Reformat

namespace Edit

/- The first of some acts are allowed when all are. -/
theorem AllowedAll.take
    {t : Draft}
    {acts : List Act}
    (hAllowed : AllowedAll t acts)
    (k : Nat) :
    AllowedAll t (acts.take k) := by
  induction acts generalizing t k with
  | nil =>
      rw [List.take_nil]
      exact trivial
  | cons a rest ih =>
      cases k with
      | zero => exact trivial
      | succ k => exact ⟨hAllowed.1, ih hAllowed.2 k⟩

/- The selection of a draft stays within its text. -/
theorem within_perform
    {t : Draft}
    {a : Act}
    (hAllowed : a.Allowed t.text)
    (hWithin : t.selection.Within t.size) :
    (a.perform t).selection.Within (a.perform t).size := by
  cases a with
  | moveCaret offset =>
      exact ⟨Nat.le_refl _, Nat.min_le_right _ _⟩
  | replace r value =>
      rcases hAllowed with ⟨hSpan, hStart, hStop⟩
      exact
        within_shiftSpan hSpan hWithin
          (Text.size_replace hStart hStop value)

/- And so it does whatever is done. -/
theorem within_performAll
    {t : Draft}
    {acts : List Act}
    (hAllowed : AllowedAll t acts)
    (hWithin : t.selection.Within t.size) :
    (performAll t acts).selection.Within
      (performAll t acts).size := by
  induction acts generalizing t with
  | nil => exact hWithin
  | cons a rest ih =>
      exact
        ih hAllowed.2 (within_perform hAllowed.1 hWithin)

end Edit

end Reformat

------------------------------------------------------------
-- Operations
------------------------------------------------------------

namespace Reformat

namespace Document

/-
  One thing that is done to a document: a span is selected, or
  a transaction does some acts and then succeeds or fails.
-/
inductive Operation (ε : Type)
  | select (r : Span)
  | transact
      (acts : List Edit.Act)
      (outcome : Except ε Unit)

variable {ε : Type}

namespace Operation

/- Do it. -/
def perform
    (d : Document) : Operation ε → Document
  | .select r => d.select r
  | .transact acts outcome =>
      (d.transact fun t =>
        (Edit.performAll t acts, outcome)).1

/- The acts of a transaction are allowed one by one. -/
def Allowed
    (d : Document) : Operation ε → Prop
  | .select _ => True
  | .transact acts _ =>
      Edit.AllowedAll (Draft.ofDocument d) acts

/- Being allowed is decidable. -/
instance
    (d : Document)
    (op : Operation ε) :
    Decidable (op.Allowed d) := by
  unfold Allowed
  split <;> infer_instance

/- Each operation is allowed on the document as it then is. -/
def AllowedAll : Document → List (Operation ε) → Prop
  | _, [] => True
  | d, op :: rest =>
      op.Allowed d ∧ AllowedAll (op.perform d) rest

/- Being allowed one after the other is decidable. -/
instance decidableAllowedAll :
    (d : Document) →
      (ops : List (Operation ε)) →
        Decidable (AllowedAll d ops)
  | _, [] => inferInstanceAs (Decidable True)
  | d, op :: rest =>
      haveI := decidableAllowedAll (op.perform d) rest
      inferInstanceAs (Decidable (_ ∧ _))

end Operation

/- The document after the first few of some operations. -/
def after
    (d : Document)
    (ops : List (Operation ε))
    (n : Nat) : Document :=
  (ops.take n).foldl Operation.perform d

/- The draft after the first few acts of a transaction. -/
def draftAfter
    (d : Document)
    (acts : List Edit.Act)
    (k : Nat) : Draft :=
  Edit.performAll (Draft.ofDocument d) (acts.take k)

end Document

end Reformat

------------------------------------------------------------
-- One Operation
------------------------------------------------------------

namespace Reformat

namespace Document

variable {ε : Type}

/-
  What an operation makes of the version and the text of a
  document.
-/
structure Effect
    (op : Operation ε)
    (d d' : Document) : Prop where
  version :
    d'.version = d.version ∨ d'.version = d.version + 1
  text_of_version :
    d'.version = d.version → d'.text = d.text
  of_select :
    ∀ r, op = .select r →
      d'.text = d.text ∧ d'.version = d.version
  of_failed :
    ∀ acts e, op = .transact acts (.error e) → d' = d

/- A draft is taken over with a new version or no new text. -/
theorem version_commit
    (d : Document)
    (t : Draft) :
    (d.commit t).version = d.version + 1 ∨
      (d.commit t).version = d.version ∧
        (d.commit t).text = d.text := by
  by_cases hChanged : t.changed.size = 0
  · rw [commit_of_unchanged hChanged]
    exact .inr ⟨rfl, rfl⟩
  · rw [commit_of_changed hChanged]
    exact .inl rfl

/- Every operation has its effect. -/
theorem effect_perform
    (op : Operation ε)
    (d : Document) :
    Effect op d (op.perform d) := by
  cases op with
  | select r =>
      exact
        ⟨.inl rfl, fun _ => rfl, fun _ _ => ⟨rfl, rfl⟩,
          fun _ _ h => by cases h⟩
  | transact acts outcome =>
      cases outcome with
      | error e =>
          exact
            ⟨.inl rfl, fun _ => rfl,
              fun _ h => (by cases h), fun _ _ _ => rfl⟩
      | ok done =>
          let t := Edit.performAll (Draft.ofDocument d) acts
          have hCommit :
              (Operation.transact acts
                (.ok done : Except ε Unit)).perform d =
                d.commit t :=
            rfl
          rw [hCommit]
          refine
            ⟨?_, ?_, fun _ h => (by cases h),
              fun _ _ h => (by cases h)⟩
          · rcases version_commit d t with hNew | ⟨hOld, -⟩
            · exact .inr hNew
            · exact .inl hOld
          · intro hSame
            rcases version_commit d t with hNew | ⟨-, hText⟩
            · omega
            · exact hText

/- The selection stays within the text. -/
theorem selection_perform
    {op : Operation ε}
    {d : Document}
    (hAllowed : op.Allowed d)
    (hWithin : d.selection.Within d.size) :
    (op.perform d).selection.Within (op.perform d).size := by
  cases op with
  | select r => exact Span.within_clamp r d.size
  | transact acts outcome =>
      cases outcome with
      | error e => exact hWithin
      | ok done =>
          change
            Span.Within
              (Edit.performAll (Draft.ofDocument d)
                acts).selection
              (Text.size (d.commit _).text)
          rw [text_commit_performAll]
          exact Edit.within_performAll hAllowed hWithin

end Document

end Reformat

------------------------------------------------------------
-- Runs
------------------------------------------------------------

namespace Reformat

namespace Document

variable {ε : Type}
variable {d : Document}
variable {ops : List (Operation ε)}

/- One more operation is done to what the others left. -/
theorem after_succ
    {n : Nat}
    {op : Operation ε}
    (hOp : ops[n]? = some op) :
    d.after ops (n + 1) = op.perform (d.after ops n) := by
  simp only [after, List.take_add_one, hOp,
    Option.toList_some, List.foldl_append, List.foldl_cons,
    List.foldl_nil]

/- Nothing is done when no operation is left. -/
theorem after_succ_of_none
    {n : Nat}
    (hNone : ops[n]? = none) :
    d.after ops (n + 1) = d.after ops n := by
  simp only [after, List.take_add_one, hNone,
    Option.toList_none, List.append_nil]

/- Each operation of a run is allowed when it is done. -/
theorem Operation.AllowedAll.getElem?
    {n : Nat}
    {op : Operation ε}
    (hAllowed : Operation.AllowedAll d ops)
    (hOp : ops[n]? = some op) :
    op.Allowed (d.after ops n) := by
  induction ops generalizing d n with
  | nil => cases hOp
  | cons first rest ih =>
      cases n with
      | zero =>
          rw [List.getElem?_cons_zero, Option.some.injEq]
            at hOp
          rw [← hOp]
          exact hAllowed.1
      | succ n =>
          rw [List.getElem?_cons_succ] at hOp
          exact ih hAllowed.2 hOp

/- The selection lies within the text at any point. -/
theorem selection_after
    (hAllowed : Operation.AllowedAll d ops)
    (hStart : d.selection.Within d.size)
    (n : Nat) :
    (d.after ops n).selection.Within (d.after ops n).size := by
  induction n with
  | zero => exact hStart
  | succ n ih =>
      cases hOp : ops[n]? with
      | none =>
          rw [after_succ_of_none hOp]
          exact ih
      | some op =>
          rw [after_succ hOp]
          exact selection_perform (hAllowed.getElem? hOp) ih

/-
  The version does not go down from one point to a later one,
  and when it is the same then so is the text.
-/
theorem version_after_of_le
    {m n : Nat}
    (hLe : m ≤ n) :
    (d.after ops m).version ≤ (d.after ops n).version ∧
      ((d.after ops n).version = (d.after ops m).version →
        (d.after ops n).text = (d.after ops m).text) := by
  induction n, hLe using Nat.le_induction with
  | base => exact ⟨Nat.le_refl _, fun _ => rfl⟩
  | succ n hLe ih =>
      rcases ih with ⟨hVersion, hText⟩
      cases hOp : ops[n]? with
      | none =>
          rw [after_succ_of_none hOp]
          exact ⟨hVersion, hText⟩
      | some op =>
          rw [after_succ hOp]
          have hEffect := effect_perform op (d.after ops n)
          have hNext := hEffect.version
          refine ⟨by omega, ?_⟩
          intro hSame
          -- Two steps that add up to none are none each.
          have hLast := hEffect.text_of_version (by omega)
          exact hLast.trans (hText (by omega))

/- Points of a run with one version have one text. -/
theorem text_after_of_version
    {m n : Nat}
    (hSame :
      (d.after ops m).version =
        (d.after ops n).version) :
    (d.after ops m).text = (d.after ops n).text := by
  rcases Nat.le_total m n with hLe | hLe
  · exact
      ((version_after_of_le hLe).2 hSame.symm).symm
  · exact (version_after_of_le hLe).2 hSame

/- Nothing is selected in a document that was just read. -/
theorem selection_ofBytes
    {bytes : ByteArray}
    (hRead : ofBytes bytes = .ok d) :
    d.selection.Within d.size := by
  unfold ofBytes at hRead
  cases hText : Text.Utf8.decode bytes with
  | error fault =>
      rw [hText] at hRead
      cases hRead
  | ok text =>
      rw [hText] at hRead
      cases hRead
      exact ⟨Nat.le_refl _, Nat.zero_le _⟩

/-
  A run of operations on a document that was read from bytes.
  At every point, also within a transaction, the selection
  lies within the text, no subtraction is from less, and each
  operation has its effect, so one version has one text.
-/
theorem selection_and_version_after
    {bytes : ByteArray}
    (hRead : ofBytes bytes = .ok d)
    (hAllowed : Operation.AllowedAll d ops) :
    (∀ n,
      (d.after ops n).selection.Within
        (d.after ops n).size) ∧
      (∀ n acts outcome,
        ops[n]? = some (.transact acts outcome) →
          (∀ k,
            (draftAfter (d.after ops n) acts
                  k).selection.Within
              (draftAfter (d.after ops n) acts k).size) ∧
            Edit.performAll?
                (Draft.ofDocument (d.after ops n)) acts =
              some
                (Edit.performAll
                  (Draft.ofDocument (d.after ops n))
                  acts)) ∧
      (∀ n op,
        ops[n]? = some op →
          Effect op (d.after ops n)
            (d.after ops (n + 1))) ∧
      (∀ m n,
        (d.after ops m).version =
            (d.after ops n).version →
          (d.after ops m).text = (d.after ops n).text) := by
  have hSelection :=
    selection_after hAllowed (selection_ofBytes hRead)
  refine ⟨hSelection, ?_, ?_, ?_⟩
  · intro n acts outcome hOp
    have hActs := hAllowed.getElem? hOp
    refine ⟨?_, Edit.performAll?_of_allowedAll hActs⟩
    intro k
    exact
      Edit.within_performAll (hActs.take k)
        (hSelection n)
  · intro n op hOp
    rw [after_succ hOp]
    exact effect_perform op _
  · intro m n hSame
    exact text_after_of_version hSame

/-
  A reversed selection, a transaction that fails half-way, and
  one that cuts into the selection from both sides.
-/
theorem selection_and_version_after_sample :
    let bytes : ByteArray :=
      [0x61, 0xC3, 0xA9, 0x62].toByteArray
    let d : Document := ⟨"aéb", ⟨0, 0⟩, 0⟩
    let ops : List (Operation EditError) :=
      [.select ⟨9, 2⟩,
        .transact [.replace ⟨1, 3⟩ "xyz", .moveCaret 99]
          (.ok ()),
        .transact [.replace ⟨0, 5⟩ "", .moveCaret 1]
          (.error (.splitsCharacter 2)),
        .select ⟨1, 4⟩,
        .transact
          [.replace ⟨0, 2⟩ "", .replace ⟨1, 3⟩ "é"]
          (.ok ())]
    ofBytes bytes = .ok d ∧
      Operation.AllowedAll d ops ∧
      d.after ops 2 = ⟨"axyzb", ⟨5, 5⟩, 1⟩ ∧
      d.after ops 3 = d.after ops 2 ∧
      d.after ops 5 = ⟨"yé", ⟨0, 3⟩, 2⟩ ∧
      (∀ n,
        (d.after ops n).selection.Within
          (d.after ops n).size) ∧
      (∀ m n,
        (d.after ops m).version =
            (d.after ops n).version →
          (d.after ops m).text = (d.after ops n).text) := by
  intro bytes d ops
  have hDecode : Text.Utf8.decode bytes = .ok "aéb" := by
    apply (Text.Utf8.decode_toByteArray_eq_ok_iff _ _).mpr
    decide +kernel
  have hRead : ofBytes bytes = .ok d := by
    unfold ofBytes
    rw [hDecode]
    rfl
  have hAllowed : Operation.AllowedAll d ops := by
    decide +kernel
  rcases selection_and_version_after hRead hAllowed with
    ⟨hSelection, -, -, hVersion⟩
  refine
    ⟨hRead, hAllowed, ?_, ?_, ?_, hSelection, hVersion⟩
  · decide +kernel
  · decide +kernel
  · decide +kernel

end Document

end Reformat
