import Reformat.Proofs.Edit.Run
import Reformat.Proofs.Edit.Splice

/-
  The changes that a run makes on its buffer.

  A watched buffer writes down each change before it is made.
  Watching makes no difference to a run, so what is written
  down is what the run does to the buffer: only changes of
  whole characters within it, one for each replacement up to
  the first that is refused.

  Key definitions include:
    * `Edit.Change`
    * `Edit.Watched`
    * `Edit.Change.Makes`
    * `Edit.AsksSigned`

  Main statements:
    * `Edit.Watched.applyFrom_eq`
    * `Edit.Steps.changes_makes`
    * `Edit.AsksSigned.drift?_eq`
    * `Edit.applyReplacements_watched`
-/

------------------------------------------------------------
-- Watched Buffers
------------------------------------------------------------

namespace Reformat

namespace Edit

/- The buffer before a change, the span and the new text. -/
structure Change (β : Type) where
  before : β
  span : Span
  value : String

/- A buffer and the changes made on it, the first one first. -/
structure Watched (β : Type) where
  buffer : β
  changes : List (Change β) := []

namespace Watched

variable {β : Type}
variable [TextBuffer β]

/- A watched buffer passes on what is asked and done. -/
instance : TextBuffer (Watched β) where
  size w := TextBuffer.size w.buffer
  isBoundary w p := TextBuffer.isBoundary w.buffer p
  replace w r value :=
    { buffer := TextBuffer.replace w.buffer r value
      changes := w.changes ++ [⟨w.buffer, r, value⟩] }
  moveCaret w p :=
    { w with buffer := TextBuffer.moveCaret w.buffer p }

/- A replacement is placed as if nobody watched. -/
theorem place_eq
    (p : Progress)
    (w : Watched β)
    (r : Replacement) :
    place p w r = place p w.buffer r :=
  rfl

/- A run is the same when it is watched. -/
theorem applyFrom_eq
    (p : Progress)
    (w : Watched β)
    (rs : List Replacement) :
    applyFrom p w.buffer rs =
      ((applyFrom p w rs).1.buffer,
        (applyFrom p w rs).2) := by
  induction rs generalizing p w with
  | nil => rfl
  | cons r rest ih =>
      cases hPlace : place p w.buffer r with
      | error e =>
          simp only [applyFrom, place_eq, hPlace]
      | ok placed =>
          simp only [applyFrom, place_eq, hPlace]
          exact
            ih placed.next
              (TextBuffer.replace w placed.span r.value)

end Watched

/- Steps of a watched buffer are steps of the buffer. -/
theorem Steps.unwatched
    {β : Type}
    [TextBuffer β]
    {p p' : Progress}
    {w w' : Watched β}
    {rs : List Replacement}
    (h : Steps p w rs p' w') :
    Steps p w.buffer rs p' w'.buffer := by
  induction h with
  | nil => exact .nil
  | cons hPlace hRest ih => exact .cons hPlace ih

end Edit

end Reformat

------------------------------------------------------------
-- Changes
------------------------------------------------------------

namespace Reformat

namespace Edit

open LawfulTextBuffer (text text_replace)

variable {β : Type}
variable [TextBuffer β] [LawfulTextBuffer β]

/-
  A change is that of a replacement, made on the buffer that
  the replacements in front of it leave.  It replaces whole
  characters within the buffer, and the bytes that result are
  those of a text again.
-/
structure Change.Makes
    (b : β)
    (front : List Replacement)
    (r : Replacement)
    (drift : Int)
    (c : Change β) : Prop where
  reached :
    applyReplacements b front = (c.before, .ok drift)
  size_eq :
    (Text.size (text c.before) : Int) =
      Text.size (text b) + drift
  start_eq : (c.span.start : Int) = r.offset + drift
  stop_eq : c.span.stop = c.span.start + r.length
  value_eq : c.value = r.value
  within : c.span.Within (Text.size (text c.before))
  start_boundary :
    Text.IsBoundary (text c.before) c.span.start
  stop_boundary :
    Text.IsBoundary (text c.before) c.span.stop
  decode_eq :
    Text.Utf8.decode
        ((Text.bytes (text c.before)).take c.span.start ++
            Text.bytes c.value ++
            (Text.bytes (text c.before)).drop
              c.span.stop).toByteArray =
      .ok
        (text
          (TextBuffer.replace c.before c.span c.value))

/- What is placed after some steps makes its replacement. -/
theorem Steps.makes
    {p : Progress}
    {b b' : β}
    {front : List Replacement}
    {r : Replacement}
    {placed : Placed}
    (hSteps : Steps {} b front p b')
    (hPlace : place p b' r = .ok placed) :
    Change.Makes b front r p.drift
      ⟨b', placed.span, r.value⟩ := by
  have hPlaced := isPlaced_of_place hPlace
  have hOrder : placed.span.start ≤ placed.span.stop := by
    rw [hPlaced.stop_eq]
    exact Nat.le_add_right _ _
  exact
    { reached := hSteps.applyFrom_eq
      size_eq := hSteps.size_eq_add_drift
      start_eq := hPlaced.start_eq
      stop_eq := hPlaced.stop_eq
      value_eq := rfl
      within := ⟨hOrder, hPlaced.stop_le⟩
      start_boundary := hPlaced.start_boundary
      stop_boundary := hPlaced.stop_boundary
      decode_eq := by
        rw [Text.Utf8.decode_toByteArray_eq_ok_iff,
          text_replace]
        exact
          Text.bytes_replace hPlaced.start_boundary
            hPlaced.stop_boundary r.value }

/-
  Each step adds one change, and the change makes the
  replacement of that step.
-/
theorem Steps.changes_makes
    {b : β}
    {front rs : List Replacement}
    {p p' : Progress}
    {w w' : Watched β}
    (hFront : Steps {} b front p w.buffer)
    (hSteps : Steps p w rs p' w') :
    ∃ made,
      w'.changes = w.changes ++ made ∧
        made.length = rs.length ∧
          ∀ k c,
            made[k]? = some c →
              ∃ r drift,
                rs[k]? = some r ∧
                  Change.Makes b (front ++ rs.take k) r
                    drift c := by
  induction hSteps generalizing front with
  | nil => exact ⟨[], by simp⟩
  | @cons p p' w w' r rest placed hPlace hRest ih =>
      have hNext := hFront.concat hPlace
      rcases ih hNext with ⟨made, hChanges, hLength, hMade⟩
      have hThis := hFront.makes hPlace
      refine
        ⟨⟨w.buffer, placed.span, r.value⟩ :: made, ?_, ?_,
          ?_⟩
      · rw [hChanges]
        exact List.append_assoc _ _ _
      · rw [List.length_cons, List.length_cons, hLength]
      · intro k c hc
        cases k with
        | zero =>
            rcases Option.some.inj hc with rfl
            refine ⟨r, p.drift, rfl, ?_⟩
            rw [List.take_zero, List.append_nil]
            exact hThis
        | succ k =>
            rw [List.getElem?_cons_succ] at hc ⊢
            rcases hMade k c hc with
              ⟨q, drift, hq, hMakes⟩
            refine ⟨q, drift, hq, ?_⟩
            rw [List.append_assoc, List.singleton_append]
              at hMakes
            rw [List.take_succ_cons]
            exact hMakes

end Edit

end Reformat

------------------------------------------------------------
-- Drifts Within The Signed Range
------------------------------------------------------------

namespace Reformat

namespace Edit

open LawfulTextBuffer (text)

variable {β : Type}
variable [TextBuffer β] [LawfulTextBuffer β]

/-
  What a list asks for has signed sizes: the values, and every
  buffer that a replacement within bounds would leave.
-/
structure AsksSigned
    (b : β)
    (rs : List Replacement) : Prop where
  size_lt : Text.size (text b) < Word.signedLimit
  value_lt :
    ∀ r ∈ rs, Text.size r.value < Word.signedLimit
  edited_lt :
    ∀ (k : Nat) (r : Replacement) (b' : β) (drift : Int)
      (start : Nat),
      rs[k]? = some r →
        applyReplacements b (rs.take k) = (b', .ok drift) →
          (r.offset : Int) + drift = start →
            start + r.length ≤ Text.size (text b') →
              Text.size (text b') - r.length +
                  Text.size r.value <
                Word.signedLimit

/- Every buffer on the way has a signed size. -/
theorem AsksSigned.size_reached_lt
    {b b' : β}
    {rs : List Replacement}
    {k : Nat}
    {drift : Int}
    (hSigned : AsksSigned b rs)
    (hRun :
      applyReplacements b (rs.take k) = (b', .ok drift)) :
    Text.size (text b') < Word.signedLimit := by
  induction k with
  | zero =>
      have hEq : b = b' := (Prod.mk.inj hRun).1
      rw [← hEq]
      exact hSigned.size_lt
  | succ k ih =>
      rw [List.take_add_one] at hRun
      cases hr : rs[k]? with
      | none =>
          rw [hr, Option.toList_none, List.append_nil] at hRun
          exact ih hRun
      | some r =>
          rw [hr, Option.toList_some] at hRun
          rcases steps_of_applyFrom_ok hRun with
            ⟨p, hSteps, -⟩
          rcases hSteps.of_concat with
            ⟨q, m, placed, hFront, hPlace, -, rfl⟩
          have hPlaced := isPlaced_of_place hPlace
          have hStop := hPlaced.stop_eq
          have hInside := hPlaced.stop_le
          have hEdited :=
            hSigned.edited_lt k r m q.drift
              placed.span.start hr hFront.applyFrom_eq
              hPlaced.start_eq.symm (by omega)
          have hSize := hPlaced.size_replace
          unfold Replacement.gain at hSize
          omega

/-
  For a replacement within bounds both sizes are signed, and
  so is the drift after it.
-/
theorem AsksSigned.isSigned
    {b b' : β}
    {rs : List Replacement}
    {k : Nat}
    {r : Replacement}
    {drift : Int}
    {start : Nat}
    (hSigned : AsksSigned b rs)
    (hr : rs[k]? = some r)
    (hRun :
      applyReplacements b (rs.take k) = (b', .ok drift))
    (hStart : (r.offset : Int) + drift = start)
    (hStop : start + r.length ≤ Text.size (text b')) :
    r.length < Word.signedLimit ∧
      Word.IsSigned (drift + r.gain) := by
  have hReached := hSigned.size_reached_lt hRun
  have hEdited :=
    hSigned.edited_lt k r b' drift start hr hRun hStart
      hStop
  have hBegin := hSigned.size_lt
  rcases steps_of_applyFrom_ok hRun with ⟨p, hSteps, rfl⟩
  have hSize := hSteps.size_eq_add_drift
  unfold Word.IsSigned Replacement.gain
  omega

/- The drift of a replacement within bounds never fails. -/
theorem AsksSigned.drift?_eq
    {b b' : β}
    {rs : List Replacement}
    {k : Nat}
    {r : Replacement}
    {drift : Int}
    {start : Nat}
    (hSigned : AsksSigned b rs)
    (hr : rs[k]? = some r)
    (hRun :
      applyReplacements b (rs.take k) = (b', .ok drift))
    (hStart : (r.offset : Int) + drift = start)
    (hStop : start + r.length ≤ Text.size (text b')) :
    r.drift?.bind (Word.addSigned? drift) =
      some (drift + r.gain) := by
  have hValue :=
    hSigned.value_lt r (List.mem_of_getElem? hr)
  rcases hSigned.isSigned hr hRun hStart hStop with
    ⟨hLength, hRange⟩
  have hGain : r.drift? = some r.gain :=
    (r.drift?_eq_some_iff _).mpr ⟨rfl, hValue, hLength⟩
  rw [hGain, Option.bind_some]
  exact if_pos hRange

/- A buffer grows by no more than what is put into it. -/
theorem Steps.size_le
    {p p' : Progress}
    {b b' : β}
    {rs : List Replacement}
    (h : Steps p b rs p' b') :
    Text.size (text b') ≤
      Text.size (text b) + insertedSize rs := by
  induction h with
  | nil => exact Nat.le_add_right _ _
  | cons hPlace hRest ih =>
      have hSize := (isPlaced_of_place hPlace).size_replace
      unfold Replacement.gain at hSize
      unfold insertedSize
      omega

/- A value is part of what a list puts into a text. -/
theorem insertedSize_take_add_le
    {rs : List Replacement}
    {k : Nat}
    {r : Replacement}
    (hr : rs[k]? = some r) :
    insertedSize (rs.take k) + Text.size r.value ≤
      insertedSize rs := by
  induction rs generalizing k with
  | nil => cases hr
  | cons q rest ih =>
      cases k with
      | zero =>
          rcases Option.some.inj hr with rfl
          simp only [List.take_zero, insertedSize]
          omega
      | succ k =>
          have hRest := ih hr
          simp only [List.take_succ_cons, insertedSize]
          omega

/- Small texts and values ask for small buffers only. -/
theorem asksSigned_of_size_lt
    {b : β}
    {rs : List Replacement}
    (hSize :
      Text.size (text b) + insertedSize rs <
        Word.signedLimit) :
    AsksSigned b rs where
  size_lt := by omega
  value_lt := by
    intro r hr
    rcases List.mem_iff_getElem?.mp hr with ⟨k, hk⟩
    have hValue := insertedSize_take_add_le hk
    omega
  edited_lt := by
    intro k r b' drift start hr hRun hStart hStop
    have hValue := insertedSize_take_add_le hr
    rcases steps_of_applyFrom_ok hRun with ⟨p, hSteps, -⟩
    have hReached := hSteps.size_le
    omega

end Edit

end Reformat

------------------------------------------------------------
-- Whole Runs
------------------------------------------------------------

namespace Reformat

namespace Edit

open LawfulTextBuffer (text)

variable {β : Type}
variable [TextBuffer β] [LawfulTextBuffer β]

/- The offset that a replacement after some is held against. -/
def lastOffset (front : List Replacement) : Nat :=
  (front.getLast?.map Replacement.offset).getD 0

/-
  Any list of replacements on any buffer.  Every change that
  the run makes is one of whole characters within the buffer,
  the drift is the change of size after each, and adding to it
  never fails for a replacement within bounds.  A run that
  fails has made the replacements before the one that is
  refused, and no other, and that one is wrong for the buffer.
-/
theorem applyReplacements_watched
    {b : β}
    {rs : List Replacement}
    (hSigned : AsksSigned b rs) :
    let run := applyReplacements (⟨b, []⟩ : Watched β) rs
    let count := run.1.changes.length
    applyReplacements b rs = (run.1.buffer, run.2) ∧
      (∀ k c,
        run.1.changes[k]? = some c →
          ∃ r drift,
            rs[k]? = some r ∧
              Change.Makes b (rs.take k) r drift c) ∧
      (∀ drift,
        run.2 = .ok drift →
          count = rs.length ∧
            (Text.size (text run.1.buffer) : Int) =
              Text.size (text b) + drift) ∧
      (∀ e,
        run.2 = .error e →
          ∃ r drift,
            rs[count]? = some r ∧
              applyReplacements b (rs.take count) =
                (run.1.buffer, .ok drift) ∧
              (Text.size (text run.1.buffer) : Int) =
                Text.size (text b) + drift ∧
              Refuses ⟨lastOffset (rs.take count), drift⟩
                (text run.1.buffer) r e) ∧
      ∀ k r b' drift (start : Nat),
        rs[k]? = some r →
          applyReplacements b (rs.take k) =
              (b', .ok drift) →
            (r.offset : Int) + drift = start →
              start + r.length ≤ Text.size (text b') →
                r.drift?.bind (Word.addSigned? drift) =
                  some (drift + r.gain) := by
  intro run count
  have hSame :
      applyReplacements b rs = (run.1.buffer, run.2) :=
    Watched.applyFrom_eq {} ⟨b, []⟩ rs
  rcases exists_steps {} (⟨b, []⟩ : Watched β) rs with
    ⟨front, rest, p, hEq, hSteps, hOk, hError⟩
  rcases Steps.changes_makes .nil hSteps with
    ⟨made, hChanges, hLength, hMade⟩
  have hChanges : run.1.changes = made := hChanges
  have hCount : count = front.length := by
    rw [← hLength, ← hChanges]
  have hTake : rs.take count = front := by
    rw [hEq, hCount, List.take_left]
  have hRun :
      applyReplacements b front =
        (run.1.buffer, .ok p.drift) :=
    hSteps.unwatched.applyFrom_eq
  have hSize :
      (Text.size (text run.1.buffer) : Int) =
        Text.size (text b) + p.drift :=
    hSteps.unwatched.size_eq_add_drift
  refine ⟨hSame, ?_, ?_, ?_, ?_⟩
  · intro k c hc
    rw [hChanges] at hc
    rcases hMade k c hc with ⟨r, drift, hr, hMakes⟩
    rcases List.getElem?_eq_some_iff.mp hr with ⟨hLt, -⟩
    refine ⟨r, drift, ?_, ?_⟩
    · rw [hEq, List.getElem?_append_left hLt]
      exact hr
    · rw [hEq, List.take_append_of_le_length hLt.le]
      exact hMakes
  · intro drift hDrift
    rcases hOk drift hDrift with ⟨hRest, rfl⟩
    refine ⟨?_, hSize⟩
    rw [hCount, hEq, hRest, List.append_nil]
  · intro e he
    rcases hError e he with ⟨r, hHead, hRefused⟩
    have hr : rs[count]? = some r := by
      rw [hEq, hCount, List.getElem?_append_right le_rfl,
        Nat.sub_self, ← List.head?_eq_getElem?]
      exact hHead
    have hPrevious : p.previous = lastOffset front :=
      hSteps.unwatched.previous_eq
    have hProgress :
        p = ⟨lastOffset (rs.take count), p.drift⟩ := by
      rw [hTake, ← hPrevious]
    rw [← hTake] at hRun
    refine ⟨r, p.drift, hr, hRun, hSize, ?_⟩
    rw [← hProgress]
    exact
      refuses_of_place hRefused
        (hSigned.size_reached_lt hRun)
        (hSigned.value_lt r (List.mem_of_getElem? hr))
        fun start hStart hStop =>
          (hSigned.isSigned hr hRun hStart hStop).2
  · intro k r b' drift start hr hReached hStart hStop
    exact hSigned.drift?_eq hr hReached hStart hStop

/-
  A second edit that cuts into the first, and a third that
  would split what the second put there.
-/
theorem applyReplacements_watched_overlapping :
    let b : Recording := { text := "a→b" }
    let rs : List Replacement :=
      [⟨0, 1, "xyz"⟩, ⟨0, 4, "é"⟩, ⟨3, 1, ""⟩]
    let run := applyReplacements (⟨b, []⟩ : Watched _) rs
    AsksSigned b rs ∧
      run.2 = .error (.splitsCharacter 3) ∧
        run.1.changes.length = 2 ∧
          ∃ drift,
            applyReplacements b (rs.take 2) =
                (run.1.buffer, .ok drift) ∧
              (Text.size run.1.buffer.text : Int) =
                Text.size b.text + drift ∧
              Refuses ⟨0, drift⟩ run.1.buffer.text
                ⟨3, 1, ""⟩ (.splitsCharacter 3) := by
  intro b rs run
  have hSigned : AsksSigned b rs :=
    asksSigned_of_size_lt (by decide)
  have hError : run.2 = .error (.splitsCharacter 3) := by
    decide +kernel
  have hCount : run.1.changes.length = 2 := by
    decide +kernel
  rcases (applyReplacements_watched hSigned).2.2.2.1 _ hError
    with ⟨r, drift, hr, hRun, hSize, hRefuses⟩
  have hr : r = ⟨3, 1, ""⟩ := by
    rw [hCount] at hr
    exact (Option.some.inj hr).symm
  rw [hCount] at hRun hRefuses
  rw [hr] at hRefuses
  exact
    ⟨hSigned, hError, hCount, drift, hRun, hSize, hRefuses⟩

end Edit

end Reformat
