import Mathlib.Data.List.Chain
import Reformat.Proofs.Edit.Place
import Reformat.Proofs.Text.Boundary

/-
  Edits in the coordinates of the text they were made for.

  `Edit.splice` makes ascending replacements without a drift:
  it copies the original text up to each offset, puts the
  value and goes on behind the bytes taken away.  A run of
  `Edit.applyReplacements` never looks at that text again, but
  its buffer always is a part that is finished, followed by
  what the original text has from some boundary on.

  Key definitions include:
    * `Edit.Ascends`
    * `Edit.Fits`
    * `Edit.splice`
    * `Edit.fault`
    * `Edit.StaysSigned`
    * `Edit.Staged`

  Main statements:
    * `Edit.Staged.applyFrom_append`
    * `Edit.applyReplacements_of_fits`
    * `Edit.applyReplacements_of_not_fits`
    * `Edit.applyReplacements_correct`
-/

------------------------------------------------------------
-- Splices
------------------------------------------------------------

namespace Reformat

namespace Edit

/- Each replacement ends before the next one begins. -/
def Ascends (rs : List Replacement) : Prop :=
  rs.IsChain fun a b => a.stop ≤ b.offset

/- Ascent is decidable. -/
instance
    (rs : List Replacement) :
    Decidable (Ascends rs) := by
  unfold Ascends
  infer_instance

/- A replacement of whole characters of a text. -/
def Fits
    (original : String)
    (r : Replacement) : Prop :=
  r.stop ≤ Text.size original ∧
    Text.IsBoundary original r.offset ∧
    Text.IsBoundary original r.stop

/- Fitting is decidable. -/
instance
    (original : String)
    (r : Replacement) :
    Decidable (Fits original r) := by
  unfold Fits
  infer_instance

/- Make replacements behind the bytes already copied. -/
def spliceFrom
    (original : String)
    (reached : Nat) :
    List Replacement → String
  | [] => Text.dropBytes original reached
  | r :: rest =>
      Text.slice original reached r.offset ++ r.value ++
        spliceFrom original r.stop rest

/- Make replacements where they are in the original text. -/
def splice
    (original : String)
    (rs : List Replacement) : String :=
  spliceFrom original 0 rs

/-
  What is wrong with a replacement that does not fit, found
  on a buffer of some size: it reaches past the end, or the
  first of its ends that splits a character, as the buffer
  counts it.
-/
def fault
    (original : String)
    (size : Nat)
    (r : Replacement) : EditError :=
  if Text.size original < r.stop then outOfBounds size r
  else
    let splits :=
      if Text.IsBoundary original r.offset then r.stop
      else r.offset
    .splitsCharacter (splits + size - Text.size original)

/- No text on the way is too large for a signed size. -/
def StaysSigned
    (original : String)
    (rs : List Replacement) : Prop :=
  ∀ front : List Replacement,
    front <+: rs →
      (∀ r ∈ front, Fits original r) →
        Text.size (splice original front) <
          Word.signedLimit

/- The size of all that is put into a text. -/
def insertedSize : List Replacement → Nat
  | [] => 0
  | r :: rest => Text.size r.value + insertedSize rest

/- More replacements put no less into a text. -/
theorem insertedSize_le_append
    (front rest : List Replacement) :
    insertedSize front ≤ insertedSize (front ++ rest) := by
  induction front with
  | nil => exact Nat.zero_le _
  | cons r front ih =>
      rw [List.cons_append]
      unfold insertedSize
      exact Nat.add_le_add_left ih _

/- A splice is no larger than the text and all values. -/
theorem size_spliceFrom_le
    {original : String}
    {reached : Nat}
    {rs : List Replacement}
    (hReached : Text.IsBoundary original reached)
    (hFirst : ∀ r ∈ rs.head?, reached ≤ r.offset)
    (hAscends : Ascends rs)
    (hFits : ∀ r ∈ rs, Fits original r) :
    reached + Text.size (spliceFrom original reached rs) ≤
      Text.size original + insertedSize rs := by
  induction rs generalizing reached with
  | nil =>
      have hSize := Text.add_size_dropBytes hReached
      simp [spliceFrom, insertedSize, hSize]
  | cons r rest ih =>
      rcases List.isChain_cons.mp hAscends with
        ⟨hNext, hRest⟩
      rcases hFits r (by simp) with ⟨-, hOffset, hStop⟩
      have hLe : reached ≤ r.offset := hFirst r (by simp)
      have hSlice := Text.size_slice hReached hOffset hLe
      have hTail :=
        ih hStop hNext hRest fun q hq =>
          hFits q (by simp [hq])
      simp only [spliceFrom, insertedSize, Text.size,
        String.utf8ByteSize_append] at hSlice hTail ⊢
      have hStopEq : r.stop = r.offset + r.length := rfl
      omega

/- Small texts and values stay small when spliced. -/
theorem staysSigned_of_size_lt
    {original : String}
    {rs : List Replacement}
    (hAscends : Ascends rs)
    (hSize :
      Text.size original + insertedSize rs <
        Word.signedLimit) :
    StaysSigned original rs := by
  intro front hPrefix hFits
  rcases hPrefix with ⟨rest, rfl⟩
  have hLe :=
    size_spliceFrom_le (Text.isBoundary_zero original)
      (fun _ _ => Nat.zero_le _)
      (List.IsChain.left_of_append hAscends) hFits
  have hMore := insertedSize_le_append front rest
  unfold splice
  omega

end Edit

end Reformat

------------------------------------------------------------
-- Staged Buffers
------------------------------------------------------------

namespace Reformat

namespace Edit

open LawfulTextBuffer (text text_replace)

variable {β : Type}
variable [TextBuffer β] [LawfulTextBuffer β]

/-
  A buffer in the middle of a run.  Its text is `made` and the
  original text after `reached`, and the drift is the distance
  from there to the end of what is made.
-/
structure Staged
    (original : String)
    (made : String)
    (reached : Nat)
    (p : Progress)
    (b : β) : Prop where
  boundary : Text.IsBoundary original reached
  text_eq :
    text b = made ++ Text.dropBytes original reached
  drift_eq : (Text.size made : Int) = reached + p.drift
  previous_le : p.previous ≤ reached

/- A run starts with nothing made. -/
theorem Staged.init (b : β) :
    Staged (text b) "" 0 {} b where
  boundary := Text.isBoundary_zero _
  text_eq := by simp
  drift_eq := by simp
  previous_le := Nat.le_refl _

namespace Staged

variable {original made : String}
variable {reached : Nat}
variable {p : Progress}
variable {b : β}

/- The sizes of the buffer and the original text. -/
theorem size_add
    (h : Staged original made reached p b) :
    Text.size (text b) + reached =
      Text.size made + Text.size original := by
  have hRest := Text.add_size_dropBytes h.boundary
  simp only [h.text_eq, Text.size,
    String.utf8ByteSize_append] at hRest ⊢
  omega

/- The drift is the change of size so far. -/
theorem drift_eq_sub
    (h : Staged original made reached p b) :
    p.drift =
      (Text.size (text b) : Int) - Text.size original := by
  have hSize := h.size_add
  have hDrift := h.drift_eq
  omega

/- Where an offset that is still to come stands now. -/
theorem offset_add_drift
    (h : Staged original made reached p b)
    {q : Nat}
    (hle : reached ≤ q) :
    (q : Int) + p.drift =
      (Text.size made + (q - reached) : Nat) := by
  have hDrift := h.drift_eq
  omega

/- Boundaries still to come are where they were, moved. -/
theorem isBoundary_iff
    (h : Staged original made reached p b)
    {q : Nat}
    (hle : reached ≤ q) :
    Text.IsBoundary (text b)
        (Text.size made + (q - reached)) ↔
      Text.IsBoundary original q := by
  rw [h.text_eq, Text.isBoundary_append_add,
    Text.isBoundary_dropBytes h.boundary hle]

/-
  A replacement that fits is made, and what it puts there joins
  the part that is finished.
-/
theorem replace
    (h : Staged original made reached p b)
    {r : Replacement}
    (hFirst : reached ≤ r.offset)
    (hFits : Fits original r) :
    Staged original
      (made ++
        (Text.slice original reached r.offset ++ r.value))
      r.stop ⟨r.offset, p.drift + r.gain⟩
      (TextBuffer.replace b
        ⟨Text.size made + (r.offset - reached),
          Text.size made + (r.offset - reached) + r.length⟩
        r.value) := by
  rcases hFits with ⟨-, hOffset, hStop⟩
  have hLe : r.offset ≤ r.stop := Nat.le_add_right _ _
  let copied := Text.slice original reached r.offset
  let removed := Text.slice original r.offset r.stop
  have hCopied :
      Text.size copied = r.offset - reached :=
    Text.size_slice h.boundary hOffset hFirst
  have hRemoved : Text.size removed = r.length := by
    have hSize := Text.size_slice hOffset hStop hLe
    rw [hSize]
    exact Nat.add_sub_cancel_left r.offset r.length
  have hText :
      text b =
        made ++ copied ++ removed ++
          Text.dropBytes original r.stop := by
    rw [h.text_eq,
      ← Text.slice_append_dropBytes h.boundary hOffset
        hFirst,
      ← Text.slice_append_dropBytes hOffset hStop hLe]
    simp only [copied, removed, String.append_assoc]
  have hFront :
      Text.size made + (r.offset - reached) =
        Text.size (made ++ copied) := by
    rw [← hCopied]
    exact String.utf8ByteSize_append.symm
  refine ⟨hStop, ?_, ?_, hLe⟩
  · rw [text_replace, hText, hFront, ← hRemoved,
      Text.replace_append]
    simp only [copied, String.append_assoc]
  · have hDrift := h.drift_eq
    have hStopEq : r.stop = r.offset + r.length := rfl
    simp only [Text.size, String.utf8ByteSize_append,
      Replacement.gain, copied] at hCopied hDrift ⊢
    omega

/- What fits the original text is placed in the buffer. -/
theorem place_of_fits
    (h : Staged original made reached p b)
    {r : Replacement}
    (hFirst : reached ≤ r.offset)
    (hFits : Fits original r)
    (hOriginal : Text.size original < Word.signedLimit)
    (hSize : Text.size (text b) < Word.signedLimit)
    (hMade :
      Text.size
          (made ++
            (Text.slice original reached r.offset ++
              r.value)) <
        Word.signedLimit) :
    place p b r =
      .ok
        ⟨⟨Text.size made + (r.offset - reached),
            Text.size made + (r.offset - reached) +
              r.length⟩,
          ⟨r.offset, p.drift + r.gain⟩⟩ := by
  have hNext :
      (Text.size
          (made ++
            (Text.slice original reached r.offset ++
              r.value)) : Int) =
        r.stop + (p.drift + r.gain) :=
    (h.replace hFirst hFits).drift_eq
  rcases hFits with ⟨hStop, hOffset, hLast⟩
  have hAdd := h.size_add
  have hStopEq : r.stop = r.offset + r.length := rfl
  have hEnd :
      Text.size made + (r.offset - reached) + r.length =
        Text.size made + (r.stop - reached) := by
    omega
  apply place_of_inside
  · exact Nat.le_trans h.previous_le hFirst
  · exact h.offset_add_drift hFirst
  · omega
  · exact hSize
  · exact (h.isBoundary_iff hFirst).mpr hOffset
  · rw [hEnd]
    exact (h.isBoundary_iff (by omega)).mpr hLast
  · simp only [Text.size, String.utf8ByteSize_append]
      at hMade ⊢
    omega
  · constructor <;> omega

/- What does not fit the original text is refused. -/
theorem place_of_not_fits
    (h : Staged original made reached p b)
    {r : Replacement}
    (hFirst : reached ≤ r.offset)
    (hNot : ¬ Fits original r)
    (hSize : Text.size (text b) < Word.signedLimit) :
    place p b r =
      .error (fault original (Text.size (text b)) r) := by
  have hOrder : p.previous ≤ r.offset :=
    Nat.le_trans h.previous_le hFirst
  have hLimit : Word.signedLimit < Word.limit := by decide
  have hStart := h.offset_add_drift hFirst
  have hAdd := h.size_add
  have hStopEq : r.stop = r.offset + r.length := rfl
  have hReached := Text.IsBoundary.le_size h.boundary
  unfold fault
  by_cases hPast : Text.size original < r.stop
  · rw [if_pos hPast]
    apply place_of_outside hOrder
    intro start hEq
    omega
  · have hInside :
        Text.size made + (r.offset - reached) + r.length ≤
          Text.size (text b) := by
      omega
    rw [if_neg hPast]
    by_cases hOffset : Text.IsBoundary original r.offset
    · have hLast : ¬ Text.IsBoundary original r.stop :=
        fun hLast =>
          hNot ⟨Nat.le_of_not_lt hPast, hOffset, hLast⟩
      have hEnd :
          Text.size made + (r.offset - reached) +
              r.length =
            Text.size made + (r.stop - reached) := by
        omega
      have hSplits :
          ¬ Text.IsBoundary (text b)
            (Text.size made + (r.offset - reached) +
              r.length) := by
        rw [hEnd, h.isBoundary_iff (by omega)]
        exact hLast
      have hPlace :
          r.stop + Text.size (text b) -
              Text.size original =
            Text.size made + (r.offset - reached) +
              r.length := by
        omega
      simp only [hOffset, if_true]
      rw [hPlace]
      exact
        place_of_splits_stop hOrder hStart hInside
          (Nat.lt_trans hSize hLimit)
          ((h.isBoundary_iff hFirst).mpr hOffset) hSplits
    · have hPlace :
          r.offset + Text.size (text b) -
              Text.size original =
            Text.size made + (r.offset - reached) := by
        omega
      simp only [hOffset, if_false]
      rw [hPlace]
      apply
        place_of_splits_start hOrder hStart hInside
          (Nat.lt_trans hSize hLimit)
      rw [h.isBoundary_iff hFirst]
      exact hOffset

/-
  A run makes the replacements in front that fit and goes on
  with the others from a staged buffer.
-/
theorem applyFrom_append
    {front rest : List Replacement}
    (h : Staged original made reached p b)
    (hFirst :
      ∀ r ∈ (front ++ rest).head?, reached ≤ r.offset)
    (hAscends : Ascends (front ++ rest))
    (hFits : ∀ r ∈ front, Fits original r)
    (hOriginal : Text.size original < Word.signedLimit)
    (hSigned :
      ∀ part : List Replacement,
        part <+: front →
          Text.size
              (made ++ spliceFrom original reached part) <
            Word.signedLimit) :
    ∃ (made' : String) (reached' : Nat) (p' : Progress)
      (b' : β),
      Staged original made' reached' p' b' ∧
        applyFrom p b (front ++ rest) =
          applyFrom p' b' rest ∧
        text b' =
          made ++ spliceFrom original reached front ∧
        ∀ r ∈ rest.head?, reached' ≤ r.offset := by
  induction front generalizing made reached p b with
  | nil =>
      exact
        ⟨made, reached, p, b, h, rfl, h.text_eq, hFirst⟩
  | cons r front ih =>
      have hOffset : reached ≤ r.offset := hFirst r (by simp)
      have hFit := hFits r (by simp)
      rcases List.isChain_cons.mp hAscends with
        ⟨hNext, hRest⟩
      have hSize : Text.size (text b) < Word.signedLimit := by
        rw [h.text_eq]
        exact hSigned [] (by simp)
      have hMade := hSigned [r] (by simp)
      have hPlace :=
        h.place_of_fits hOffset hFit hOriginal hSize (by
          simp only [spliceFrom, Text.size,
            String.utf8ByteSize_append] at hMade ⊢
          omega)
      have hStep := h.replace hOffset hFit
      have hTail :
          ∀ part : List Replacement,
            part <+: front →
              Text.size
                  (made ++
                      (Text.slice original reached
                          r.offset ++ r.value) ++
                    spliceFrom original r.stop part) <
                Word.signedLimit := by
        intro part hPart
        have hLong :=
          hSigned (r :: part)
            (List.cons_prefix_cons.mpr ⟨rfl, hPart⟩)
        simpa only [spliceFrom, String.append_assoc]
          using hLong
      rcases ih hStep hNext hRest
          (fun q hq => hFits q (by simp [hq])) hTail with
        ⟨made', reached', p', b', hStaged, hRun, hText, hHead⟩
      refine
        ⟨made', reached', p', b', hStaged, ?_, ?_, hHead⟩
      · rw [← hRun]
        simp only [List.cons_append, applyFrom, hPlace]
      · rw [hText]
        simp only [spliceFrom, String.append_assoc]

end Staged

end Edit

end Reformat

------------------------------------------------------------
-- Whole Runs
------------------------------------------------------------

namespace Reformat

namespace Edit

open LawfulTextBuffer (text)

section Lawful

variable {β : Type}
variable [TextBuffer β] [LawfulTextBuffer β]

/- A run from the start makes the replacements that fit. -/
theorem exists_staged_of_fits
    (b : β)
    {front rest : List Replacement}
    (hAscends : Ascends (front ++ rest))
    (hSigned : StaysSigned (text b) (front ++ rest))
    (hFits : ∀ r ∈ front, Fits (text b) r) :
    ∃ (made : String) (reached : Nat) (p : Progress)
      (b' : β),
      Staged (text b) made reached p b' ∧
        applyReplacements b (front ++ rest) =
          applyFrom p b' rest ∧
        text b' = splice (text b) front ∧
        ∀ r ∈ rest.head?, reached ≤ r.offset := by
  have hPart :
      ∀ part : List Replacement,
        part <+: front →
          Text.size (splice (text b) part) <
            Word.signedLimit := by
    intro part hPrefix
    apply hSigned part (hPrefix.trans (by simp))
    intro r hr
    exact hFits r (hPrefix.subset hr)
  have hOriginal :
      Text.size (text b) < Word.signedLimit := by
    simpa [splice, spliceFrom] using hPart [] (by simp)
  rcases (Staged.init b).applyFrom_append
      (fun _ _ => Nat.zero_le _) hAscends hFits hOriginal
      (by simpa [splice] using hPart) with
    ⟨made, reached, p, b', hStaged, hRun, hText, hHead⟩
  rw [String.empty_append] at hText
  exact
    ⟨made, reached, p, b', hStaged, hRun, hText, hHead⟩

/- A list of replacements that all fit gives the splice. -/
theorem applyReplacements_of_fits
    (b : β)
    {rs : List Replacement}
    (hAscends : Ascends rs)
    (hSigned : StaysSigned (text b) rs)
    (hFits : ∀ r ∈ rs, Fits (text b) r) :
    text (applyReplacements b rs).1 = splice (text b) rs ∧
      (applyReplacements b rs).2 =
        .ok
          ((Text.size (splice (text b) rs) : Int) -
            Text.size (text b)) := by
  rw [← List.append_nil rs] at hAscends hSigned
  rcases exists_staged_of_fits b hAscends hSigned hFits with
    ⟨made, reached, p, b', hStaged, hRun, hText, -⟩
  rw [List.append_nil] at hRun
  rw [hRun, ← hText, ← hStaged.drift_eq_sub]
  exact ⟨rfl, rfl⟩

/- The first replacement that does not fit ends the run. -/
theorem applyReplacements_of_not_fits
    (b : β)
    {front rest : List Replacement}
    {r : Replacement}
    (hAscends : Ascends (front ++ r :: rest))
    (hSigned : StaysSigned (text b) (front ++ r :: rest))
    (hFits : ∀ q ∈ front, Fits (text b) q)
    (hNot : ¬ Fits (text b) r) :
    text (applyReplacements b (front ++ r :: rest)).1 =
        splice (text b) front ∧
      (applyReplacements b (front ++ r :: rest)).2 =
        .error
          (fault (text b)
            (Text.size (splice (text b) front)) r) := by
  rcases exists_staged_of_fits b hAscends hSigned hFits with
    ⟨made, reached, p, b', hStaged, hRun, hText, hHead⟩
  have hSize : Text.size (text b') < Word.signedLimit := by
    rw [hText]
    exact hSigned front (by simp) hFits
  have hPlace :=
    hStaged.place_of_not_fits (hHead r (by simp)) hNot hSize
  rw [hRun, ← hText]
  simp only [applyFrom, hPlace, and_self]

end Lawful

/- A list that does not fit has a first one that does not. -/
theorem exists_first_not_fits
    {original : String}
    {rs : List Replacement}
    (hNot : ∃ r ∈ rs, ¬ Fits original r) :
    ∃ (front : List Replacement) (r : Replacement)
      (rest : List Replacement),
      rs = front ++ r :: rest ∧
        (∀ q ∈ front, Fits original q) ∧
          ¬ Fits original r := by
  let bad := fun r => decide (¬ Fits original r)
  rcases hNot with ⟨q, hq, hBad⟩
  cases hFind : rs.find? bad with
  | none =>
      have hGood := List.find?_eq_none.mp hFind q hq
      simp [bad, hBad] at hGood
  | some r =>
      rcases List.find?_eq_some_iff_append.mp hFind with
        ⟨hr, front, rest, hEq, hFront⟩
      have hBad : ¬ Fits original r := by
        simpa [bad] using hr
      refine ⟨front, r, rest, hEq, ?_, hBad⟩
      intro q hq
      simpa [bad] using hFront q hq

/-
  Ascending replacements on a plain text.  The run succeeds if
  and only if all fit the original text; then it leaves the
  splice and answers the change of size.  Otherwise it ends at
  the first one that does not fit and leaves the splice of
  those before it.
-/
theorem applyReplacements_correct
    (b : Recording)
    (rs : List Replacement)
    (hAscends : Ascends rs)
    (hSigned : StaysSigned b.text rs) :
    ((∃ drift, (applyReplacements b rs).2 = .ok drift) ↔
        ∀ r ∈ rs, Fits b.text r) ∧
      (∀ drift,
        (applyReplacements b rs).2 = .ok drift →
          (applyReplacements b rs).1.text =
              splice b.text rs ∧
            drift =
              (Text.size (applyReplacements b rs).1.text :
                  Int) -
                Text.size b.text) ∧
      ∀ front r rest,
        rs = front ++ r :: rest →
          (∀ q ∈ front, Fits b.text q) →
            ¬ Fits b.text r →
              (applyReplacements b rs).1.text =
                  splice b.text front ∧
                (applyReplacements b rs).2 =
                  .error
                    (fault b.text
                      (Text.size (splice b.text front))
                      r) := by
  have hStops :
      ∀ front r rest,
        rs = front ++ r :: rest →
          (∀ q ∈ front, Fits b.text q) →
            ¬ Fits b.text r →
              (applyReplacements b rs).1.text =
                  splice b.text front ∧
                (applyReplacements b rs).2 =
                  .error
                    (fault b.text
                      (Text.size (splice b.text front))
                      r) := by
    intro front r rest hEq hFits hNot
    subst hEq
    exact
      applyReplacements_of_not_fits b hAscends hSigned
        hFits hNot
  have hSucceeds :
      (∃ drift, (applyReplacements b rs).2 = .ok drift) ↔
        ∀ r ∈ rs, Fits b.text r := by
    constructor
    · intro hRun
      rcases hRun with ⟨drift, hOk⟩
      by_contra hNot
      push Not at hNot
      rcases exists_first_not_fits hNot with
        ⟨front, r, rest, hEq, hFits, hFirst⟩
      have hError := (hStops front r rest hEq hFits hFirst).2
      rw [hOk] at hError
      simp at hError
    · intro hFits
      exact
        ⟨_,
          (applyReplacements_of_fits b hAscends hSigned
            hFits).2⟩
  refine ⟨hSucceeds, ?_, hStops⟩
  intro drift hOk
  rcases applyReplacements_of_fits b hAscends hSigned
      (hSucceeds.mp ⟨drift, hOk⟩) with
    ⟨hText, hDrift⟩
  refine ⟨hText, ?_⟩
  rw [hOk, Except.ok.injEq] at hDrift
  rw [hDrift]
  exact congrArg (fun s => (Text.size s : Int) - _) hText.symm

/-
  An edit that grows the text, one between two characters and
  one that would split the arrow.
-/
theorem applyReplacements_correct_at_arrow :
    let b : Recording := { text := "a→b" }
    let front : List Replacement :=
      [⟨0, 1, "xy"⟩, ⟨1, 0, "é"⟩]
    let rs := front ++ [⟨2, 1, ""⟩]
    Ascends rs ∧
      StaysSigned b.text rs ∧
        (applyReplacements b rs).1.text = "xyé→b" ∧
          (applyReplacements b rs).2 =
            .error (.splitsCharacter 5) := by
  intro b front rs
  have hAscends : Ascends rs := by decide
  have hSigned : StaysSigned b.text rs :=
    staysSigned_of_size_lt hAscends (by decide)
  rcases (applyReplacements_correct b rs hAscends
      hSigned).2.2 front ⟨2, 1, ""⟩ [] rfl
      (by decide) (by decide) with
    ⟨hText, hError⟩
  refine ⟨hAscends, hSigned, ?_, ?_⟩
  · rw [hText]
    decide
  · rw [hError]
    decide

end Edit

end Reformat
