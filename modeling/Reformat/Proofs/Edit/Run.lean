import Reformat.Proofs.Edit.Place
import Reformat.Proofs.Text.Bytes

/-
  Runs over a list of replacements, step by step.

  A run makes one replacement after the other as long as each
  of them is placed.  Whatever the list is, a replacement that
  is placed lies within the buffer and between characters, and
  the drift stays the change of size so far.

  Key definitions include:
    * `Edit.IsPlaced`
    * `Edit.Refuses`
    * `Edit.Steps`

  Main statements:
    * `Edit.isPlaced_of_place`, `Edit.refuses_of_place`
    * `Edit.Steps.size_eq_add_drift`
    * `Edit.exists_steps`
-/

------------------------------------------------------------
-- Placed Replacements
------------------------------------------------------------

namespace Reformat

namespace Edit

open LawfulTextBuffer (text size_eq isBoundary_eq text_replace)

variable {β : Type}
variable [TextBuffer β] [LawfulTextBuffer β]

/- All that is known of a replacement that passed. -/
structure IsPlaced
    (p : Progress)
    (s : String)
    (r : Replacement)
    (placed : Placed) : Prop where
  ordered : p.previous ≤ r.offset
  start_eq : (placed.span.start : Int) = r.offset + p.drift
  stop_eq : placed.span.stop = placed.span.start + r.length
  stop_le : placed.span.stop ≤ Text.size s
  start_boundary : Text.IsBoundary s placed.span.start
  stop_boundary : Text.IsBoundary s placed.span.stop
  next_eq : placed.next = ⟨r.offset, p.drift + r.gain⟩

/- A replacement passes only when every check does. -/
theorem isPlaced_of_place
    {p : Progress}
    {b : β}
    {r : Replacement}
    {placed : Placed}
    (h : place p b r = .ok placed) :
    IsPlaced p (text b) r placed := by
  simp only [place, size_eq, isBoundary_eq] at h
  split at h
  · cases h
  · next hOrder =>
    split at h
    · cases h
    · next start hShift =>
      rcases (Word.shift?_eq_some_iff _ _ _).mp hShift with
        ⟨hStart, -⟩
      split at h
      · cases h
      · next stop hAdd =>
        rcases (Word.add?_eq_some_iff _ _ _).mp hAdd with
          ⟨hStop, -⟩
        split at h
        · cases h
        · next hInside =>
          split at h
          · cases h
          · next hFirst =>
            split at h
            · cases h
            · next hLast =>
              split at h
              · cases h
              · next drift hDrift =>
                rcases Option.bind_eq_some_iff.mp hDrift with
                  ⟨gain, hGain, hSum⟩
                have hGain :=
                  ((r.drift?_eq_some_iff _).mp hGain).1
                have hSum : p.drift + gain = drift := by
                  simpa [Word.addSigned?] using
                    (Option.ite_none_right_eq_some.mp hSum).2
                cases h
                exact
                  { ordered := Nat.le_of_not_lt hOrder
                    start_eq := hStart.symm
                    stop_eq := hStop.symm
                    stop_le := Nat.le_of_not_lt hInside
                    start_boundary := by simpa using hFirst
                    stop_boundary := by simpa using hLast
                    next_eq := by rw [← hSum, hGain] }

/- A replacement that is made changes the size by its gain. -/
theorem IsPlaced.size_replace
    {p : Progress}
    {b : β}
    {r : Replacement}
    {placed : Placed}
    (h : IsPlaced p (text b) r placed) :
    (Text.size
        (text
          (TextBuffer.replace b placed.span r.value)) : Int) =
      Text.size (text b) + r.gain := by
  have hSize :=
    Text.size_replace h.start_boundary h.stop_boundary
      r.value
  have hStop := h.stop_eq
  rw [text_replace]
  unfold Replacement.gain
  omega

end Edit

end Reformat

------------------------------------------------------------
-- Refused Replacements
------------------------------------------------------------

namespace Reformat

namespace Edit

open LawfulTextBuffer (text)

/- A replacement that is wrong for a text, and the error. -/
inductive Refuses
    (p : Progress)
    (s : String)
    (r : Replacement) :
    EditError → Prop
  | unordered
      (hOrder : r.offset < p.previous) :
      Refuses p s r (.unordered r.offset p.previous)
  | outside
      (hOutside :
        ∀ start : Nat,
          (r.offset : Int) + p.drift = start →
            Text.size s < start + r.length) :
      Refuses p s r (outOfBounds (Text.size s) r)
  | splits
      {start offset : Nat}
      (hStart : (r.offset : Int) + p.drift = start)
      (hStop : start + r.length ≤ Text.size s)
      (hEnd : offset = start ∨ offset = start + r.length)
      (hSplits : ¬ Text.IsBoundary s offset) :
      Refuses p s r (.splitsCharacter offset)

/-
  A replacement is refused only when it is wrong, if the
  drift can be taken further whenever it lies within bounds.
-/
theorem refuses_of_place
    {β : Type}
    [TextBuffer β] [LawfulTextBuffer β]
    {p : Progress}
    {b : β}
    {r : Replacement}
    {e : EditError}
    (h : place p b r = .error e)
    (hSize : Text.size (text b) < Word.signedLimit)
    (hValue : Text.size r.value < Word.signedLimit)
    (hDrift :
      ∀ start : Nat,
        (r.offset : Int) + p.drift = start →
          start + r.length ≤ Text.size (text b) →
            Word.IsSigned (p.drift + r.gain)) :
    Refuses p (text b) r e := by
  have hLimit : Text.size (text b) < Word.limit :=
    Nat.lt_trans hSize (by decide)
  by_cases hOrder : r.offset < p.previous
  · rw [place_of_unordered hOrder] at h
    cases h
    exact .unordered hOrder
  have hOrder : p.previous ≤ r.offset :=
    Nat.le_of_not_lt hOrder
  by_cases hOutside :
      ∀ start : Nat,
        (r.offset : Int) + p.drift = start →
          Text.size (text b) < start + r.length
  · rw [place_of_outside hOrder hOutside] at h
    cases h
    exact .outside hOutside
  rcases Classical.not_forall.mp hOutside with ⟨start, hIn⟩
  rcases Classical.not_imp.mp hIn with ⟨hStart, hIn⟩
  have hStop : start + r.length ≤ Text.size (text b) :=
    Nat.le_of_not_lt hIn
  by_cases hFirst : Text.IsBoundary (text b) start
  · by_cases hLast :
        Text.IsBoundary (text b) (start + r.length)
    · rw [place_of_inside hOrder hStart hStop hSize hFirst
          hLast hValue (hDrift start hStart hStop)] at h
      cases h
    · rw [place_of_splits_stop hOrder hStart hStop hLimit
          hFirst hLast] at h
      cases h
      exact .splits hStart hStop (Or.inr rfl) hLast
  · rw [place_of_splits_start hOrder hStart hStop hLimit
        hFirst] at h
    cases h
    exact .splits hStart hStop (Or.inl rfl) hFirst

end Edit

end Reformat

------------------------------------------------------------
-- Steps
------------------------------------------------------------

namespace Reformat

namespace Edit

open LawfulTextBuffer (text)

variable {β : Type}
variable [TextBuffer β]

/- Each replacement of a list is placed and made in turn. -/
inductive Steps :
    Progress → β → List Replacement →
      Progress → β → Prop
  | nil
      {p : Progress}
      {b : β} :
      Steps p b [] p b
  | cons
      {p p' : Progress}
      {b b' : β}
      {r : Replacement}
      {rest : List Replacement}
      {placed : Placed}
      (hPlace : place p b r = .ok placed)
      (hRest :
        Steps placed.next
          (TextBuffer.replace b placed.span r.value) rest
          p' b') :
      Steps p b (r :: rest) p' b'

namespace Steps

variable {p p' : Progress}
variable {b b' : β}
variable {front : List Replacement}

/- A run goes on from where the steps have led. -/
theorem applyFrom_append
    (h : Steps p b front p' b')
    (rest : List Replacement) :
    applyFrom p b (front ++ rest) =
      applyFrom p' b' rest := by
  induction h with
  | nil => rfl
  | cons hPlace hRest ih =>
      rw [← ih, List.cons_append]
      simp only [applyFrom, hPlace]

/- Steps over a whole list are a run that succeeds. -/
theorem applyFrom_eq
    (h : Steps p b front p' b') :
    applyFrom p b front = (b', .ok p'.drift) := by
  have hRun := h.applyFrom_append []
  rw [List.append_nil] at hRun
  exact hRun

/- Steps go on where others have led. -/
theorem concat
    {r : Replacement}
    {placed : Placed}
    (h : Steps p b front p' b')
    (hPlace : place p' b' r = .ok placed) :
    Steps p b (front ++ [r]) placed.next
      (TextBuffer.replace b' placed.span r.value) := by
  induction h with
  | nil => exact .cons hPlace .nil
  | cons hFirst hRest ih => exact .cons hFirst (ih hPlace)

/- The last step starts where the others have led. -/
theorem of_concat
    {r : Replacement}
    (h : Steps p b (front ++ [r]) p' b') :
    ∃ q m placed,
      Steps p b front q m ∧
        place q m r = .ok placed ∧
          p' = placed.next ∧
            b' = TextBuffer.replace m placed.span r.value := by
  induction front generalizing p b with
  | nil =>
      cases h with
      | cons hPlace hRest =>
          cases hRest
          exact ⟨p, b, _, .nil, hPlace, rfl, rfl⟩
  | cons first front ih =>
      cases h with
      | cons hPlace hRest =>
          rcases ih hRest with
            ⟨q, m, placed, hFront, hLast⟩
          exact ⟨q, m, placed, .cons hPlace hFront, hLast⟩

/- The drift grows by the change of size. -/
theorem size_sub_drift
    [LawfulTextBuffer β]
    (h : Steps p b front p' b') :
    (Text.size (text b') : Int) - p'.drift =
      Text.size (text b) - p.drift := by
  induction h with
  | nil => rfl
  | @cons p p' b b' r rest placed hPlace hRest ih =>
      have hPlaced := isPlaced_of_place hPlace
      have hSize := hPlaced.size_replace
      have hDrift :
          placed.next.drift = p.drift + r.gain :=
        congrArg Progress.drift hPlaced.next_eq
      omega

/- The next replacement is held against the last offset. -/
theorem previous_eq
    [LawfulTextBuffer β]
    (h : Steps p b front p' b') :
    p'.previous =
      (front.getLast?.map Replacement.offset).getD
        p.previous := by
  induction h with
  | nil => rfl
  | @cons p p' b b' r rest placed hPlace hRest ih =>
      have hNext : placed.next.previous = r.offset :=
        congrArg Progress.previous
          (isPlaced_of_place hPlace).next_eq
      rw [ih, hNext, List.getLast?_cons]
      cases rest.getLast? with
      | none => rfl
      | some q => rfl

/- The drift of a run is the change of size so far. -/
theorem size_eq_add_drift
    [LawfulTextBuffer β]
    (h : Steps {} b front p' b') :
    (Text.size (text b') : Int) =
      Text.size (text b) + p'.drift := by
  have hDrift : ({} : Progress).drift = 0 := rfl
  have hSize := h.size_sub_drift
  omega

end Steps

/- A run that succeeds has made every step. -/
theorem steps_of_applyFrom_ok
    {p : Progress}
    {b b' : β}
    {rs : List Replacement}
    {drift : Int}
    (h : applyFrom p b rs = (b', .ok drift)) :
    ∃ p', Steps p b rs p' b' ∧ p'.drift = drift := by
  induction rs generalizing p b with
  | nil =>
      rcases Prod.mk.inj h with ⟨rfl, hDrift⟩
      exact ⟨p, .nil, Except.ok.inj hDrift⟩
  | cons r rest ih =>
      cases hPlace : place p b r with
      | error e =>
          simp only [applyFrom, hPlace] at h
          cases (Prod.mk.inj h).2
      | ok placed =>
          simp only [applyFrom, hPlace] at h
          rcases ih h with ⟨p', hRest, hDrift⟩
          exact ⟨p', .cons hPlace hRest, hDrift⟩

/-
  A run that fails has made the steps before the replacement
  that is refused, and no other.
-/
theorem steps_of_applyFrom_error
    {p : Progress}
    {b b' : β}
    {rs : List Replacement}
    {e : EditError}
    (h : applyFrom p b rs = (b', .error e)) :
    ∃ front r rest p',
      rs = front ++ r :: rest ∧
        Steps p b front p' b' ∧
          place p' b' r = .error e := by
  induction rs generalizing p b with
  | nil => cases (Prod.mk.inj h).2
  | cons r rest ih =>
      cases hPlace : place p b r with
      | error e' =>
          simp only [applyFrom, hPlace] at h
          rcases Prod.mk.inj h with ⟨rfl, hError⟩
          cases hError
          exact ⟨[], r, rest, p, rfl, .nil, hPlace⟩
      | ok placed =>
          simp only [applyFrom, hPlace] at h
          rcases ih h with
            ⟨front, q, after, p', rfl, hFront, hRefused⟩
          exact
            ⟨r :: front, q, after, p', rfl,
              .cons hPlace hFront, hRefused⟩

/-
  Every run is made of steps over the front of its list.  All
  of the list is in front when the run succeeds, and else what
  is left begins with the replacement that is refused.
-/
theorem exists_steps
    (p : Progress)
    (b : β)
    (rs : List Replacement) :
    ∃ front rest p',
      rs = front ++ rest ∧
        Steps p b front p' (applyFrom p b rs).1 ∧
        (∀ drift,
          (applyFrom p b rs).2 = .ok drift →
            rest = [] ∧ p'.drift = drift) ∧
        ∀ e,
          (applyFrom p b rs).2 = .error e →
            ∃ r,
              rest.head? = some r ∧
                place p' (applyFrom p b rs).1 r =
                  .error e := by
  rcases hRun : applyFrom p b rs with ⟨b', outcome⟩
  cases outcome with
  | ok drift =>
      rcases steps_of_applyFrom_ok hRun with
        ⟨p', hSteps, hDrift⟩
      refine
        ⟨rs, [], p', (List.append_nil rs).symm, hSteps, ?_,
          ?_⟩
      · intro drift' hOk
        rw [← Except.ok.inj hOk]
        exact ⟨rfl, hDrift⟩
      · intro e hError
        cases hError
  | error e =>
      rcases steps_of_applyFrom_error hRun with
        ⟨front, r, rest, p', hEq, hSteps, hRefused⟩
      refine ⟨front, r :: rest, p', hEq, hSteps, ?_, ?_⟩
      · intro drift hOk
        cases hOk
      · intro e' hError
        rw [← Except.error.inj hError]
        exact ⟨r, rfl, hRefused⟩

end Edit

end Reformat
