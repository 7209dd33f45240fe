import Reformat.Text.Affix
import Reformat.Text.Blank
import Reformat.Text.WordChar

/-
  Runs of characters of one class.

  Readers take the longest run of a class, or all up to a
  mark.  Here is what they take when a text is given by its
  parts, and the parts when it is known what was taken.

  Key definitions include:
    * `Text.codes`

  Main statements:
    * `Text.takeWhile_run`, `Text.dropWhile_run`
    * `Text.stretch_run`, `Text.eq_of_stretch`
    * `Text.forall_inRanges`
-/

------------------------------------------------------------
-- Longest Runs
------------------------------------------------------------

namespace Reformat

namespace Text

variable {p : Char → Bool}
variable {run rest : List Char}

/- A run is taken whole when the class ends after it. -/
theorem takeWhile_run
    (hRun : ∀ c ∈ run, p c = true)
    (hEnd : ∀ c ∈ rest.head?, p c = false) :
    (run ++ rest).takeWhile p = run := by
  rw [List.takeWhile_append_of_pos hRun]
  cases rest with
  | nil => simp
  | cons c rest =>
      have hc : ¬ p c = true := by
        simp [hEnd c (by simp)]
      rw [List.takeWhile_cons_of_neg hc, List.append_nil]

/- What follows a run is left when the class ends there. -/
theorem dropWhile_run
    (hRun : ∀ c ∈ run, p c = true)
    (hEnd : ∀ c ∈ rest.head?, p c = false) :
    (run ++ rest).dropWhile p = rest := by
  rw [List.dropWhile_append_of_pos hRun]
  cases rest with
  | nil => rfl
  | cons c rest =>
      have hc : ¬ p c = true := by
        simp [hEnd c (by simp)]
      rw [List.dropWhile_cons_of_neg hc]

/- A class has ended where its longest run has. -/
theorem head_dropWhile
    (p : Char → Bool)
    (cs : List Char) :
    ∀ c ∈ (cs.dropWhile p).head?, p c = false := by
  intro c hc
  have h := List.head?_dropWhile_not p cs
  rw [Option.mem_def.mp hc] at h
  simpa using h

/- All that is taken is of the class. -/
theorem forall_mem_takeWhile
    (p : Char → Bool)
    (cs : List Char) :
    ∀ c ∈ cs.takeWhile p, p c = true := by
  intro c hc
  exact List.all_eq_true.mp List.all_takeWhile c hc

/- Blanks in front of something else are dropped. -/
theorem dropBlanks_run
    (hRun : run.all isBlank = true)
    (hEnd : ∀ c ∈ rest.head?, isBlank c = false) :
    dropBlanks (run ++ rest) = rest :=
  dropWhile_run (List.all_eq_true.mp hRun) hEnd

end Text

end Reformat

------------------------------------------------------------
-- Blank Ends
------------------------------------------------------------

namespace Reformat

namespace Text

/- Blanks around a word are taken off. -/
theorem trimChars_append
    {before word after : List Char}
    (hBefore : before.all isBlank = true)
    (hAfter : after.all isBlank = true)
    (hSome : word ≠ [])
    (hWord : ∀ c ∈ word, isBlank c = false) :
    trimChars (before ++ word ++ after) = word := by
  have hFront :
      dropBlanks (before ++ (word ++ after)) =
        word ++ after := by
    apply dropBlanks_run hBefore
    intro c hc
    cases word with
    | nil => exact absurd rfl hSome
    | cons d word =>
        have hEq : d = c := by simpa using hc
        exact hWord c (by simp [hEq])
  have hBack :
      dropBlanks (after.reverse ++ word.reverse) =
        word.reverse := by
    apply dropBlanks_run
    · rw [List.all_reverse]
      exact hAfter
    · intro c hc
      have hMem := List.mem_of_head? hc
      exact hWord c (List.mem_reverse.mp hMem)
  unfold trimChars
  rw [List.append_assoc, hFront, List.reverse_append, hBack,
    List.reverse_reverse]

/- What is taken off at the ends is blank. -/
theorem exists_append_trimChars (cs : List Char) :
    ∃ before after,
      before.all isBlank = true ∧
        after.all isBlank = true ∧
          cs = before ++ trimChars cs ++ after := by
  have hFront := takeWhile_append_dropBlanks cs
  have hBack :=
    takeWhile_append_dropBlanks (dropBlanks cs).reverse
  refine
    ⟨cs.takeWhile isBlank,
      ((dropBlanks cs).reverse.takeWhile isBlank).reverse,
      List.all_takeWhile, ?_, ?_⟩
  · rw [List.all_reverse]
    exact List.all_takeWhile
  · have hEnd := congrArg List.reverse hBack
    rw [List.reverse_append, List.reverse_reverse] at hEnd
    rw [List.append_assoc]
    unfold trimChars
    rw [hEnd, hFront]

end Text

end Reformat

------------------------------------------------------------
-- Stretches Up To A Mark
------------------------------------------------------------

namespace Reformat

namespace Text

variable {mark : Char}
variable {front rest : List Char}

/- The first mark ends a stretch. -/
theorem stretch_run
    (hMark : mark ∉ front) :
    stretch mark (front ++ mark :: rest) =
      (front, mark :: rest) := by
  have hFront :
      ∀ c ∈ front, decide (c ≠ mark) = true := by
    intro c hc
    have hNe : c ≠ mark := fun h => hMark (h ▸ hc)
    simp [hNe]
  have hEnd :
      ∀ c ∈ (mark :: rest).head?,
        decide (c ≠ mark) = false := by
    intro c hc
    simp only [List.head?_cons, Option.mem_some_iff] at hc
    simp [hc]
  unfold stretch
  rw [takeWhile_run hFront hEnd, dropWhile_run hFront hEnd]

/- The mark that ends a stretch is the first one. -/
theorem eq_of_stretch
    {cs : List Char}
    {c : Char}
    (h : stretch mark cs = (front, c :: rest)) :
    cs = front ++ mark :: rest ∧ mark ∉ front := by
  have hAppend := stretch_append mark cs
  rw [h] at hAppend
  rcases Prod.mk.inj h with ⟨hFront, hRest⟩
  have hHead : c = mark := by
    have hEnds :=
      head_dropWhile (fun c => decide (c ≠ mark)) cs c
    rw [hRest] at hEnds
    simpa using hEnds (by simp)
  refine ⟨?_, ?_⟩
  · rw [← hHead]
    exact hAppend.symm
  · rw [← hFront]
    intro hMem
    have hNot := forall_mem_takeWhile _ cs mark hMem
    simp at hNot

end Text

end Reformat

------------------------------------------------------------
-- Small Classes
------------------------------------------------------------

namespace Reformat

namespace Text

/- The code points of some ranges. -/
def codes (ranges : List (Nat × Nat)) : List Nat :=
  ranges.flatMap fun r => List.range' r.1 (r.2 + 1 - r.1)

/- What holds for each code point holds for the class. -/
theorem forall_inRanges
    {ranges : List (Nat × Nat)}
    {P : Char → Prop}
    (hCodes : ∀ n ∈ codes ranges, P (Char.ofNat n)) :
    ∀ c, inRanges ranges c = true → P c := by
  intro c hc
  rcases (inRanges_iff ranges c).mp hc with
    ⟨r, hr, hFirst, hLast⟩
  have hCode : c.toNat ∈ codes ranges := by
    apply List.mem_flatMap.mpr
    refine ⟨r, hr, ?_⟩
    rw [List.mem_range'_1]
    omega
  rw [← Char.ofNat_toNat c]
  exact hCodes c.toNat hCode

/- A blank is no character that is not blank. -/
theorem ne_of_isBlank
    {c d : Char}
    (hBlank : isBlank c = true)
    (hNot : isBlank d = false) :
    c ≠ d := by
  intro hEq
  rw [hEq, hNot] at hBlank
  exact Bool.false_ne_true hBlank

/- No blank is part of a word. -/
theorem isWordChar_of_isBlank :
    ∀ c, isBlank c = true → isWordChar c = false := by
  apply forall_inRanges
  decide +kernel

end Text

end Reformat
