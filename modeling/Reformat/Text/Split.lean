/-
  Splitting texts at every occurrence of a character.

  A text has one more part than it has separators, so there is
  always a first part.

  Key definitions include:
    * `Text.splitOn`

  Main statements:
    * `Text.splitOn_append_cons`: a separator ends the first
      part.
-/

------------------------------------------------------------
-- Parts
------------------------------------------------------------

namespace Reformat

namespace Text

/- The first part and the others, without separators. -/
def splitOn
    (separator : Char)
    (cs : List Char) :
    List Char × List (List Char) :=
  cs.foldr
    (fun c parts =>
      if c = separator then ([], parts.1 :: parts.2)
      else (c :: parts.1, parts.2))
    ([], [])

/- The first separator ends the first part. -/
theorem splitOn_append_cons
    (separator : Char)
    (a b : List Char)
    (h : separator ∉ a) :
    splitOn separator (a ++ separator :: b) =
      (a, (splitOn separator b).1 ::
        (splitOn separator b).2) := by
  induction a with
  | nil => simp [splitOn]
  | cons c a ih =>
      simp only [List.mem_cons, not_or] at h
      have hc : c ≠ separator := fun e => h.1 e.symm
      have ih := ih h.2
      simp only [splitOn, List.cons_append,
        List.foldr_cons] at ih ⊢
      rw [if_neg hc, ih]

/- A text without the separator is its only part. -/
theorem splitOn_of_not_mem
    (separator : Char)
    (a : List Char)
    (h : separator ∉ a) :
    splitOn separator a = (a, []) := by
  induction a with
  | nil => rfl
  | cons c a ih =>
      simp only [List.mem_cons, not_or] at h
      have hc : c ≠ separator := fun e => h.1 e.symm
      have ih := ih h.2
      simp only [splitOn, List.foldr_cons] at ih ⊢
      rw [if_neg hc, ih]

end Text

end Reformat
